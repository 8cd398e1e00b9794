import Mathlib.Data.List.Basic

/-!
# A list in blocks of one size

The complete blocks of a list from its start, and the part behind them, which is
shorter than a block.  Both are taken apart one block at a time.
-/

set_option autoImplicit false

namespace KizunaLink.Lib

open List

universe u

variable {Item : Type u} {size : Nat} {items : List Item}

/-- The complete blocks, one after the other. -/
def blocks (size : Nat) (items : List Item) : List (List Item) :=
  (List.range (items.length / size)).map fun number => (items.drop (number * size)).take size

/-- What stands behind the last complete block. -/
def lastPart (size : Nat) (items : List Item) : List Item :=
  items.drop (items.length / size * size)

theorem blocks_of_lt (short : items.length < size) : blocks size items = [] := by
  rw [blocks, Nat.div_eq_of_lt short]
  rfl

theorem lastPart_of_lt (short : items.length < size) : lastPart size items = items := by
  rw [lastPart, Nat.div_eq_of_lt short, Nat.zero_mul, drop_zero]

section

variable (positive : 0 < size) (whole : size ≤ items.length)
include positive whole

/-- The number of blocks when the first one has been taken off. -/
theorem blockCount_step : items.length / size = (items.drop size).length / size + 1 := by
  rw [length_drop, ← Nat.div_eq_sub_div positive whole]

theorem blocks_step : blocks size items = items.take size :: blocks size (items.drop size) := by
  rw [blocks, blockCount_step positive whole, range_succ_eq_map, map_cons, List.map_map,
    Nat.zero_mul, drop_zero, blocks]
  refine congrArg _ (map_congr_left fun number _ => ?_)
  rw [Function.comp_apply, drop_drop, Nat.succ_mul, Nat.add_comm]

theorem lastPart_step : lastPart size items = lastPart size (items.drop size) := by
  rw [lastPart, blockCount_step positive whole, lastPart, drop_drop, Nat.succ_mul, Nat.add_comm]

end

/-- The induction that takes one block off at a time. -/
theorem blockInduction {motive : List Item → Prop} (positive : 0 < size)
    (short : ∀ items : List Item, items.length < size → motive items)
    (step : ∀ items : List Item, size ≤ items.length → motive (items.drop size) → motive items)
    (items : List Item) : motive items := by
  induction length : items.length using Nat.strongRecOn generalizing items with
  | ind count ih =>
    by_cases whole : size ≤ items.length
    · refine step items whole (ih (count - size) ?_ _ ?_)
      · omega
      · rw [length_drop, length]
    · exact short items (Nat.lt_of_not_le whole)

end KizunaLink.Lib
