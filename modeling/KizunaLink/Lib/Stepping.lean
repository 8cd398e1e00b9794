import KizunaLink.Lib.Checked
import Mathlib.Algebra.Order.Floor.Semifield
import Mathlib.Data.Rat.Floor
import Mathlib.Tactic.Linarith

/-!
# Loops over a position that grows by a ratio

A resampler reads its input at positions `index`, `index + ratio`, `index + 2 * ratio`
and so on, and at each of them it pushes some output.  `passes` counts the positions
below a bound.  Such a loop returns if the ratio is positive and no access fails, and its
output is that of the positions in order.

`passes_add` splits the positions below `first + second` at the bound `first`.
-/

set_option autoImplicit false

namespace KizunaLink.Lib

open List

variable {Out : Type}

/-! ## Positions -/

/-- How many positions are below the bound. -/
def passes (ratio bound index : ℚ) : Nat := ⌈(bound - index) / ratio⌉₊

variable {ratio : ℚ}

variable {count : Nat} {bound index : ℚ} (out : ℚ → List Out)

theorem lt_passes (positive : 0 < ratio) :
    count < passes ratio bound index ↔ index + count * ratio < bound := by
  rw [passes, Nat.lt_ceil, lt_div_iff₀ positive, lt_sub_iff_add_lt']

theorem passes_le (positive : 0 < ratio) :
    passes ratio bound index ≤ count ↔ bound ≤ index + count * ratio := by
  rw [← not_lt, lt_passes positive, not_lt]

theorem le_index_passes (positive : 0 < ratio) (bound index : ℚ) :
    bound ≤ index + passes ratio bound index * ratio :=
  (passes_le positive).mp le_rfl

/-- The number of positions is the only one with this property. -/
theorem passes_eq (positive : 0 < ratio) (below : ∀ before < count, index + before * ratio < bound)
    (reached : bound ≤ index + count * ratio) : passes ratio bound index = count := by
  apply le_antisymm ((passes_le positive).mpr reached)
  by_contra fewer
  exact lt_irrefl _ ((lt_passes positive).mpr (below _ (not_le.mp fewer)))

/-- Only the distance to the bound counts. -/
theorem passes_sub (ratio bound index shift : ℚ) :
    passes ratio (bound - shift) (index - shift) = passes ratio bound index := by
  rw [passes, passes, sub_sub_sub_cancel_right]

/-- The positions below a bound, and those from there to a later bound. -/
theorem passes_add (positive : 0 < ratio) {first second : ℚ} (later : first ≤ second) (index : ℚ) :
    passes ratio second index = passes ratio first index +
      passes ratio second (index + passes ratio first index * ratio) := by
  apply passes_eq positive
  · intro before short
    by_cases early : before < passes ratio first index
    · exact ((lt_passes positive).mp early).trans_le later
    · obtain ⟨more, rfl⟩ := Nat.exists_eq_add_of_le (not_lt.mp early)
      have below := (lt_passes positive).mp (Nat.lt_of_add_lt_add_left short)
      rw [Nat.cast_add, add_mul, ← add_assoc]
      exact below
  · have reached := le_index_passes positive second
      (index + passes ratio first index * ratio)
    rw [Nat.cast_add, add_mul, ← add_assoc]
    exact reached

/-- What the first positions push, one after the other. -/
def outputs (out : ℚ → List Out) (ratio index : ℚ) (count : Nat) : List Out :=
  (List.range count).flatMap fun before : Nat => out (index + before * ratio)

theorem outputs_zero (ratio index : ℚ) : outputs out ratio index 0 = [] := rfl

theorem outputs_add (ratio index : ℚ) (first second : Nat) :
    outputs out ratio index (first + second) =
      outputs out ratio index first ++ outputs out ratio (index + first * ratio) second := by
  have shifted : ∀ before : Nat,
      index + (first + before : Nat) * ratio = index + first * ratio + before * ratio := by
    intro before
    rw [Nat.cast_add]
    ring
  rw [outputs, range_add, flatMap_append, flatMap_map]
  simp only [shifted]
  rfl

theorem outputs_succ (ratio index : ℚ) (count : Nat) :
    outputs out ratio index (count + 1) = out index ++ outputs out ratio (index + ratio) count := by
  have here : index + (0 : Nat) * ratio = index := by ring
  have next : index + (1 : Nat) * ratio = index + ratio := by ring
  rw [Nat.add_comm, outputs_add, next, outputs, range_one, flatMap_singleton, here]

/-- The output depends on what is pushed at the positions only. -/
theorem outputs_congr {out other : ℚ → List Out} {index moved : ℚ}
    (same : ∀ before < count, out (index + before * ratio) = other (moved + before * ratio)) :
    outputs out ratio index count = outputs other ratio moved count :=
  flatMap_congr fun before member => same before (mem_range.mp member)

/-- Equal outputs of pieces that are equally long have equal pieces. -/
theorem outputs_inj {out other : ℚ → List Out} {index : ℚ}
    (sized : ∀ position, (out position).length = (other position).length)
    (same : outputs out ratio index count = outputs other ratio index count) :
    ∀ before < count, out (index + before * ratio) = other (index + before * ratio) := by
  induction count with
  | zero => exact fun _ => nofun
  | succ count ih =>
    rw [outputs, outputs, range_succ, flatMap_append, flatMap_append, flatMap_singleton,
      flatMap_singleton] at same
    obtain ⟨front, last⟩ := append_inj' same (sized _)
    intro before short
    rcases Nat.lt_succ_iff_lt_or_eq.mp short with earlier | rfl
    · exact ih front before earlier
    · exact last

section Walk

variable (go : ℚ → Bool) (emit : ℚ → Checked (List Out)) (ratio : ℚ)

/-- One pass: `while go(index) { output.extend(emit(index)); index += ratio; }`. -/
def walkTurn (state : ℚ × List Out) : Checked (Turn (ℚ × List Out) (ℚ × List Out)) :=
  if go state.1 then do
    let pushed ← emit state.1
    pure (.next (state.1 + ratio, state.2 ++ pushed))
  else pure (.done state)

def walk (fuel : Nat) (index : ℚ) : Checked (ℚ × List Out) :=
  loop (walkTurn go emit ratio) fuel (index, [])

end Walk

variable {go : ℚ → Bool} {emit : ℚ → Checked (List Out)}

section

variable {count fuel : Nat} {index : ℚ} {output : List Out}
  (goes : ∀ before < count, go (index + before * ratio) = true ∧
    emit (index + before * ratio) = .ok (out (index + before * ratio)))
  (stops : go (index + count * ratio) = false) (enough : count < fuel)
include goes stops enough

theorem loop_walkTurn :
    loop (walkTurn go emit ratio) fuel (index, output) =
      .ok (index + count * ratio, output ++ outputs out ratio index count) := by
  have here : index + (0 : Nat) * ratio = index := by ring
  induction count generalizing fuel index output with
  | zero =>
    obtain ⟨fuel, rfl⟩ := Nat.exists_eq_add_of_lt enough
    rw [here] at stops
    rw [here, outputs_zero, append_nil, loop, walkTurn, stops]
    rfl
  | succ count ih =>
    obtain ⟨fuel, rfl⟩ := Nat.exists_eq_add_of_lt enough
    -- the positions behind the first one are those of the loop that starts at the next
    have shifted : ∀ before : Nat,
        index + ratio + before * ratio = index + (before + 1 : Nat) * ratio := by
      intro before
      rw [Nat.cast_add, Nat.cast_one]
      ring
    obtain ⟨going, pushed⟩ := goes 0 (Nat.succ_pos count)
    rw [here] at going pushed
    have turned : walkTurn go emit ratio (index, output) =
        .ok (.next (index + ratio, output ++ out index)) := by
      rw [walkTurn, if_pos going, pushed, ok_bind]
      rfl
    have rest := @ih (count + 1 + fuel) (index + ratio) (output ++ out index)
      (fun before short => by rw [shifted]; exact goes (before + 1) (Nat.succ_lt_succ short))
      (by rw [shifted]; exact stops) (by omega) (by ring)
    rw [loop, turned]
    dsimp only
    rw [rest, shifted, outputs_succ, append_assoc]

/-- The loop returns the output of its positions and the first position behind them. -/
theorem walk_ok : walk go emit ratio fuel index =
    .ok (index + count * ratio, outputs out ratio index count) :=
  loop_walkTurn out goes stops enough

end

/-- A loop that goes on below a bound. -/
theorem walk_passes (positive : 0 < ratio) (out : ℚ → List Out) {fuel : Nat}
    (emitted : ∀ position, index ≤ position → position < bound → emit position = .ok (out position))
    (enough : passes ratio bound index < fuel) :
    walk (fun position => decide (position < bound)) emit ratio fuel index =
      .ok (index + passes ratio bound index * ratio,
        outputs out ratio index (passes ratio bound index)) := by
  apply walk_ok out
  · intro before short
    have below := (lt_passes positive).mp short
    have forward : index ≤ index + before * ratio :=
      le_add_of_nonneg_right (mul_nonneg (Nat.cast_nonneg _) positive.le)
    exact ⟨decide_eq_true below, emitted _ forward below⟩
  · exact decide_eq_false (not_lt.mpr (le_index_passes positive bound index))
  · exact enough

/-- Every access succeeds, so the values are those of the accesses. -/
theorem mapM_ok {Item Value : Type} {items : List Item} {read : Item → Checked Value}
    {value : Item → Value} (reads : ∀ item ∈ items, read item = .ok (value item)) :
    items.mapM read = .ok (items.map value) := by
  induction items with
  | nil => rfl
  | cons item rest ih =>
    obtain ⟨first, others⟩ := forall_mem_cons.mp reads
    rw [mapM_cons, first, ok_bind, ih others, ok_bind]
    rfl

end KizunaLink.Lib
