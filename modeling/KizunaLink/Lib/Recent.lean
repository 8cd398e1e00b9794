import Mathlib.Data.List.DropRight
import Mathlib.Data.List.Pairwise

/-!
# The last entries of a log

A queue of bounded size behind which a log grows holds the last entries of the log.  In
a log of strictly increasing numbers, a number is among the last ones if no number of
the log is far above it.
-/

set_option autoImplicit false

namespace KizunaLink.Lib

open List

universe u

variable {Item : Type u}

/-- A queue that drops its front when it gets too long. -/
def pushRecent (size : Nat) (queue : List Item) (item : Item) : List Item :=
  if size < (queue ++ [item]).length then (queue ++ [item]).tail else queue ++ [item]

theorem pushRecent_rtake (size : Nat) (log : List Item) (item : Item) :
    pushRecent size (log.rtake size) item = (log ++ [item]).rtake size := by
  have length : (log.rtake size).length = min size log.length := by
    rw [List.rtake, length_drop]
    omega
  rw [pushRecent, length_append, length_singleton, length, List.rtake,
    ← drop_append_of_le_length (Nat.sub_le _ _), List.rtake, length_append,
    length_singleton]
  by_cases full : size ≤ log.length
  · rw [if_pos (by omega), tail_drop, Nat.sub_add_comm full]
  · rw [if_neg (by omega), Nat.sub_eq_zero_of_le (by omega), Nat.sub_eq_zero_of_le (by omega)]

/-- Each entry is above the one before. -/
theorem add_le_getElem_of_increasing {log : List Nat} (increasing : log.Pairwise (· < ·))
    {index distance : Nat} (bound : index + distance < log.length) :
    log[index] + distance ≤ log[index + distance] := by
  induction distance with
  | zero => simp
  | succ distance ih =>
    have before := ih (by omega)
    have step : log[index + distance] < log[index + (distance + 1)] :=
      pairwise_iff_getElem.mp increasing _ _ (by omega) bound (by omega)
    omega

theorem mem_rtake_of_close {log : List Nat} (increasing : log.Pairwise (· < ·)) {size value : Nat}
    (inside : value ∈ log) (close : ∀ other ∈ log, other < value + size) :
    value ∈ log.rtake size := by
  obtain ⟨index, bound, rfl⟩ := getElem_of_mem inside
  by_cases recent : log.length - size ≤ index
  · rw [List.rtake, mem_drop_iff_getElem]
    exact ⟨index - (log.length - size), by omega, by congr 1; omega⟩
  · -- an entry `size` places behind is too far above
    have there : index + size < log.length := by omega
    have above := add_le_getElem_of_increasing increasing there
    have near := close _ (getElem_mem there)
    omega

end KizunaLink.Lib
