import Mathlib.Data.List.Chain
import Mathlib.Data.List.Nodup
import Mathlib.Tactic.Ring

/-!
# Runs of a wrapping counter

A list of 32-bit counter values in which every value is the successor of the
one before it, with wrap-around.  Such a run repeats no value until it is
longer than the counter has values.
-/

set_option autoImplicit false

namespace KizunaLink.Lib

/-- Every value is one more than the value before it, modulo 2^32. -/
def Consecutive (values : List UInt32) : Prop :=
  values.IsChain fun earlier later => later = earlier + 1

/-- The value may come next: there is no last value, or it is one more. -/
def Follows (values : List UInt32) (value : UInt32) : Prop :=
  ∀ last ∈ values.getLast?, value = last + 1

@[simp] theorem consecutive_nil : Consecutive [] := List.IsChain.nil

theorem Consecutive.append {values : List UInt32} {value : UInt32}
    (consecutive : Consecutive values) (follows : Follows values value) :
    Consecutive (values ++ [value]) := by
  apply List.IsChain.append consecutive (List.IsChain.singleton value)
  intro last isLast next isNext
  cases Option.mem_some_iff.mp isNext
  exact follows last isLast

theorem follows_append (values : List UInt32) (value : UInt32) :
    Follows (values ++ [value]) (value + 1) := by
  intro last member
  rw [List.getLast?_append, List.getLast?_singleton, Option.some_or] at member
  rw [Option.mem_some_iff.mp member]

theorem Consecutive.toNat_getElem {values : List UInt32} (consecutive : Consecutive values)
    (index : Nat) (inside : index < values.length) (nonempty : 0 < values.length) :
    values[index].toNat = (values[0].toNat + index) % 2 ^ 32 := by
  induction index with
  | zero => exact (Nat.mod_eq_of_lt values[0].toNat_lt).symm
  | succ index ih =>
    have previous := ih (Nat.lt_of_succ_lt inside)
    have successor : values[index + 1] = values[index] + 1 :=
      List.isChain_iff_getElem.mp consecutive index inside
    rw [successor, UInt32.toNat_add, previous]
    simp only [UInt32.reduceToNat, Nat.mod_add_mod]
    rw [Nat.add_assoc]

/-- No value repeats while the run is no longer than the counter has values. -/
theorem Consecutive.nodup {values : List UInt32} (consecutive : Consecutive values)
    (short : values.length ≤ 2 ^ 32) : values.Nodup := by
  rw [List.nodup_iff_injective_getElem]
  intro first second same
  have nonempty : 0 < values.length := Nat.zero_lt_of_lt first.isLt
  have firstValue := consecutive.toNat_getElem first.val first.isLt nonempty
  have secondValue := consecutive.toNat_getElem second.val second.isLt nonempty
  have sameNat : values[first.val].toNat = values[second.val].toNat := congrArg UInt32.toNat same
  have firstBound := first.isLt
  have secondBound := second.isLt
  apply Fin.ext
  omega

end KizunaLink.Lib
