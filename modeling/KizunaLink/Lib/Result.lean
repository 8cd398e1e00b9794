import Mathlib.Logic.Basic
import Mathlib.Tactic.Ring

/-!
# Peeling computations that may fail

The two rules by which a proof takes a successful `Except` computation apart.
-/

set_option autoImplicit false

namespace KizunaLink.Lib

universe u v

variable {Problem : Type u} {Value Result : Type v}

theorem bind_ok {first : Except Problem Value} {next : Value → Except Problem Result}
    {result : Result} (success : (first >>= next) = .ok result) :
    ∃ value, first = .ok value ∧ next value = .ok result := by
  cases first with
  | error problem => cases success
  | ok value => exact ⟨value, rfl, success⟩

/-- A computation that throws under a condition succeeds only when it is false. -/
theorem guard_ok {condition : Prop} [Decidable condition] {problem : Problem}
    {next : Except Problem Result} {result : Result}
    (success : (if condition then .error problem else next) = .ok result) :
    ¬condition ∧ next = .ok result := by
  by_cases holds : condition
  · rw [if_pos holds] at success
    cases success
  · rw [if_neg holds] at success
    exact ⟨holds, success⟩

end KizunaLink.Lib
