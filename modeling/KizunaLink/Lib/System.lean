import Mathlib.Logic.Basic
import Mathlib.Data.List.Basic
import Mathlib.Tactic.Ring

/-!
# Guarded transition systems and conditional invariants

A system is an executable step function: `step state act` is `some next` when
the act is enabled and `none` otherwise.  Everything a program does not decide
by itself (the scheduler, the network, the answers of foreign code) is part of
the act, so a run is a list of acts and replaying one is evaluation.

`Meets ok` says that every step of a run satisfies a condition on the state it
starts from.  The invariant rule is stated for such runs; a plain invariant is
the case in which the condition is trivial.
-/

set_option autoImplicit false

namespace KizunaLink.Lib

open List

universe u v

structure System (State : Type u) (Act : Type v) where
  step : State → Act → Option State

namespace System

variable {State : Type u} {Act : Type v} (sys : System State Act)

def run : State → List Act → Option State
  | state, [] => some state
  | state, act :: rest =>
    match sys.step state act with
    | none => none
    | some next => run next rest

/-- Every step of the run starts in a state that satisfies `ok` for its act. -/
def Meets (ok : State → Act → Prop) : State → List Act → Prop
  | _, [] => True
  | state, act :: rest =>
    ok state act ∧ ∀ next, sys.step state act = some next → Meets ok next rest

/-- On a concrete run a decidable condition is checked by evaluation. -/
instance decidableMeets (ok : State → Act → Prop) [∀ state act, Decidable (ok state act)] :
    ∀ (state : State) (acts : List Act), Decidable (sys.Meets ok state acts)
  | _, [] => isTrue trivial
  | state, act :: rest =>
    letI : DecidablePred fun next => sys.Meets ok next rest :=
      fun next => decidableMeets ok next rest
    inferInstanceAs
      (Decidable (ok state act ∧ ∀ next ∈ sys.step state act, sys.Meets ok next rest))

variable {state final : State} (ok : State → Act → Prop) (Inv : State → Prop) (acts : List Act)
  (first second : List Act)

theorem run_cons_of_step {state next : State} {act : Act} (rest : List Act)
    (stepped : sys.step state act = some next) :
    sys.run state (act :: rest) = sys.run next rest := by
  simp [run, stepped]

theorem run_cons_some {act : Act} {rest : List Act}
    (success : sys.run state (act :: rest) = some final) :
    ∃ next, sys.step state act = some next ∧ sys.run next rest = some final := by
  cases stepped : sys.step state act with
  | none => simp [run, stepped] at success
  | some next =>
    rw [sys.run_cons_of_step rest stepped] at success
    exact ⟨next, rfl, success⟩

theorem run_append (state middle : State) (reached : sys.run state first = some middle) :
    sys.run state (first ++ second) = sys.run middle second := by
  induction first generalizing state with
  | nil =>
    cases reached
    rfl
  | cons act rest ih =>
    obtain ⟨next, stepped, tailRun⟩ := sys.run_cons_some reached
    rw [cons_append, sys.run_cons_of_step _ stepped]
    exact ih next tailRun

/-- The invariant rule for runs whose steps all meet a condition. -/
theorem run_invariant
    (preserved : ∀ {state act next}, Inv state → ok state act → sys.step state act = some next →
      Inv next) (acts : List Act) (initial : Inv state) (meets : sys.Meets ok state acts)
    (reached : sys.run state acts = some final) : Inv final := by
  induction acts generalizing state with
  | nil =>
    cases reached
    exact initial
  | cons act rest ih =>
    obtain ⟨next, stepped, tailRun⟩ := sys.run_cons_some reached
    exact ih (preserved initial meets.1 stepped) (meets.2 next stepped) tailRun

/-- A condition that holds of the acts whatever the state. -/
theorem meets_of_forall (always : ∀ act ∈ acts, ∀ state, ok state act) (state : State) :
    sys.Meets ok state acts := by
  induction acts generalizing state with
  | nil => trivial
  | cons act rest ih =>
    obtain ⟨here, others⟩ := forall_mem_cons.mp always
    exact ⟨here state, fun next _ => ih others next⟩

theorem meets_trivial (state : State) : sys.Meets (fun _ _ => True) state acts :=
  sys.meets_of_forall _ acts (fun _ _ _ => trivial) state

theorem meets_and {ok other : State → Act → Prop} {state : State} (meets : sys.Meets ok state acts)
    (also : sys.Meets other state acts) :
    sys.Meets (fun state act => ok state act ∧ other state act) state acts := by
  induction acts generalizing state with
  | nil => trivial
  | cons act rest ih =>
    exact ⟨⟨meets.1, also.1⟩, fun next stepped =>
      ih (meets.2 next stepped) (also.2 next stepped)⟩

theorem meets_append (state : State) (front : sys.Meets ok state first)
    (back : ∀ middle, sys.run state first = some middle → sys.Meets ok middle second) :
    sys.Meets ok state (first ++ second) := by
  induction first generalizing state with
  | nil => exact back state rfl
  | cons act rest ih =>
    refine ⟨front.1, fun next stepped => ih next (front.2 next stepped) ?_⟩
    intro middle reached
    exact back middle ((sys.run_cons_of_step rest stepped).trans reached)

/-- The two parts of a run that meets the condition. -/
theorem meets_of_append (state : State) (meets : sys.Meets ok state (first ++ second)) :
    sys.Meets ok state first ∧
      ∀ middle, sys.run state first = some middle → sys.Meets ok middle second := by
  induction first generalizing state with
  | nil =>
    refine ⟨trivial, fun middle reached => ?_⟩
    cases reached
    exact meets
  | cons act rest ih =>
    refine ⟨⟨meets.1, fun next stepped => (ih next (meets.2 next stepped)).1⟩, ?_⟩
    intro middle reached
    obtain ⟨next, stepped, tailRun⟩ := sys.run_cons_some reached
    exact (ih next (meets.2 next stepped)).2 middle tailRun

/-- Two conditions that agree wherever the invariant holds are met by the same runs. -/
theorem meets_iff_of_invariant (ok other : State → Act → Prop) (Inv : State → Prop)
    (agree : ∀ state act, Inv state → (ok state act ↔ other state act))
    (preserved : ∀ {state act next}, Inv state → sys.step state act = some next → Inv next)
    (acts : List Act) {state : State} (initial : Inv state) :
    sys.Meets ok state acts ↔ sys.Meets other state acts := by
  induction acts generalizing state with
  | nil => exact Iff.rfl
  | cons act rest ih =>
    refine and_congr (agree state act initial) (forall_congr' fun next => ?_)
    exact imp_congr_right fun stepped => ih (preserved initial stepped)

/-- A step that misses the condition leaves a mark that no later step removes, in states that
satisfy an invariant. -/
theorem run_of_not_meets_of_invariant (Inv Mark : State → Prop)
    (preserved : ∀ {state act next}, Inv state → sys.step state act = some next → Inv next)
    (marks : ∀ {state act next}, Inv state → ¬ ok state act → sys.step state act = some next →
      Mark next)
    (kept : ∀ {state act next}, Inv state → Mark state → sys.step state act = some next → Mark next)
    (acts : List Act) (initial : Inv state) (missed : ¬ sys.Meets ok state acts)
    (reached : sys.run state acts = some final) : Mark final := by
  induction acts generalizing state with
  | nil => exact absurd trivial missed
  | cons act rest ih =>
    obtain ⟨next, stepped, tailRun⟩ := sys.run_cons_some reached
    have holds := preserved initial stepped
    by_cases here : ok state act
    · refine ih holds (fun later => missed ⟨here, ?_⟩) tailRun
      intro other same
      cases Option.some.inj (stepped.symm.trans same)
      exact later
    · have marked := marks initial here stepped
      have both := sys.run_invariant (fun _ _ => True) (fun state => Inv state ∧ Mark state)
        (fun both _ stepped => ⟨preserved both.1 stepped, kept both.1 both.2 stepped⟩)
        rest ⟨holds, marked⟩ (sys.meets_trivial rest next) tailRun
      exact both.2

/-- The same in all states. -/
theorem run_of_not_meets (Mark : State → Prop)
    (marks : ∀ {state act next}, ¬ ok state act → sys.step state act = some next → Mark next)
    (kept : ∀ {state act next}, Mark state → sys.step state act = some next → Mark next)
    (acts : List Act) (missed : ¬ sys.Meets ok state acts)
    (reached : sys.run state acts = some final) : Mark final :=
  sys.run_of_not_meets_of_invariant ok (fun _ => True) Mark (fun _ _ => trivial)
    (fun _ missed stepped => marks missed stepped) (fun _ marked stepped => kept marked stepped)
    acts trivial missed reached

/-- The invariant rule for a condition on the acts alone. -/
theorem run_invariant_of_forall {ok : Act → Prop}
    (preserved : ∀ {state act next}, Inv state → ok act → sys.step state act = some next → Inv next)
    (acts : List Act) (always : ∀ act ∈ acts, ok act) (initial : Inv state)
    (reached : sys.run state acts = some final) : Inv final :=
  sys.run_invariant (fun _ act => ok act) Inv preserved acts initial
    (sys.meets_of_forall _ acts (fun act member _ => always act member) state) reached

/-- The unconditional invariant rule. -/
theorem run_invariant_of_step
    (preserved : ∀ {state act next}, Inv state → sys.step state act = some next → Inv next)
    (acts : List Act) (initial : Inv state) (reached : sys.run state acts = some final) :
    Inv final :=
  sys.run_invariant (fun _ _ => True) Inv (fun holds _ stepped => preserved holds stepped)
    acts initial (sys.meets_trivial acts state) reached

/-- Two states stay related when one run leaves out the hidden acts of the other. -/
theorem run_without (hidden : Act → Bool) (ok : Act → Prop) (Rel : State → State → Prop)
    (dropped : ∀ state other act next, Rel state other → ok act → hidden act = true →
      sys.step state act = some next → Rel next other)
    (matched : ∀ state other act next, Rel state other → ok act → hidden act = false →
      sys.step state act = some next → ∃ after, sys.step other act = some after ∧ Rel next after)
    (acts : List Act) (all : ∀ act ∈ acts, ok act) {state other final : State}
    (related : Rel state other) (reached : sys.run state acts = some final) :
    ∃ last, sys.run other (acts.filter fun act => !hidden act) = some last ∧ Rel final last := by
  induction acts generalizing state other with
  | nil =>
    cases reached
    exact ⟨other, rfl, related⟩
  | cons act rest ih =>
    obtain ⟨next, stepped, tailRun⟩ := sys.run_cons_some reached
    obtain ⟨here, others⟩ := forall_mem_cons.mp all
    cases hides : hidden act with
    | true =>
      rw [filter_cons_of_neg (by simp [hides])]
      exact ih others (dropped state other act next related here hides stepped) tailRun
    | false =>
      obtain ⟨after, also, stays⟩ :=
        matched state other act next related here hides stepped
      rw [filter_cons_of_pos (by simp [hides]), sys.run_cons_of_step _ also]
      exact ih others stays tailRun

section Observed

variable {Watch : Type u} (observe : Watch → State → Act → Watch)

/-- The system with an observer that sees each step and decides none. -/
def observed : System (State × Watch) Act :=
  ⟨fun watched act =>
    (sys.step watched.1 act).map fun next => (next, observe watched.2 watched.1 act)⟩

theorem observed_step_some {watched next : State × Watch} {act : Act}
    (stepped : (sys.observed observe).step watched act = some next) :
    sys.step watched.1 act = some next.1 ∧ next.2 = observe watched.2 watched.1 act := by
  obtain ⟨state, plain, rfl⟩ := Option.map_eq_some_iff.mp stepped
  exact ⟨plain, rfl⟩

/-- What is observed are the runs of the system, and all of them. -/
theorem run_observed_iff (acts : List Act) (state final : State) (watch : Watch) :
    sys.run state acts = some final ↔
      ∃ seen, (sys.observed observe).run (state, watch) acts = some (final, seen) := by
  induction acts generalizing state watch with
  | nil => simp [run]
  | cons act rest ih =>
    cases stepped : sys.step state act with
    | none => simp [run, observed, stepped]
    | some next =>
      have watched : (sys.observed observe).step (state, watch) act =
          some (next, observe watch state act) := by
        simp [observed, stepped]
      rw [sys.run_cons_of_step rest stepped,
        (sys.observed observe).run_cons_of_step rest watched]
      exact ih next (observe watch state act)

end Observed

section View

variable {Seen : Type u} (view : State → Seen)

/-- States that look the same go on to look the same. -/
theorem run_view_eq (respects : ∀ state other act, view state = view other →
      (sys.step state act).map view = (sys.step other act).map view)
    (acts : List Act) {state other : State} (same : view state = view other) :
    (sys.run state acts).map view = (sys.run other acts).map view := by
  induction acts generalizing state other with
  | nil => simp [run, same]
  | cons act rest ih =>
    have seen := respects state other act same
    cases first : sys.step state act with
    | none =>
      have second : sys.step other act = none := by simpa [first] using seen.symm
      simp [run, first, second]
    | some next =>
      obtain ⟨last, second, alike⟩ : ∃ last, sys.step other act = some last ∧
          view last = view next := by
        simpa [first, Option.map_eq_some_iff] using seen.symm
      rw [sys.run_cons_of_step rest first, sys.run_cons_of_step rest second]
      exact ih alike.symm

end View

section Part

variable {Part : Type u} {PartAct : Type v} (part : System Part PartAct)
  (view : State → Part) (own : Act → Option PartAct)

/-- A part of the state that steps by itself, and only at the acts it takes part in. -/
def Contains : Prop :=
  ∀ state act next, sys.step state act = some next →
    match own act with
    | none => view next = view state
    | some inner => part.step (view state) inner = some (view next)

/-- A run of the whole shows a run of the part. -/
theorem run_part (contains : sys.Contains part view own) (ok : Part → PartAct → Prop)
    (acts : List Act) {state final : State}
    (meets : sys.Meets (fun state act => ∀ inner ∈ own act, ok (view state) inner) state acts)
    (reached : sys.run state acts = some final) :
    part.Meets ok (view state) (acts.filterMap own) ∧
      part.run (view state) (acts.filterMap own) = some (view final) := by
  induction acts generalizing state with
  | nil =>
    cases reached
    exact ⟨trivial, rfl⟩
  | cons act rest ih =>
    obtain ⟨next, stepped, tailRun⟩ := sys.run_cons_some reached
    obtain ⟨restMeets, restRun⟩ := ih (meets.2 next stepped) tailRun
    have inside := contains state act next stepped
    cases taken : own act with
    | none =>
      rw [taken] at inside
      rw [filterMap_cons_none taken, ← inside]
      exact ⟨restMeets, restRun⟩
    | some inner =>
      rw [taken] at inside
      rw [filterMap_cons_some taken, part.run_cons_of_step _ inside]
      refine ⟨⟨meets.1 inner taken, fun other same => ?_⟩, restRun⟩
      cases Option.some.inj (inside.symm.trans same)
      exact restMeets

end Part

end System

end KizunaLink.Lib
