import KizunaLink.Lib.System
import Mathlib.Logic.Function.Basic

/-!
# Tasks that share a cell

A routine is what one task does: its inner acts are on its own state, and its outer
acts on its state and a cell.  Many tasks run the routine with one cell between
them.  When every task starts on a clean cell and the cell is then left to it until
the next task starts, each fares as it would alone: what it comes to depends on its
own acts only.
-/

set_option autoImplicit false

namespace KizunaLink.Lib

open Function

structure Routine (Task Cell Inner Outer : Type) where
  idle : Task
  clean : Cell
  inner : Task → Inner → Option Task
  outer : Task → Cell → Outer → Option (Task × Cell)

/-- The first act of a task is an inner one. -/
inductive RoutineAct (Inner Outer : Type) where
  | start (act : Inner)
  | inner (act : Inner)
  | outer (act : Outer)
  deriving DecidableEq

/-- The tasks by their numbers, and the one that started last. -/
structure Sharing (Task Cell : Type) where
  tasks : Nat → Task
  cell : Cell
  latest : Option Nat := none

namespace Routine

variable {Task Cell Inner Outer : Type} (routine : Routine Task Cell Inner Outer)

/-- One task, which has a clean cell to itself. -/
def alone : System (Task × Cell) (RoutineAct Inner Outer) :=
  ⟨fun state act =>
    match act with
    | .start act => (routine.inner state.1 act).map fun task => (task, routine.clean)
    | .inner act => (routine.inner state.1 act).map fun task => (task, state.2)
    | .outer act => routine.outer state.1 state.2 act⟩

def initial : Sharing Task Cell := { tasks := fun _ => routine.idle, cell := routine.clean }

/-- A start leaves the cell as it is. -/
def together : System (Sharing Task Cell) (Nat × RoutineAct Inner Outer) :=
  ⟨fun sharing act =>
    match act.2 with
    | .start inner =>
      (routine.inner (sharing.tasks act.1) inner).map fun task =>
        { sharing with
          tasks := Function.update sharing.tasks act.1 task
          latest := some act.1 }
    | .inner inner =>
      (routine.inner (sharing.tasks act.1) inner).map fun task =>
        { sharing with tasks := Function.update sharing.tasks act.1 task }
    | .outer outer =>
      (routine.outer (sharing.tasks act.1) sharing.cell outer).map fun (task, cell) =>
        { sharing with tasks := Function.update sharing.tasks act.1 task, cell }⟩

/-- A task starts on a clean cell, and the cell is used by the latest task only. -/
def LeftAlone (sharing : Sharing Task Cell) (act : Nat × RoutineAct Inner Outer) : Prop :=
  match act.2 with
  | .start _ => sharing.cell = routine.clean
  | .inner _ => True
  | .outer _ => sharing.latest = some act.1

instance [DecidableEq Cell] (sharing : Sharing Task Cell) :
    ∀ act : Nat × RoutineAct Inner Outer, Decidable (routine.LeftAlone sharing act)
  | (_, .start _) => inferInstanceAs (Decidable (sharing.cell = routine.clean))
  | (_, .inner _) => isTrue trivial
  | (who, .outer _) => inferInstanceAs (Decidable (sharing.latest = some who))

/-- The acts of one task. -/
def own (who : Nat) (acts : List (Nat × RoutineAct Inner Outer)) :
    List (RoutineAct Inner Outer) :=
  acts.filterMap fun act => if act.1 = who then some act.2 else none

theorem own_cons_self (who : Nat) (act : RoutineAct Inner Outer)
    (rest : List (Nat × RoutineAct Inner Outer)) :
    own who ((who, act) :: rest) = act :: own who rest := by
  simp [own]

theorem own_cons_other {who other : Nat} (act : RoutineAct Inner Outer)
    (rest : List (Nat × RoutineAct Inner Outer)) (different : other ≠ who) :
    own who ((other, act) :: rest) = own who rest := by
  simp [own, different]

variable {routine}

/-- Each task is as in a run of its own, and the latest one has the cell of that run. -/
def Agree (sharing : Sharing Task Cell) (runs : Nat → Task × Cell) : Prop :=
  ∀ who, sharing.tasks who = (runs who).1 ∧
    (sharing.latest = some who → sharing.cell = (runs who).2)

/-- One task has moved on: its cell counts if it is the latest, and any other that is the
latest must have been so before, with the same cell. -/
theorem Agree.update {sharing next : Sharing Task Cell} {runs : Nat → Task × Cell} {who : Nat}
    {after : Task × Cell} (agree : Agree sharing runs)
    (tasks : next.tasks = Function.update sharing.tasks who after.1)
    (mine : next.latest = some who → next.cell = after.2)
    (others : ∀ other, other ≠ who → next.latest = some other →
      sharing.latest = some other ∧ next.cell = sharing.cell) :
    Agree next (Function.update runs who after) := by
  intro other
  rw [tasks]
  by_cases same : other = who
  · subst same
    rw [update_self, update_self]
    exact ⟨rfl, mine⟩
  · rw [update_of_ne same, update_of_ne same]
    refine ⟨(agree other).1, fun latest => ?_⟩
    obtain ⟨before, cell⟩ := others other same latest
    exact cell.trans ((agree other).2 before)

theorem Agree.step {sharing next : Sharing Task Cell} {runs : Nat → Task × Cell} {who : Nat}
    {act : RoutineAct Inner Outer} (agree : Agree sharing runs)
    (leftAlone : routine.LeftAlone sharing (who, act))
    (stepped : routine.together.step sharing (who, act) = some next) :
    ∃ after, routine.alone.step (runs who) act = some after ∧
      Agree next (Function.update runs who after) := by
  obtain ⟨sameTask, sameCell⟩ := agree who
  cases act with
  | start inner =>
    obtain ⟨task, moved, rfl⟩ := Option.map_eq_some_iff.mp stepped
    rw [sameTask] at moved
    refine ⟨(task, routine.clean), by simp [alone, moved],
      agree.update rfl (fun _ => leftAlone) fun other different latest => ?_⟩
    exact absurd (Option.some.inj latest).symm different
  | inner inner =>
    obtain ⟨task, moved, rfl⟩ := Option.map_eq_some_iff.mp stepped
    rw [sameTask] at moved
    exact ⟨(task, (runs who).2), by simp [alone, moved],
      agree.update rfl sameCell fun _ _ latest => ⟨latest, rfl⟩⟩
  | outer outer =>
    obtain ⟨⟨task, cell⟩, moved, rfl⟩ := Option.map_eq_some_iff.mp stepped
    have latest : sharing.latest = some who := leftAlone
    rw [sameTask, sameCell latest] at moved
    refine ⟨(task, cell), moved,
      agree.update rfl (fun _ => rfl) fun other different isLatest => ?_⟩
    exact absurd (Option.some.inj (isLatest.symm.trans latest)) different

/-- Along a run, every task takes the steps of its own run. -/
theorem Agree.run (acts : List (Nat × RoutineAct Inner Outer)) {sharing final : Sharing Task Cell}
    {runs : Nat → Task × Cell} (agree : Agree sharing runs)
    (meets : routine.together.Meets routine.LeftAlone sharing acts)
    (reached : routine.together.run sharing acts = some final) (who : Nat) :
    ∃ after, routine.alone.run (runs who) (own who acts) = some after ∧
      final.tasks who = after.1 := by
  induction acts generalizing sharing runs with
  | nil =>
    cases reached
    exact ⟨runs who, rfl, (agree who).1⟩
  | cons act rest ih =>
    obtain ⟨other, act⟩ := act
    obtain ⟨next, stepped, tailRun⟩ := routine.together.run_cons_some reached
    obtain ⟨moved, aloneStep, agreeNext⟩ := agree.step meets.1 stepped
    obtain ⟨after, restRun, task⟩ := ih agreeNext (meets.2 next stepped) tailRun
    refine ⟨after, ?_, task⟩
    by_cases same : other = who
    · subst same
      rw [update_self] at restRun
      rw [own_cons_self, routine.alone.run_cons_of_step _ aloneStep]
      exact restRun
    · rw [update_of_ne (Ne.symm same)] at restRun
      rw [own_cons_other act rest same]
      exact restRun

theorem run_own (acts : List (Nat × RoutineAct Inner Outer)) {final : Sharing Task Cell}
    (meets : routine.together.Meets routine.LeftAlone routine.initial acts)
    (reached : routine.together.run routine.initial acts = some final) (who : Nat) :
    ∃ after, routine.alone.run (routine.idle, routine.clean) (own who acts) = some after ∧
      final.tasks who = after.1 := by
  have agree : Agree routine.initial fun _ => (routine.idle, routine.clean) :=
    fun _ => ⟨rfl, fun _ => rfl⟩
  exact agree.run acts meets reached who

end Routine

end KizunaLink.Lib
