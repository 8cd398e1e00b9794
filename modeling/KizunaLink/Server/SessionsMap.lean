import KizunaLink.Lib.System
import Mathlib.Data.List.Count
import Mathlib.Data.List.Perm.Basic

/-!
# The sessions map and the workers of the runtime

Model of the tasks that use one shard of the sessions map (a `DashMap`): REST
handlers that look a session up, and connection tasks that insert or remove one
(`resolve_session` and `handle_session_close` in api/ws/handler.rs).

A handler such as `update_player` keeps the read guard of its lookup until it
returns, over its await points; one such as `destroy_player` clones the session
and drops the guard at once.  A task at an await point gives its worker back.  A
connection task takes the write lock by blocking its thread: the worker can do
nothing else until no guard is left.  No await stands between taking the write
lock and releasing it, so a write is one step.

Whether a lookup has to wait behind a writer that is already waiting is left open:
both are steps.  Handlers are known by whether they keep their guard; connection
tasks run the same code and are only counted.
-/

set_option autoImplicit false

namespace KizunaLink.Server

open KizunaLink.Lib List

inductive Worker where
  | idle
  | handler (guard : Bool)
  | lookup (keeps : Bool)
  | blocked
  deriving DecidableEq, Repr

/-- `requests` have not started, `suspended` are at an await point and `woken` wait for
a worker to continue; `connections` are the connection tasks that are not blocked. -/
structure Runtime where
  workers : List Worker
  requests : List Bool
  connections : Nat
  suspended : List Bool := []
  woken : List Bool := []
  deriving DecidableEq, Repr

inductive RuntimeAct where
  | start (index worker : Nat)
  | queue (index worker : Nat)
  | grant (worker : Nat)
  | operate (worker : Nat)
  | unblock (worker : Nat)
  | suspend (worker : Nat)
  | wake (index : Nat)
  | resume (index worker : Nat)
  | finish (worker : Nat)
  deriving DecidableEq, Repr

namespace Runtime

variable (runtime : Runtime)

def guards : Nat :=
  runtime.workers.count (.handler true) + runtime.suspended.count true +
    runtime.woken.count true

def put (worker : Nat) (state : Worker) : Runtime :=
  { runtime with workers := runtime.workers.set worker state }

/-- A request leaves the list and runs on a worker, as `state` says. -/
def accept (index worker : Nat) (state : Bool → Worker) : Option Runtime :=
  if runtime.workers[worker]? = some .idle then
    runtime.requests[index]?.map fun keeps =>
      { runtime.put worker (state keeps) with requests := runtime.requests.eraseIdx index }
  else none

def step : RuntimeAct → Option Runtime
  | .start index worker => runtime.accept index worker .handler
  | .queue index worker =>
    if .blocked ∈ runtime.workers then runtime.accept index worker .lookup else none
  | .grant worker =>
    match runtime.workers[worker]? with
    | some (.lookup keeps) => some (runtime.put worker (.handler keeps))
    | some .idle | some (.handler _) | some .blocked | none => none
  | .operate worker =>
    if runtime.workers[worker]? = some .idle ∧ 0 < runtime.connections then
      -- Without a guard the write is done at once, and the task may write again later.
      if runtime.guards = 0 then some runtime
      else some { runtime.put worker .blocked with connections := runtime.connections - 1 }
    else none
  | .unblock worker =>
    if runtime.workers[worker]? = some .blocked ∧ runtime.guards = 0 then
      some { runtime.put worker .idle with connections := runtime.connections + 1 }
    else none
  | .suspend worker =>
    match runtime.workers[worker]? with
    | some (.handler guard) =>
      some { runtime.put worker .idle with suspended := guard :: runtime.suspended }
    | some .idle | some (.lookup _) | some .blocked | none => none
  | .wake index =>
    runtime.suspended[index]?.map fun guard =>
      { runtime with
        suspended := runtime.suspended.eraseIdx index
        woken := guard :: runtime.woken }
  | .resume index worker =>
    if runtime.workers[worker]? = some .idle then
      runtime.woken[index]?.map fun guard =>
        { runtime.put worker (.handler guard) with woken := runtime.woken.eraseIdx index }
    else none
  | .finish worker =>
    match runtime.workers[worker]? with
    | some (.handler _) => some (runtime.put worker .idle)
    | some .idle | some (.lookup _) | some .blocked | none => none

def new (workers : Nat) (requests : List Bool) (connections : Nat) : Runtime where
  workers := List.replicate workers .idle
  requests := requests
  connections := connections

/-- Every worker waits for the write lock while a holder of a guard is away from its
worker. -/
def Deadlocked : Prop :=
  (∀ worker ∈ runtime.workers, worker = .blocked) ∧
    (true ∈ runtime.suspended ∨ true ∈ runtime.woken)

instance : Decidable runtime.Deadlocked :=
  inferInstanceAs (Decidable ((∀ worker ∈ runtime.workers, worker = .blocked) ∧
    (true ∈ runtime.suspended ∨ true ∈ runtime.woken)))

end Runtime

def runtimeSystem : System Runtime RuntimeAct := ⟨Runtime.step⟩

namespace Runtime

/-- Every step with its guards. -/
inductive Move (runtime : Runtime) : Runtime → Prop where
  | accept (index worker : Nat) (keeps : Bool) (state : Worker)
      (free : runtime.workers[worker]? = some .idle)
      (asked : runtime.requests[index]? = some keeps)
      (runs : state = .handler keeps ∨ state = .lookup keeps) :
      Move runtime
        { runtime.put worker state with requests := runtime.requests.eraseIdx index }
  | grant (worker : Nat) (keeps : Bool)
      (waiting : runtime.workers[worker]? = some (.lookup keeps)) :
      Move runtime (runtime.put worker (.handler keeps))
  | write : Move runtime runtime
  | block (worker : Nat) (free : runtime.workers[worker]? = some .idle)
      (present : 0 < runtime.connections) (held : runtime.guards ≠ 0) :
      Move runtime { runtime.put worker .blocked with connections := runtime.connections - 1 }
  | unblock (worker : Nat) (waiting : runtime.workers[worker]? = some .blocked)
      (released : runtime.guards = 0) :
      Move runtime { runtime.put worker .idle with connections := runtime.connections + 1 }
  | suspend (worker : Nat) (guard : Bool)
      (running : runtime.workers[worker]? = some (.handler guard)) :
      Move runtime { runtime.put worker .idle with suspended := guard :: runtime.suspended }
  | wake (index : Nat) (guard : Bool) (away : runtime.suspended[index]? = some guard) :
      Move runtime
        { runtime with
          suspended := runtime.suspended.eraseIdx index
          woken := guard :: runtime.woken }
  | resume (index worker : Nat) (guard : Bool)
      (free : runtime.workers[worker]? = some .idle)
      (ready : runtime.woken[index]? = some guard) :
      Move runtime
        { runtime.put worker (.handler guard) with woken := runtime.woken.eraseIdx index }
  | finish (worker : Nat) (guard : Bool)
      (running : runtime.workers[worker]? = some (.handler guard)) :
      Move runtime (runtime.put worker .idle)

variable {runtime next : Runtime}

theorem accept_move {index worker : Nat} {state : Bool → Worker}
    (runs : ∀ keeps, state keeps = .handler keeps ∨ state keeps = .lookup keeps)
    (accepted : runtime.accept index worker state = some next) : Move runtime next := by
  obtain ⟨free, accepted⟩ := Option.ite_none_right_eq_some.mp accepted
  obtain ⟨keeps, asked, rfl⟩ := Option.map_eq_some_iff.mp accepted
  exact .accept index worker keeps _ free asked (runs keeps)

theorem step_move {act : RuntimeAct} (stepped : runtime.step act = some next) :
    Move runtime next := by
  cases act with
  | start index worker => exact accept_move (fun _ => .inl rfl) stepped
  | queue index worker =>
    obtain ⟨-, stepped⟩ := Option.ite_none_right_eq_some.mp stepped
    exact accept_move (fun _ => .inr rfl) stepped
  | grant worker =>
    simp only [step] at stepped
    split at stepped
    · next keeps waiting =>
        cases stepped
        exact .grant worker keeps waiting
    all_goals cases stepped
  | operate worker =>
    obtain ⟨enabled, stepped⟩ := Option.ite_none_right_eq_some.mp stepped
    split at stepped
    · cases stepped
      exact .write
    · next held =>
        cases stepped
        exact .block worker enabled.1 enabled.2 held
  | unblock worker =>
    obtain ⟨enabled, rfl⟩ := Option.ite_some_none_eq_some.mp stepped
    exact .unblock worker enabled.1 enabled.2
  | suspend worker =>
    simp only [step] at stepped
    split at stepped
    · next guard running =>
        cases stepped
        exact .suspend worker guard running
    all_goals cases stepped
  | wake index =>
    obtain ⟨guard, away, rfl⟩ := Option.map_eq_some_iff.mp stepped
    exact .wake index guard away
  | resume index worker =>
    obtain ⟨free, stepped⟩ := Option.ite_none_right_eq_some.mp stepped
    obtain ⟨guard, ready, rfl⟩ := Option.map_eq_some_iff.mp stepped
    exact .resume index worker guard free ready
  | finish worker =>
    simp only [step] at stepped
    split at stepped
    · next guard running =>
        cases stepped
        exact .finish worker guard running
    all_goals cases stepped

def blockedCount (runtime : Runtime) : Nat := runtime.workers.count .blocked

theorem count_blocked_set {workers : List Worker} {worker : Nat} {before : Worker}
    (after : Worker) (found : workers[worker]? = some before) :
    (workers.set worker after).count .blocked + (if before = .blocked then 1 else 0) =
      workers.count .blocked + (if after = .blocked then 1 else 0) := by
  obtain ⟨bound, rfl⟩ := List.getElem?_eq_some_iff.mp found
  rw [count_set bound]
  have present : workers[worker] = .blocked → 0 < workers.count .blocked := fun isBlocked =>
    count_pos_iff.mpr (isBlocked ▸ getElem_mem bound)
  simp only [beq_iff_eq]
  by_cases isBlocked : workers[worker] = .blocked
  · have := present isBlocked
    simp only [isBlocked, if_true]
    omega
  · simp only [isBlocked, if_false]
    omega

/-- A blocked worker is one of the connection tasks, and no worker comes or goes. -/
structure Counted (size tasks : Nat) (runtime : Runtime) : Prop where
  sized : runtime.workers.length = size
  conserved : runtime.connections + runtime.blockedCount = tasks

variable {size tasks : Nat}

theorem Counted.putFree (counted : Counted size tasks runtime) {worker : Nat}
    {before : Worker} (after : Worker) (found : runtime.workers[worker]? = some before)
    (wasFree : before ≠ .blocked) (isFree : after ≠ .blocked)
    (workers : next.workers = runtime.workers.set worker after)
    (connections : next.connections = runtime.connections) : Counted size tasks next := by
  have counts := count_blocked_set after found
  rw [if_neg wasFree, if_neg isFree] at counts
  constructor
  · rw [workers, length_set, counted.sized]
  · have conserved := counted.conserved
    unfold blockedCount at conserved ⊢
    rw [workers, connections]
    omega

theorem Counted.move (counted : Counted size tasks runtime) (moved : Move runtime next) :
    Counted size tasks next := by
  have conserved := counted.conserved
  cases moved with
  | accept index worker keeps state free asked runs =>
    have isFree : state ≠ .blocked := by rcases runs with rfl | rfl <;> nofun
    exact counted.putFree state free nofun isFree rfl rfl
  | grant _ keeps waiting | resume _ _ keeps waiting _ =>
    exact counted.putFree (.handler keeps) waiting nofun nofun rfl rfl
  | write => exact counted
  | block worker free present held =>
    have counts := count_blocked_set .blocked free
    refine ⟨length_set.trans counted.sized, ?_⟩
    simp only [blockedCount, put, reduceCtorEq, if_true, if_false] at counts conserved ⊢
    omega
  | unblock worker waiting released =>
    have counts := count_blocked_set .idle waiting
    refine ⟨length_set.trans counted.sized, ?_⟩
    simp only [blockedCount, put, reduceCtorEq, if_true, if_false] at counts conserved ⊢
    omega
  | suspend _ _ running | finish _ _ running =>
    exact counted.putFree .idle running nofun nofun rfl rfl
  | wake index guard away => exact ⟨counted.sized, counted.conserved⟩

theorem counted_new (workers connections : Nat) (requests : List Bool) :
    Counted workers connections (new workers requests connections) where
  sized := length_replicate
  conserved := by simp [new, blockedCount, count_replicate]

theorem Counted.not_deadlocked (counted : Counted size tasks runtime) (few : tasks < size) :
    ¬ runtime.Deadlocked := by
  intro deadlocked
  have all : runtime.blockedCount = runtime.workers.length :=
    count_eq_length.mpr fun worker member => (deadlocked.1 worker member).symm
  have sized := counted.sized
  have conserved := counted.conserved
  omega

structure Guardless (runtime : Runtime) : Prop where
  requests : true ∉ runtime.requests
  suspended : true ∉ runtime.suspended
  woken : true ∉ runtime.woken
  running : .handler true ∉ runtime.workers
  waiting : .lookup true ∉ runtime.workers

theorem not_true_of_getElem? {flags : List Bool} {index : Nat} {flag : Bool}
    (clear : true ∉ flags) (found : flags[index]? = some flag) : flag ≠ true :=
  fun isTrue => clear (isTrue ▸ List.mem_of_getElem? found)

theorem not_mem_set {workers : List Worker} {worker : Nat} {state kept : Worker}
    (absent : state ∉ workers) (other : kept ≠ state) : state ∉ workers.set worker kept := by
  intro member
  rcases mem_or_eq_of_mem_set member with old | same
  · exact absent old
  · exact other same.symm

theorem not_mem_cons {flags : List Bool} {flag : Bool} (clear : true ∉ flags)
    (other : flag ≠ true) : true ∉ flag :: flags :=
  not_mem_cons_of_ne_of_not_mem other.symm clear

theorem not_mem_eraseIdx {flags : List Bool} (index : Nat) (clear : true ∉ flags) :
    true ∉ flags.eraseIdx index :=
  fun member => clear (mem_of_mem_eraseIdx member)

theorem Guardless.move (guardless : Guardless runtime) (moved : Move runtime next) :
    Guardless next := by
  obtain ⟨requests, suspended, woken, running, waiting⟩ := guardless
  cases moved with
  | accept index worker keeps state free asked runs =>
    have drops := not_true_of_getElem? requests asked
    refine ⟨not_mem_eraseIdx index requests, suspended, woken,
      not_mem_set running ?_, not_mem_set waiting ?_⟩
    all_goals rcases runs with rfl | rfl <;> simp [drops]
  | grant worker keeps queued =>
    have drops : keeps ≠ true := fun isTrue =>
      waiting (isTrue ▸ List.mem_of_getElem? queued)
    exact ⟨requests, suspended, woken, not_mem_set running (by simp [drops]),
      not_mem_set waiting nofun⟩
  | write => exact ⟨requests, suspended, woken, running, waiting⟩
  | block _ _ _ _ | unblock _ _ _ | finish _ _ _ =>
    exact ⟨requests, suspended, woken, not_mem_set running nofun, not_mem_set waiting nofun⟩
  | suspend worker guard runs =>
    have drops : guard ≠ true := fun isTrue =>
      running (isTrue ▸ List.mem_of_getElem? runs)
    exact ⟨requests, not_mem_cons suspended drops, woken, not_mem_set running nofun,
      not_mem_set waiting nofun⟩
  | wake index guard away =>
    have drops := not_true_of_getElem? suspended away
    exact ⟨requests, not_mem_eraseIdx index suspended, not_mem_cons woken drops, running,
      waiting⟩
  | resume index worker guard free ready =>
    have drops := not_true_of_getElem? woken ready
    exact ⟨requests, suspended, not_mem_eraseIdx index woken,
      not_mem_set running (by simp [drops]), not_mem_set waiting nofun⟩

theorem guardless_new (workers connections : Nat) {requests : List Bool}
    (clear : true ∉ requests) : Guardless (new workers requests connections) where
  requests := clear
  suspended := not_mem_nil
  woken := not_mem_nil
  running member := nomatch eq_of_mem_replicate member
  waiting member := nomatch eq_of_mem_replicate member

theorem Guardless.not_deadlocked (guardless : Guardless runtime) : ¬ runtime.Deadlocked :=
  fun deadlocked => deadlocked.2.elim guardless.suspended guardless.woken

theorem mem_eraseIdx_or_eq {flags : List Bool} {index : Nat} {flag : Bool}
    (found : flags[index]? = some flag) (member : true ∈ flags) :
    true ∈ flags.eraseIdx index ∨ flag = true := by
  obtain ⟨bound, rfl⟩ := List.getElem?_eq_some_iff.mp found
  have same : flags.Perm (flags[index] :: flags.eraseIdx index) :=
    (getElem_cons_eraseIdx_perm bound).symm
  rcases mem_cons.mp (same.mem_iff.mp member) with here | later
  · exact .inr here.symm
  · exact .inl later

theorem Deadlocked.guards_pos (deadlocked : runtime.Deadlocked) : runtime.guards ≠ 0 := by
  unfold guards
  rcases deadlocked.2 with away | away
  all_goals
    have := count_pos_iff.mpr away
    omega

/-- No worker is free to run a handler, so the one that holds the guard never does. -/
theorem Deadlocked.move (deadlocked : runtime.Deadlocked) (moved : Move runtime next) :
    next.Deadlocked := by
  have stuck {worker : Nat} {state : Worker} (found : runtime.workers[worker]? = some state) :
      state = .blocked := deadlocked.1 state (List.mem_of_getElem? found)
  cases moved with
  | accept _ _ _ _ free _ _ | grant _ _ free | block _ free _ _ | suspend _ _ free
  | resume _ _ _ free _ | finish _ _ free => cases stuck free
  | write => exact deadlocked
  | unblock worker queued released => exact absurd released deadlocked.guards_pos
  | wake index guard away =>
    refine ⟨deadlocked.1, ?_⟩
    rcases deadlocked.2 with holder | holder
    · rcases mem_eraseIdx_or_eq away holder with rest | rfl
      · exact .inl rest
      · exact .inr mem_cons_self
    · exact .inr (mem_cons_of_mem guard holder)

theorem deadlocked_forever (acts : List RuntimeAct) (deadlocked : runtime.Deadlocked)
    (reached : runtimeSystem.run runtime acts = some next) : next.Deadlocked :=
  runtimeSystem.run_invariant_of_step Deadlocked
    (fun holds stepped => holds.move (step_move stepped)) acts deadlocked reached

theorem woken_holder_stays_deadlocked :
    ∃ next, runtimeSystem.run ⟨[.blocked], [], 0, [true], []⟩ [.wake 0] = some next ∧
      next.Deadlocked := by
  have deadlocked : Deadlocked ⟨[.blocked], [], 0, [true], []⟩ := by decide
  exact ⟨_, rfl, deadlocked_forever [.wake 0] deadlocked rfl⟩

/-- A handler is suspended with its guard, `parked` workers wait for the write lock and
`idle` ones are free. -/
def waitingWriters (parked idle : Nat) (requests : List Bool) (connections : Nat) : Runtime where
  workers := List.replicate parked .blocked ++ List.replicate idle .idle
  requests := requests
  connections := connections
  suspended := [true]

theorem step_operate_waitingWriters (parked idle connections : Nat) (requests : List Bool) :
    runtimeSystem.step (waitingWriters parked (idle + 1) requests (connections + 1))
        (.operate parked) =
      some (waitingWriters (parked + 1) idle requests connections) := by
  have set : (List.replicate parked Worker.blocked ++
      List.replicate (idle + 1) Worker.idle).set parked .blocked =
      List.replicate (parked + 1) .blocked ++ List.replicate idle .idle := by
    rw [set_append_right _ _ (by simp), length_replicate, Nat.sub_self, replicate_succ,
      set_cons_zero, List.replicate_succ', append_assoc, singleton_append]
  have held : (waitingWriters parked (idle + 1) requests (connections + 1)).guards ≠ 0 := by
    simp [guards, waitingWriters]
  simp only [runtimeSystem, step, if_neg held]
  simp [waitingWriters, put, set]

theorem run_operate_waitingWriters (idle parked connections : Nat) (requests : List Bool) :
    runtimeSystem.run (waitingWriters parked idle requests (connections + idle))
        ((List.range' parked idle).map .operate) =
      some (waitingWriters (parked + idle) 0 requests connections) := by
  induction idle generalizing parked with
  | zero => rfl
  | succ idle ih =>
    rw [List.range'_succ, map_cons, ← Nat.add_assoc connections,
      runtimeSystem.run_cons_of_step _
        (step_operate_waitingWriters parked idle (connections + idle) requests),
      ih (parked + 1), Nat.add_right_comm parked, Nat.add_assoc parked]

theorem deadlocked_waitingWriters (parked connections : Nat) (requests : List Bool) :
    (waitingWriters parked 0 requests connections).Deadlocked := by
  refine ⟨fun worker member => ?_, .inl mem_cons_self⟩
  rw [waitingWriters, replicate_zero, append_nil] at member
  exact eq_of_mem_replicate member

theorem run_suspend (idle index connections : Nat) {requests : List Bool}
    (asked : requests[index]? = some true) :
    runtimeSystem.run (new (idle + 1) requests connections) [.start index 0, .suspend 0] =
      some (waitingWriters 0 (idle + 1) (requests.eraseIdx index) connections) := by
  simp [System.run, runtimeSystem, step, accept, new, put, waitingWriters, asked, replicate_succ]

theorem deadlock_reachable (idle index connections : Nat) {requests : List Bool}
    (asked : requests[index]? = some true) (many : idle + 1 ≤ connections) :
    ∃ acts runtime, runtimeSystem.run (new (idle + 1) requests connections) acts = some runtime ∧
      runtime.Deadlocked := by
  obtain ⟨spare, rfl⟩ := Nat.exists_eq_add_of_le' many
  refine ⟨[.start index 0, .suspend 0] ++ (List.range' 0 (idle + 1)).map .operate, _, ?_,
    deadlocked_waitingWriters (0 + (idle + 1)) spare (requests.eraseIdx index)⟩
  rw [runtimeSystem.run_append _ ((List.range' 0 (idle + 1)).map .operate) _ _
    (run_suspend idle index (spare + (idle + 1)) asked)]
  exact run_operate_waitingWriters (idle + 1) 0 spare (requests.eraseIdx index)

/-- The workers never all wait for a guard that is away exactly if every handler drops
its guard before its first await, or there are fewer connections than workers. -/
theorem sessions_never_deadlock_iff (workers connections : Nat) (requests : List Bool)
    (present : 0 < workers) :
    (∀ acts runtime, runtimeSystem.run (new workers requests connections) acts = some runtime →
      ¬ runtime.Deadlocked) ↔
    (true ∉ requests ∨ connections < workers) := by
  constructor
  · intro never
    by_contra violated
    obtain ⟨keeper, many⟩ := not_or.mp violated
    obtain ⟨index, asked⟩ := List.mem_iff_getElem?.mp (not_not.mp keeper)
    obtain ⟨idle, rfl⟩ := Nat.exists_eq_add_one.mpr present
    obtain ⟨acts, runtime, reached, deadlocked⟩ :=
      deadlock_reachable idle index connections asked (Nat.le_of_not_lt many)
    exact never acts runtime reached deadlocked
  · intro condition acts runtime reached
    rcases condition with clear | few
    · have guardless := runtimeSystem.run_invariant_of_step Guardless
        (fun holds stepped => holds.move (step_move stepped)) acts
        (guardless_new workers connections clear) reached
      exact guardless.not_deadlocked
    · have counted := runtimeSystem.run_invariant_of_step (Counted workers connections)
        (fun holds stepped => holds.move (step_move stepped)) acts
        (counted_new workers connections requests) reached
      exact counted.not_deadlocked few

/-- Two workers and one connection: it blocks its worker, and the other one can go on. -/
theorem one_connection_never_deadlocks :
    ∃ runtime, runtimeSystem.run (new 2 [true] 1) [.start 0 0, .suspend 0, .operate 0] =
        some runtime ∧
      Worker.blocked ∈ runtime.workers ∧ ¬ runtime.Deadlocked := by
  have never := (sessions_never_deadlock_iff 2 1 [true] (by decide)).mpr (.inr (by decide))
  have outcome : ((runtimeSystem.run (new 2 [true] 1)
      [.start 0 0, .suspend 0, .operate 0]).map fun runtime =>
        decide (Worker.blocked ∈ runtime.workers)) = some true := by decide
  obtain ⟨runtime, reached, blocked⟩ := Option.map_eq_some_iff.mp outcome
  exact ⟨runtime, reached, of_decide_eq_true blocked, never _ runtime reached⟩

/-- One `update_player` at an await point, and two connections on two workers. -/
theorem two_connections_deadlock :
    ¬ ∀ (workers connections : Nat) (requests : List Bool) (acts : List RuntimeAct)
        (runtime : Runtime),
      runtimeSystem.run (new workers requests connections) acts = some runtime →
        ¬ runtime.Deadlocked := by
  intro never
  have reached : ((runtimeSystem.run (new 2 [true] 2)
      [.start 0 0, .suspend 0, .operate 0, .operate 1]).map fun runtime =>
        decide runtime.Deadlocked) = some true := by decide
  obtain ⟨runtime, run, deadlocked⟩ := Option.map_eq_some_iff.mp reached
  exact never 2 2 [true] _ runtime run (of_decide_eq_true deadlocked)

end Runtime

end KizunaLink.Server
