import KizunaLink.Server.Session

/-!
# Cleanup timers and the two session maps

While the session is parked its generation is the one of the window that is
open, and each window has its own: a timer that finds its generation in the map
belongs to this window.  The counter has 64 bits, so this holds for a timer
that sleeps through fewer than 2^64 changes of the generation.
-/

set_option autoImplicit false

namespace KizunaLink.Server

open KizunaLink.Lib List

namespace Session

variable {session : Session}

theorem enqueue_eq (session : Session) (call : Call) :
    ∃ eventQueue queueBytes channel evicted,
      session.enqueue call =
        { session with
          calls := session.calls.filter fun other => other ≠ call
          eventQueue, queueBytes, channel, evicted } := by
  simp only [enqueue]
  split
  · simp only [pushQueue]
    split
    · exact ⟨_, _, _, _, rfl⟩
    · split
      · exact ⟨_, _, _, _, rfl⟩
      · exact ⟨_, _, _, _, rfl⟩
  · simp only [trySend]
    split
    · exact ⟨_, _, _, _, rfl⟩
    · exact ⟨_, _, _, _, rfl⟩

end Session

open Session

/-- Every sleeping timer belongs to a window that is over. -/
def Session.TimersOlder (session : Session) : Prop :=
  ∀ timer ∈ session.timers, timer.bumps < session.bumps

/-- What holds at each place of the connection's task. -/
def Session.PlaceSafe (session : Session) : Prop :=
  match session.phase with
  | .parked =>
    session.sender = session.connection ∧ session.inSessions = false ∧
      ∀ timer ∈ session.timers, timer.bumps = session.bumps → timer.resumes = session.resumes
  | .bumping => session.inResumable = false ∧ session.inSessions = false
  | .takingOver =>
    session.inResumable = false ∧ session.inSessions = false ∧ session.TimersOlder
  | .inserting | .clearingParked | .openingWindow =>
    session.inResumable = false ∧ session.inSessions = false ∧ session.TimersOlder ∧
      session.sender = session.connection
  | .parking generation =>
    session.inResumable = false ∧ session.inSessions = false ∧ session.TimersOlder ∧
      session.sender = session.connection ∧ generation = UInt64.ofNat session.bumps
  | .gone => session.inResumable = false
  | .sayingReady | .writing _ | .running | .exited | .pausing | .leavingLive =>
    session.inResumable = false ∧ session.TimersOlder ∧ session.sender = session.connection

structure WindowSafe (session : Session) : Prop where
  generation : session.resumeGeneration = UInt64.ofNat session.bumps
  timers : ∀ timer ∈ session.timers,
    timer.generation = UInt64.ofNat timer.bumps ∧ timer.bumps ≤ session.bumps
  place : session.PlaceSafe

variable {act : SessionAct} {session : Session}

theorem Session.PlaceSafe.fewer (place : session.PlaceSafe) {timers : List CleanupTimer}
    (fewer : ∀ timer ∈ timers, timer ∈ session.timers) :
    PlaceSafe { session with timers } := by
  have older : session.TimersOlder → TimersOlder { session with timers } :=
    fun older timer member => older timer (fewer timer member)
  simp only [PlaceSafe] at place ⊢
  cases at_ : session.phase with
  | parked =>
    rw [at_] at place
    exact ⟨place.1, place.2.1, fun timer member => place.2.2 timer (fewer timer member)⟩
  | bumping | gone =>
    rw [at_] at place
    exact place
  | takingOver =>
    rw [at_] at place
    exact ⟨place.1, place.2.1, older place.2.2⟩
  | inserting | clearingParked | openingWindow | parking _ =>
    rw [at_] at place
    exact ⟨place.1, place.2.1, older place.2.2.1, place.2.2.2⟩
  | _ =>
    rw [at_] at place
    exact ⟨place.1, older place.2.1, place.2.2⟩

section

variable (safe : WindowSafe session)
include safe

theorem WindowSafe.not_both : ¬ (session.inSessions = true ∧ session.inResumable = true) := by
  rintro ⟨live, resumable⟩
  have place := safe.place
  simp only [Session.PlaceSafe, live, resumable] at place
  split at place <;> simp at place

theorem WindowSafe.parked_of_inResumable (resumable : session.inResumable = true) :
    session.phase = .parked := by
  have place := safe.place
  simp only [Session.PlaceSafe, resumable] at place
  split at place
  · assumption
  all_goals simp at place

theorem WindowSafe.enqueue (call : Call) : WindowSafe (session.enqueue call) := by
  obtain ⟨_, _, _, _, same⟩ := session.enqueue_eq call
  rw [same]
  exact { safe with }

theorem WindowSafe.bump (phase : Phase) (place : (session.bumpGeneration phase).TimersOlder →
      (session.bumpGeneration phase).PlaceSafe) :
    WindowSafe (session.bumpGeneration phase) := by
  have older : (session.bumpGeneration phase).TimersOlder := by
    intro timer member
    exact Nat.lt_succ_of_le (safe.timers timer member).2
  refine ⟨?_, ?_, place older⟩
  · simp only [Session.bumpGeneration, safe.generation]
    apply UInt64.toNat_inj.mp
    simp [UInt64.toNat_add, UInt64.toNat_ofNat']
  · intro timer member
    exact ⟨(safe.timers timer member).1, Nat.le_of_lt (older timer member)⟩

theorem WindowSafe.advance {next : Session} (stepped : session.advance = some next) :
    WindowSafe next := by
  have place := safe.place
  simp only [PlaceSafe] at place
  simp only [Session.advance] at stepped
  cases at_ : session.phase with
  | bumping =>
    rw [at_] at stepped place
    cases stepped
    exact safe.bump _ fun older => ⟨place.1, place.2, older⟩
  | takingOver =>
    rw [at_] at stepped place
    cases stepped
    exact ⟨safe.generation, safe.timers, place.1, place.2.1, place.2.2, rfl⟩
  | inserting =>
    rw [at_] at stepped place
    cases stepped
    exact ⟨safe.generation, safe.timers, place.1, place.2.2.1, place.2.2.2⟩
  | sayingReady =>
    rw [at_] at stepped place
    simp only at stepped
    split at stepped
    · cases stepped
      exact ⟨safe.generation, safe.timers, place⟩
    · cases stepped
      exact ⟨safe.generation, safe.timers, place⟩
  | writing rest =>
    rw [at_] at stepped place
    cases rest with
    | nil | cons _ _ =>
      cases stepped
      exact ⟨safe.generation, safe.timers, place⟩
  | exited =>
    rw [at_] at stepped place
    simp only at stepped
    split at stepped
    · cases stepped
      exact ⟨safe.generation, safe.timers, place⟩
    · split at stepped
      · cases stepped
        exact ⟨safe.generation, safe.timers, place.1⟩
      · cases stepped
        exact ⟨safe.generation, safe.timers, place.1⟩
  | pausing =>
    rw [at_] at stepped place
    simp only at stepped
    split at stepped
    · cases stepped
      exact ⟨safe.generation, safe.timers, place⟩
    · cases stepped
      exact ⟨safe.generation, safe.timers, place.1⟩
  | leavingLive =>
    rw [at_] at stepped place
    cases stepped
    obtain ⟨resumable, older, owner⟩ := place
    refine ⟨safe.generation, safe.timers, resumable, ?_, older, owner⟩
    simp [owner]
  | clearingParked =>
    rw [at_] at stepped place
    cases stepped
    exact ⟨safe.generation, safe.timers, rfl, place.2⟩
  | openingWindow =>
    rw [at_] at stepped place
    cases stepped
    obtain ⟨resumable, away, _, owner⟩ := place
    have bumped := safe.bump (.parking (session.resumeGeneration + 1))
    apply bumped
    intro older
    refine ⟨resumable, away, older, owner, ?_⟩
    have counted := (safe.bump .takingOver fun older => ⟨resumable, away, older⟩).generation
    exact counted
  | parking generation =>
    rw [at_] at stepped place
    cases stepped
    obtain ⟨_, away, older, owner, current⟩ := place
    refine ⟨safe.generation, ?_, owner, away, ?_⟩
    · intro timer member
      rcases mem_append.mp member with earlier | now
      · exact safe.timers timer earlier
      · cases mem_singleton.mp now
        exact ⟨current, Nat.le_refl _⟩
    · intro timer member sameBumps
      rcases mem_append.mp member with earlier | now
      · exact absurd sameBumps (Nat.ne_of_lt (older timer earlier))
      · cases mem_singleton.mp now
        rfl
  | running | parked | gone =>
    rw [at_] at stepped
    cases stepped

theorem WindowSafe.expire {next : Session} {index : Nat}
    (stepped : session.expire index = some next) : WindowSafe next := by
  have fewer : ∀ timer ∈ session.timers.eraseIdx index, timer ∈ session.timers :=
    fun _ member => mem_of_mem_eraseIdx member
  have stamped : ∀ timer ∈ session.timers.eraseIdx index,
      timer.generation = UInt64.ofNat timer.bumps ∧ timer.bumps ≤ session.bumps :=
    fun timer member => safe.timers timer (fewer timer member)
  obtain ⟨timer, _, kept | ⟨_, _, removed⟩⟩ := Session.expire_cases stepped
  · rw [kept]
    exact ⟨safe.generation, stamped, safe.place.fewer fewer⟩
  · rw [removed]
    exact ⟨safe.generation, stamped, rfl⟩

theorem WindowSafe.step {next : Session} (stepped : session.step act = some next) :
    WindowSafe next := by
  cases steps_of_step stepped with
  | configure _ | load _ _ _ | receive _ _ => exact { safe with }
  | @enqueue task call found => exact safe.enqueue call
  | advance stepped => exact safe.advance stepped
  | exitLoop running =>
    have place := safe.place
    simp only [PlaceSafe, running] at place
    exact ⟨safe.generation, safe.timers, place⟩
  | resume parked inResumable =>
    have place := safe.place
    simp only [PlaceSafe, parked] at place
    exact ⟨safe.generation, safe.timers, rfl, place.2.1⟩
  | expire stepped => exact safe.expire stepped

end

theorem Session.new_windowSafe (maxQueueSize : Nat) : WindowSafe (Session.new maxQueueSize) :=
  ⟨rfl, nofun, rfl, nofun, rfl⟩

/-- The condition on a step: a timer that wakes up has slept through fewer than
2^64 changes of the generation. -/
def TimersTimely (session : Session) (act : SessionAct) : Prop :=
  match act with
  | .expire index => ∀ timer ∈ session.timers[index]?, session.bumps - timer.bumps < 2 ^ 64
  | _ => True

instance (session : Session) (act : SessionAct) : Decidable (TimersTimely session act) := by
  unfold TimersTimely
  split <;> infer_instance

/-- Each expiry happened with no resume since the disconnect that started its timer. -/
def Session.ExpiresOwnWindow (session : Session) : Prop :=
  ∀ expiry ∈ session.expiries, expiry.1 = expiry.2

theorem ofNat_inj_of_near {older newer : Nat} (order : older ≤ newer)
    (near : newer - older < 2 ^ 64) (same : UInt64.ofNat newer = UInt64.ofNat older) :
    older = newer := by
  have sameNat := congrArg UInt64.toNat same
  simp only [UInt64.toNat_ofNat'] at sameNat
  omega

theorem Session.step_records {session next : Session} (stepped : session.step act = some next) :
    ((∀ index, act ≠ .expire index) → next.expiries = session.expiries) ∧
      (act ≠ .exitLoop → next.missed = session.missed) := by
  cases steps_of_step stepped with
  | configure _ | load _ _ _ | receive _ _ | resume _ _ => exact ⟨fun _ => rfl, fun _ => rfl⟩
  | @enqueue task call found =>
    obtain ⟨_, _, _, _, same⟩ := session.enqueue_eq call
    rw [same]
    exact ⟨fun _ => rfl, fun _ => rfl⟩
  | advance stepped =>
    simp only [advance] at stepped
    repeat' split at stepped
    all_goals
      cases stepped
      try exact ⟨fun _ => rfl, fun _ => rfl⟩
  | exitLoop running => exact ⟨fun _ => rfl, fun other => absurd rfl other⟩
  | @expire index next stepped =>
    refine ⟨fun other => absurd rfl (other index), fun _ => ?_⟩
    obtain ⟨_, _, rfl | ⟨_, _, rfl⟩⟩ := expire_cases stepped
    · rfl
    · rfl

theorem Session.ExpiresOwnWindow.step {session next : Session} (own : session.ExpiresOwnWindow)
    (safe : WindowSafe session) (timely : TimersTimely session act)
    (stepped : session.step act = some next) : next.ExpiresOwnWindow := by
  by_cases expires : ∃ index, act = .expire index
  · obtain ⟨index, rfl⟩ := expires
    obtain ⟨timer, found, kept | ⟨resumable, sameGeneration, removed⟩⟩ :=
      expire_cases stepped
    · rw [kept]
      exact own
    · rw [removed]
      intro expiry member
      rcases mem_append.mp member with earlier | now
      · exact own expiry earlier
      · cases mem_singleton.mp now
        have inList : timer ∈ session.timers := List.mem_of_getElem? found
        obtain ⟨stamped, older⟩ := safe.timers timer inList
        rw [safe.generation, stamped] at sameGeneration
        have sameBumps := ofNat_inj_of_near older (timely timer found) sameGeneration
        have place := safe.place
        simp only [PlaceSafe, safe.parked_of_inResumable resumable] at place
        exact place.2.2 timer inList sameBumps
  · have same := (step_records stepped).1 fun index is => expires ⟨index, is⟩
    rw [ExpiresOwnWindow, same]
    exact own

/-- The session is never in both maps; and while every timer wakes up within 2^64
generation changes, a timer shuts the session down only when it was not resumed
since the disconnect that started the timer. -/
theorem cleanup_expires_own_window (maxQueueSize : Nat) (acts : List SessionAct) (session : Session)
    (reached : sessionSystem.run (Session.new maxQueueSize) acts = some session) :
    ¬ (session.inSessions = true ∧ session.inResumable = true) ∧
      (sessionSystem.Meets TimersTimely (Session.new maxQueueSize) acts →
        session.ExpiresOwnWindow) := by
  have safe : WindowSafe session :=
    sessionSystem.run_invariant_of_step WindowSafe (fun safe => safe.step)
      acts (Session.new_windowSafe maxQueueSize) reached
  refine ⟨safe.not_both, fun timely => ?_⟩
  have both : WindowSafe session ∧ session.ExpiresOwnWindow :=
    sessionSystem.run_invariant TimersTimely
      (fun session => WindowSafe session ∧ session.ExpiresOwnWindow)
      (fun both timely stepped => ⟨both.1.step stepped, both.2.step both.1 timely stepped⟩)
      acts ⟨Session.new_windowSafe maxQueueSize, nofun⟩ timely reached
  exact both.2

/-! ## Runs of disconnects and resumes -/

def openConnection : List SessionAct :=
  [.resume, .advance, .advance, .advance, .advance, .advance]

def closeConnection : List SessionAct :=
  [.exitLoop, .advance, .advance, .advance, .advance, .advance, .advance]

def twoWindows : List SessionAct :=
  [.advance, .configure true] ++ closeConnection ++ openConnection ++ closeConnection ++
    [.expire 0, .expire 0]

theorem cleanup_after_two_windows :
    ∃ session, sessionSystem.run (Session.new 100) twoWindows = some session ∧
      session.isShutdown = true ∧ session.expiries = [(1, 1)] ∧ session.ExpiresOwnWindow := by
  have ended : (sessionSystem.run (Session.new 100) twoWindows).map
      (fun session => (session.isShutdown, session.expiries)) = some (true, [(1, 1)]) := by decide
  obtain ⟨session, reached, ended⟩ := Option.map_eq_some_iff.mp ended
  have law := cleanup_expires_own_window 100 twoWindows session reached
  exact ⟨session, reached, congrArg Prod.fst ended, congrArg Prod.snd ended, law.2 (by decide)⟩

theorem run_openConnection (parked : session.phase = .parked)
    (inResumable : session.inResumable = true) (noEvents : session.eventQueue = []) :
    sessionSystem.run session openConnection =
      some
        { session with
          inResumable := false
          connection := session.connection + 1
          resumed := true
          resumes := session.resumes + 1
          resumeGeneration := session.resumeGeneration + 1
          bumps := session.bumps + 1
          sender := session.connection + 1
          paused := false
          channel := []
          toSocket := []
          inSessions := true
          eventQueue := []
          queueBytes := 0
          phase := .running } := by
  simp [openConnection, System.run, sessionSystem, step, resume, advance,
    bumpGeneration, parked, inResumable, noEvents]

theorem run_closeConnection (running : session.phase = .running)
    (resumable : session.resumable = true) (owner : session.sender = session.connection) :
    sessionSystem.run session closeConnection =
      some
        { session with
          missed := session.missed ++ session.unserved
          window := []
          evicted := []
          paused := true
          inSessions := false
          isShutdown := session.isShutdown || session.inResumable
          resumeGeneration := session.resumeGeneration + 1
          bumps := session.bumps + 1
          inResumable := true
          timers := session.timers ++
            [{ generation := session.resumeGeneration + 1, bumps := session.bumps + 1,
               resumes := session.resumes }]
          phase := .parked } := by
  simp [closeConnection, System.run, sessionSystem, step, exitLoop,
    advance, bumpGeneration, running, resumable, owner]

structure Idle (generation : UInt64) (resumes : Nat) (timer : CleanupTimer) (session : Session) :
    Prop where
  phase : session.phase = .parked
  inResumable : session.inResumable = true
  resumable : session.resumable = true
  paused : session.paused = true
  eventQueue : session.eventQueue = []
  generation : session.resumeGeneration = generation
  resumes : session.resumes = resumes
  timers : ∃ later, session.timers = timer :: later

theorem Idle.cycle {generation : UInt64} {resumes : Nat} {timer : CleanupTimer}
    (idle : Idle generation resumes timer session) :
    ∃ next, sessionSystem.run session (openConnection ++ closeConnection) = some next ∧
      Idle (generation + 1 + 1) (resumes + 1) timer next := by
  obtain ⟨later, timers⟩ := idle.timers
  have opened := run_openConnection idle.phase idle.inResumable idle.eventQueue
  refine ⟨_, (sessionSystem.run_append _ _ _ _ opened).trans
    (run_closeConnection rfl idle.resumable rfl), ?_⟩
  refine ⟨rfl, rfl, idle.resumable, rfl, rfl, ?_, ?_, ?_⟩
  · simp only [idle.generation]
  · simp only [idle.resumes]
  · exact ⟨_, congrArg (fun timers => timers ++ _) timers⟩

def cycles (count : Nat) : List SessionAct :=
  (List.replicate count (openConnection ++ closeConnection)).flatten

theorem Idle.cycles {timer : CleanupTimer} (count : Nat) {generation : UInt64} {resumes : Nat}
    (idle : Idle generation resumes timer session) :
    ∃ next, sessionSystem.run session (Server.cycles count) = some next ∧
      Idle (generation + UInt64.ofNat (2 * count)) (resumes + count) timer next := by
  induction count generalizing session generation resumes with
  | zero => exact ⟨session, rfl, by simpa using idle⟩
  | succ count ih =>
    obtain ⟨middle, first, middleIdle⟩ := idle.cycle
    obtain ⟨next, rest, nextIdle⟩ := ih middleIdle
    refine ⟨next, (sessionSystem.run_append _ _ _ _ first).trans rest, ?_⟩
    have generations : generation + 1 + 1 + UInt64.ofNat (2 * count) =
        generation + UInt64.ofNat (2 * (count + 1)) := by
      apply UInt64.toNat_inj.mp
      simp only [UInt64.toNat_add, UInt64.toNat_ofNat', UInt64.reduceToNat]
      omega
    have resumptions : resumes + 1 + count = resumes + (count + 1) := by omega
    rw [generations, resumptions] at nextIdle
    exact nextIdle

theorem idle_after_first_close :
    ∃ session, sessionSystem.run (Session.new 100)
        ([.advance, .configure true] ++ closeConnection) = some session ∧
      Idle 1 0 { generation := 1, bumps := 1, resumes := 0 } session :=
  ⟨_, rfl, rfl, rfl, rfl, rfl, rfl, rfl, rfl, [], rfl⟩

/-- After 2^63 more windows the generation is one again, and the first timer shuts
the newest window down. -/
theorem wrapped_generation_expires_newer_window :
    ¬ ∀ (acts : List SessionAct) (session : Session),
      sessionSystem.run (Session.new 100) acts = some session → session.ExpiresOwnWindow := by
  intro claim
  obtain ⟨first, firstRun, firstIdle⟩ := idle_after_first_close
  obtain ⟨last, lastRun, lastIdle⟩ := firstIdle.cycles (2 ^ 63)
  obtain ⟨later, timers⟩ := lastIdle.timers
  have expired : sessionSystem.run last [.expire 0] =
      some
        { last with
          timers := later
          inResumable := false
          isShutdown := true
          phase := .gone
          expiries := last.expiries ++ [(0, last.resumes)] } := by
    simp [System.run, sessionSystem, step, expire, timers, lastIdle.inResumable,
      lastIdle.generation, lastIdle.paused]
  have whole := (sessionSystem.run_append _ [.expire 0] _ _
    ((sessionSystem.run_append _ _ _ _ firstRun).trans lastRun)).trans expired
  have same := claim _ _ whole (0, last.resumes) (by simp)
  rw [lastIdle.resumes] at same
  omega

end KizunaLink.Server
