import KizunaLink.Server.EventCalls

/-!
# Events across disconnect and resume

The moves of the connection keep the line: draining the queue and taking the
sender over change which parts it consists of, not what stands in it.  Over a
whole run the resumed connection hands out the events of its window, except those
evicted from the queue, once each and in the order of their task.
-/

set_option autoImplicit false

namespace KizunaLink.Server

open KizunaLink.Lib List

namespace Session

variable {session : Session}

section

variable (safe : session.EventSafe)
include safe

theorem EventSafe.move {after : Session}
    (line : after.line = session.line) (calls : after.calls = session.calls)
    (nextStamp : after.nextStamp = session.nextStamp) (window : after.window = session.window)
    (evicted : after.evicted = session.evicted) (phaseKeeps : after.PhaseKeeps) :
    after.EventSafe := by
  refine ⟨?_, ?_, ?_, ?_, ?_, ?_, phaseKeeps⟩
  · rw [line]
    exact safe.ordered
  · rw [line, nextStamp]
    exact safe.below
  · rw [calls, nextStamp]
    exact safe.callsBelow
  · rw [calls, line]
    exact safe.callsLast
  · rw [calls]
    exact safe.oneCall
  · rw [window, calls, line, evicted]
    exact safe.covered

theorem EventSafe.advance {next : Session}
    (drained : session.phase = .sayingReady → session.resumed = true →
      ∀ call ∈ session.calls, call.sawPaused = false)
    (stepped : session.advance = some next) : next.phase = .gone ∨ next.EventSafe := by
  have keeps := safe.phaseKeeps
  simp only [PhaseKeeps] at keeps
  simp only [Session.advance] at stepped
  cases at_ : session.phase with
  | bumping | leavingLive | clearingParked | openingWindow | parking _ =>
    rw [at_] at stepped keeps
    cases stepped
    right
    exact safe.move
      (by simp [line, lineFront, lineBack, bumpGeneration, at_, Phase.beforeTakeOver])
      rfl rfl rfl rfl keeps
  | takingOver =>
    rw [at_] at stepped keeps
    cases stepped
    right
    exact safe.move (by simp [line, lineFront, lineBack, at_, Phase.beforeTakeOver, Phase.rest])
      rfl rfl rfl rfl
      ⟨rfl, keeps.2.1, fun _ _ _ event inChannel => absurd inChannel not_mem_nil⟩
  | inserting =>
    rw [at_] at stepped keeps
    cases stepped
    right
    apply safe.move
    · simp [line, lineFront, lineBack, at_, Phase.beforeTakeOver, Phase.rest]
    · rfl
    · rfl
    · rfl
    · rfl
    · refine ⟨keeps.1, fun _ => keeps.2.2, fun first => ?_⟩
      rw [keeps.2.1] at first
      cases first
  | sayingReady =>
    rw [at_] at stepped keeps
    right
    cases resumed : session.resumed with
    | true =>
      simp only [resumed, if_true] at stepped
      cases stepped
      -- nobody pushes to the drained queue: the calls that saw `paused` have ended
      exact safe.move
        (by simp [line, lineFront, lineBack, at_, Phase.beforeTakeOver, Phase.rest])
        rfl rfl rfl rfl ⟨keeps.1, rfl, drained at_ resumed⟩
    | false =>
      simp only [resumed, Bool.false_eq_true, if_false] at stepped
      cases stepped
      exact safe.move
        (by simp [line, lineFront, lineBack, at_, Phase.beforeTakeOver, Phase.rest])
        rfl rfl rfl rfl ⟨keeps.1, keeps.2.2 resumed⟩
  | writing events =>
    rw [at_] at stepped keeps
    right
    cases events with
    | nil | cons _ _ =>
      cases stepped
      exact safe.move
        (by simp [line, lineFront, lineBack, at_, Phase.beforeTakeOver, Phase.rest])
        rfl rfl rfl rfl keeps
  | exited =>
    rw [at_] at stepped keeps
    dsimp only at stepped
    split at stepped
    · cases stepped
      right
      exact safe.move (by simp [line, lineFront, lineBack, at_, Phase.beforeTakeOver])
        rfl rfl rfl rfl keeps
    · split at stepped
      all_goals
        cases stepped
        exact .inl rfl
  | pausing =>
    rw [at_] at stepped keeps
    dsimp only at stepped
    split at stepped
    · cases stepped
      right
      apply safe.move
      · simp [line, lineFront, lineBack, at_, Phase.beforeTakeOver]
      · rfl
      · rfl
      · rfl
      · rfl
      · refine ⟨rfl, fun call _ (inWindow : call.event ∈ session.window) => ?_⟩
        rw [keeps.2.2.2] at inWindow
        cases inWindow
    · cases stepped
      exact .inl rfl
  | running | parked | gone =>
    rw [at_] at stepped
    cases stepped

theorem EventSafe.receive {event : Event} {rest : List Event}
    (running : session.phase = .running) (channel : session.channel = event :: rest) :
    EventSafe
      { session with channel := rest, toSocket := session.toSocket ++ [event] } := by
  have keeps := safe.phaseKeeps
  simp only [PhaseKeeps, running] at keeps
  refine safe.move ?_ rfl rfl rfl rfl ?_
  · simp [line, lineFront, lineBack, running, Phase.beforeTakeOver, Phase.rest, channel,
      keeps.2.1]
  · simp only [PhaseKeeps, running]
    exact keeps

theorem EventSafe.exitLoop (running : session.phase = .running) :
    EventSafe
      { session with
        phase := .exited
        missed := session.missed ++ session.unserved
        window := []
        evicted := [] } := by
  have keeps := safe.phaseKeeps
  simp only [PhaseKeeps, running] at keeps
  have empty : line { session with
      phase := .exited
      missed := session.missed ++ session.unserved
      window := []
      evicted := [] } = [] := by
    simp [line, lineFront, lineBack, Phase.beforeTakeOver, keeps.2.1]
  refine ⟨?_, ?_, safe.callsBelow, ?_, safe.oneCall, by simp, keeps.1, keeps.2.1, keeps.2.2, rfl⟩
  · rw [empty]
    exact .nil
  · rw [empty]
    simp
  · rw [empty]
    exact fun _ _ => (by simp)

theorem EventSafe.resume (parked : session.phase = .parked) :
    EventSafe
      { session with
        inResumable := false
        connection := session.connection + 1
        resumed := true
        resumes := session.resumes + 1
        phase := .bumping } := by
  have keeps := safe.phaseKeeps
  simp only [PhaseKeeps, parked] at keeps
  refine safe.move ?_ rfl rfl rfl rfl ⟨keeps.1, rfl, keeps.2⟩
  simp [line, lineFront, lineBack, parked, Phase.beforeTakeOver]

theorem EventSafe.expire {next : Session} {index : Nat}
    (stepped : session.expire index = some next) : next.phase = .gone ∨ next.EventSafe := by
  obtain ⟨timer, _, rfl | ⟨_, _, rfl⟩⟩ := expire_cases stepped
  · exact .inr (safe.move rfl rfl rfl rfl rfl safe.phaseKeeps)
  · exact .inl rfl

theorem EventSafe.step {next : Session} {act : SessionAct}
    (notGone : session.phase ≠ .gone) (condition : session.KeepsEvents act)
    (stepped : session.step act = some next) : next.phase = .gone ∨ next.EventSafe := by
  cases steps_of_step stepped with
  | configure resumable => exact .inr (safe.move rfl rfl rfl rfl rfl safe.phaseKeeps)
  | load task size free => exact .inr (safe.load size free condition)
  | @enqueue task call found =>
    exact .inr (safe.enqueue notGone (List.mem_of_find?_eq_some found) (condition call found))
  | advance stepped => exact safe.advance condition stepped
  | receive running channel => exact .inr (safe.receive running channel)
  | exitLoop running => exact .inr (safe.exitLoop running)
  | resume parked inResumable => exact .inr (safe.resume parked)
  | expire stepped => exact safe.expire stepped

end

theorem gone_step {next : Session} {act : SessionAct} (gone : session.phase = .gone)
    (stepped : session.step act = some next) : next.phase = .gone := by
  cases steps_of_step stepped with
  | configure _ | load _ _ _ => exact gone
  | @enqueue task call found =>
    obtain ⟨_, _, _, _, same⟩ := session.enqueue_eq call
    rw [same]
    exact gone
  | advance stepped => simp [advance, gone] at stepped
  | receive phase _ | exitLoop phase | resume phase _ => simp [gone] at phase
  | expire stepped =>
    obtain ⟨_, _, rfl | ⟨_, _, rfl⟩⟩ := expire_cases stepped
    · exact gone
    · rfl

/-! ## Whole runs -/

theorem EventSafe.handed (safe : session.EventSafe) (running : session.phase = .running) :
    (∀ event ∈ session.window, (∃ call ∈ session.calls, call.event = event) ∨
        event ∈ session.toSocket ++ session.channel ∨ event ∈ session.evicted) ∧
      (session.toSocket ++ session.channel).Pairwise Before := by
  have keeps := safe.phaseKeeps
  simp only [PhaseKeeps, running] at keeps
  have all : session.line = session.toSocket ++ session.channel := by
    simp [line, lineFront, lineBack, running, Phase.beforeTakeOver, Phase.rest, keeps.2.1]
  have covered := safe.covered
  have ordered := safe.ordered
  rw [all] at covered ordered
  exact ⟨covered, ordered⟩

theorem EventSafe.unserved_nil (safe : session.EventSafe) (running : session.phase = .running)
    (condition : session.KeepsEvents .exitLoop) : session.unserved = [] := by
  obtain ⟨ended, emptied⟩ := condition
  apply filter_eq_nil_iff.mpr
  intro event inWindow
  rcases (safe.handed running).1 event inWindow with ⟨call, member, rfl⟩ | handed | evicted
  · exact absurd inWindow (ended call member)
  · rcases mem_append.mp handed with passed | waiting
    · simp [passed]
    · exact absurd inWindow (emptied event waiting)
  · simp [evicted]

/-- No connection has missed an event, and the session has ended or is safe. -/
def AllServed (session : Session) : Prop :=
  session.missed = [] ∧ (session.phase = .gone ∨ session.EventSafe)

theorem AllServed.step {next : Session} {act : SessionAct} (served : session.AllServed)
    (condition : session.KeepsEvents act) (stepped : session.step act = some next) :
    next.AllServed := by
  obtain ⟨missed, state⟩ := served
  by_cases gone : session.phase = .gone
  · have stays := gone_step gone stepped
    have notExit : act ≠ .exitLoop := by
      rintro rfl
      simp [Session.step, exitLoop, gone] at stepped
    exact ⟨((step_records stepped).2 notExit).trans missed, .inl stays⟩
  · have safe := state.resolve_left gone
    refine ⟨?_, safe.step gone condition stepped⟩
    by_cases exits : act = .exitLoop
    · subst exits
      cases steps_of_step stepped with
      | exitLoop running =>
        simp [missed, safe.unserved_nil running condition]
    · exact ((step_records stepped).2 exits).trans missed

theorem new_allServed (maxQueueSize : Nat) : (new maxQueueSize).AllServed := by
  refine ⟨rfl, .inr ⟨.nil, nofun, nofun, nofun, nofun, nofun, rfl, ?_, ?_⟩⟩
  · exact fun resumed => nomatch resumed
  · exact fun _ => ⟨rfl, nofun⟩

end Session

theorem Before.nodup {events : List Event} (ordered : events.Pairwise Before) : events.Nodup := by
  refine ordered.imp fun {first second} before same => ?_
  subst same
  exact Nat.lt_irrefl _ (before rfl)

/-- Under the condition no connection misses an event of its window, and each
resumed connection is handed the events of a task once and in the order of the
calls. -/
theorem resumed_connection_gets_window_events (maxQueueSize : Nat) (acts : List SessionAct)
    (session : Session) (reached : sessionSystem.run (Session.new maxQueueSize) acts = some session)
    (meets : sessionSystem.Meets Session.KeepsEvents (Session.new maxQueueSize) acts) :
    session.missed = [] ∧
      (session.phase = .running →
        (∀ event ∈ session.window, (∃ call ∈ session.calls, call.event = event) ∨
            event ∈ session.toSocket ++ session.channel ∨ event ∈ session.evicted) ∧
          (session.toSocket ++ session.channel).Pairwise Before ∧
          (session.toSocket ++ session.channel).Nodup) := by
  have served : session.AllServed :=
    sessionSystem.run_invariant Session.KeepsEvents Session.AllServed
      (fun served => served.step) acts (Session.new_allServed maxQueueSize) meets reached
  refine ⟨served.1, fun running => ?_⟩
  have safe : session.EventSafe := served.2.resolve_left (by simp [running])
  obtain ⟨handed, ordered⟩ := safe.handed running
  exact ⟨handed, ordered, Before.nodup ordered⟩

/-- Task 1 sends while the session is paused and again once the new connection has
taken over; a call of task 2 spans the disconnect's last steps. -/
def pausedEvents : List SessionAct :=
  [.advance, .configure true, .exitLoop, .advance, .advance, .load 1 10, .enqueue 1, .load 2 20,
    .advance, .advance, .advance, .advance, .enqueue 2, .resume, .advance, .advance, .load 1 30,
    .enqueue 1, .advance, .advance, .advance, .advance, .advance]

theorem paused_events_reach_resumed_connection :
    ∃ session, sessionSystem.run (Session.new 100) pausedEvents = some session ∧
      session.phase = .running ∧ session.window.length = 3 ∧
      (∀ event ∈ session.window, event ∈ session.toSocket ++ session.channel) ∧
      (session.toSocket ++ session.channel).Pairwise Before := by
  have ended : (sessionSystem.run (Session.new 100) pausedEvents).map
      (fun session => (session.phase, session.calls, session.evicted, session.window.length)) =
      some (.running, [], [], 3) := by decide
  obtain ⟨session, reached, ended⟩ := Option.map_eq_some_iff.mp ended
  simp only [Prod.mk.injEq] at ended
  obtain ⟨running, noCalls, noneEvicted, three⟩ := ended
  obtain ⟨covered, ordered, _⟩ :=
    (resumed_connection_gets_window_events 100 pausedEvents session reached (by decide)).2 running
  refine ⟨session, reached, running, three, fun event inWindow => ?_, ordered⟩
  simpa [noCalls, noneEvicted] using covered event inWindow

/-- A call between the exit of the loop and the pause sends into the channel that
nobody reads any more. -/
def earlyEvent : List SessionAct :=
  [.advance, .configure true, .exitLoop, .load 1 10, .enqueue 1, .advance, .advance, .advance,
    .advance, .advance, .advance] ++ openConnection

/-- A call that saw `paused` pushes its event when the queue has been drained. -/
def lateEvent : List SessionAct :=
  [.advance, .configure true] ++ closeConnection ++ [.load 1 10] ++ openConnection ++ [.enqueue 1]

theorem lost_events :
    ∀ acts ∈ [earlyEvent, lateEvent],
      (sessionSystem.run (Session.new 100) acts).map
        (fun session => (session.phase, session.calls, session.evicted, session.window,
          session.toSocket ++ session.channel)) =
      some (.running, [], [], [{ task := 1, stamp := 0, size := 10 }], []) := by
  intro acts member
  simp only [mem_cons, not_mem_nil, or_false] at member
  rcases member with rfl | rfl
  · decide
  · decide

theorem early_event_is_lost :
    ¬ ∀ (acts : List SessionAct) (session : Session),
      sessionSystem.run (Session.new 100) acts = some session → session.phase = .running →
        ∀ event ∈ session.window, (∃ call ∈ session.calls, call.event = event) ∨
          event ∈ session.toSocket ++ session.channel ∨ event ∈ session.evicted := by
  intro claim
  have lost := lost_events earlyEvent (by simp)
  obtain ⟨session, reached, ended⟩ := Option.map_eq_some_iff.mp lost
  simp only [Prod.mk.injEq] at ended
  obtain ⟨running, noCalls, noneEvicted, window, handed⟩ := ended
  have covered := claim _ session reached running
  simp [noCalls, noneEvicted, window, handed] at covered

end KizunaLink.Server
