import KizunaLink.Server.ResumeWindow

/-!
# The line of events of a session

The events a resumed connection hands out stand in one line: what it has passed
to its socket, the rest of the drained queue, the queue while it is not drained
yet, and its channel.  Until the connection has taken the sender over the line is
the queue alone, for the channel is the one of the connection that ended.

An event of the window stays in the line unless it was sent before `paused` was
set, pushed to the queue after it was drained, or met a full channel; these are
the cases the condition excludes.
-/

set_option autoImplicit false

namespace KizunaLink.Server

open KizunaLink.Lib List

def Before (first second : Event) : Prop :=
  first.task = second.task → first.stamp < second.stamp

/-- The channel that the sender names belongs to a connection that has ended. -/
def Phase.beforeTakeOver : Phase → Bool
  | .exited | .pausing | .leavingLive | .clearingParked | .openingWindow | .parking _ | .parked
  | .bumping | .takingOver => true
  | .inserting | .sayingReady | .writing _ | .running | .gone => false

def Phase.rest : Phase → List Event
  | .writing rest => rest
  | _ => []

namespace Session

variable (session : Session)

def lineFront : List Event :=
  if session.phase.beforeTakeOver then [] else session.toSocket ++ session.phase.rest

def lineBack : List Event :=
  if session.phase.beforeTakeOver then [] else session.channel

/-- What the resumed connection hands out, in order. -/
def line : List Event :=
  session.lineFront ++ session.eventQueue ++ session.lineBack

/-- Every call that saw `paused` has reached the queue. -/
def NoPausedCalls : Prop :=
  ∀ call ∈ session.calls, call.sawPaused = false

/-- A call that still has to reach the queue has no later event in the channel. -/
def ChannelFree : Prop :=
  ∀ call ∈ session.calls, call.sawPaused = true →
    ∀ event ∈ session.channel, event.task ≠ call.event.task

def WindowCallsPaused : Prop :=
  ∀ call ∈ session.calls, call.event ∈ session.window → call.sawPaused = true

def PhaseKeeps : Prop :=
  match session.phase with
  | .running | .writing _ =>
    session.paused = false ∧ session.eventQueue = [] ∧ session.NoPausedCalls
  | .sayingReady =>
    session.paused = false ∧ (session.resumed = true → session.ChannelFree) ∧
      (session.resumed = false → session.eventQueue = [] ∧ session.NoPausedCalls)
  | .inserting => session.paused = false ∧ session.resumed = true ∧ session.ChannelFree
  | .exited | .pausing =>
    session.paused = false ∧ session.eventQueue = [] ∧ session.NoPausedCalls ∧
      session.window = []
  | .bumping | .takingOver =>
    session.paused = true ∧ session.resumed = true ∧ session.WindowCallsPaused
  | .leavingLive | .clearingParked | .openingWindow | .parking _ | .parked =>
    session.paused = true ∧ session.WindowCallsPaused
  | .gone => True

structure EventSafe (session : Session) : Prop where
  ordered : session.line.Pairwise Before
  below : ∀ event ∈ session.line, event.stamp < session.nextStamp
  callsBelow : ∀ call ∈ session.calls, call.event.stamp < session.nextStamp
  callsLast : ∀ call ∈ session.calls, ∀ event ∈ session.line, Before event call.event
  oneCall : ∀ first ∈ session.calls, ∀ second ∈ session.calls,
    first.event.task = second.event.task → first = second
  covered : ∀ event ∈ session.window,
    (∃ call ∈ session.calls, call.event = event) ∨ event ∈ session.line ∨
      event ∈ session.evicted
  phaseKeeps : session.PhaseKeeps

/-- The condition on a step: no call starts between the loop's exit and the pause,
every call that saw `paused` has pushed its event when the queue is drained, an
event of the window finds room in the channel, and when the resumed connection's
loop exits the calls of the window have ended and none of their events is left in
the channel. -/
def KeepsEvents (act : SessionAct) : Prop :=
  match act with
  | .load _ _ => session.phase ≠ .exited ∧ session.phase ≠ .pausing
  | .advance => session.phase = .sayingReady → session.resumed = true →
      ∀ call ∈ session.calls, call.sawPaused = false
  | .enqueue task =>
    ∀ call ∈ session.calls.find? (fun call => call.event.task = task),
      call.sawPaused = false → call.event ∈ session.window →
        session.channel.length < sessionOutputQueueCapacity
  | .exitLoop => (∀ call ∈ session.calls, call.event ∉ session.window) ∧
      ∀ event ∈ session.channel, event ∉ session.window
  | _ => True

instance (session : Session) (act : SessionAct) : Decidable (session.KeepsEvents act) := by
  unfold KeepsEvents
  split <;> infer_instance

variable {session : Session}

theorem popWhile_append (full : List Event → Nat → Bool) (bytes : Nat) (queue : List Event) :
    (popWhile full bytes queue).1 ++ (popWhile full bytes queue).2.2 = queue := by
  induction queue generalizing bytes with
  | nil => rfl
  | cons front rest ih =>
    simp only [popWhile]
    split
    · simp [ih]
    · rfl

theorem pushQueue_cases (session : Session) (event : Event) :
    session.pushQueue event = { session with evicted := session.evicted ++ [event] } ∨
      ∃ popped kept queueBytes, session.eventQueue = popped ++ kept ∧
        session.pushQueue event =
          { session with
            eventQueue := kept ++ [event]
            queueBytes
            evicted := session.evicted ++ popped } := by
  simp only [pushQueue]
  split
  · exact .inl rfl
  · split
    · exact .inl rfl
    · right
      have byCount := popWhile_append (fun queue _ => session.maxQueueSize ≤ queue.length)
        session.queueBytes session.eventQueue
      generalize popWhile (fun queue _ => session.maxQueueSize ≤ queue.length)
        session.queueBytes session.eventQueue = first at byCount
      have byBytes := popWhile_append
        (fun _ bytes => maxQueueBytes session.maxQueueSize < bytes + event.size) first.2.1
        first.2.2
      generalize popWhile
        (fun _ bytes => maxQueueBytes session.maxQueueSize < bytes + event.size) first.2.1
        first.2.2 = second at byBytes
      refine ⟨first.1 ++ second.1, second.2.2, _, ?_, by rw [append_assoc]⟩
      rw [append_assoc, byBytes, byCount]

theorem mem_window_load {task size : Nat} {event : Event}
    (member : event ∈ (session.load task size).window) :
    event ∈ session.window ∨ event = { task, stamp := session.nextStamp, size } := by
  simp only [load] at member
  split at member
  · rcases mem_append.mp member with earlier | now
    · exact .inl earlier
    · exact .inr (mem_singleton.mp now)
  · exact .inl member

theorem EventSafe.load_phaseKeeps (safe : session.EventSafe) {task : Nat} (size : Nat)
    (started : session.phase ≠ .exited ∧ session.phase ≠ .pausing) :
    (session.load task size).PhaseKeeps := by
  have noPaused : session.paused = false → session.NoPausedCalls →
      (session.load task size).NoPausedCalls := by
    intro unpaused none call member
    rcases mem_append.mp member with earlier | now
    · exact none call earlier
    · cases mem_singleton.mp now
      exact unpaused
  have channelFree : session.paused = false → session.ChannelFree →
      (session.load task size).ChannelFree := by
    intro unpaused free call member saw
    rcases mem_append.mp member with earlier | now
    · exact free call earlier saw
    · cases mem_singleton.mp now
      rw [unpaused] at saw
      cases saw
  have windowPaused : session.paused = true → session.WindowCallsPaused →
      (session.load task size).WindowCallsPaused := by
    intro paused calls call member inWindow
    rcases mem_append.mp member with earlier | now
    · rcases mem_window_load inWindow with before | new
      · exact calls call earlier before
      · have older := safe.callsBelow call earlier
        rw [new] at older
        exact absurd older (Nat.lt_irrefl _)
    · cases mem_singleton.mp now
      exact paused
  have keeps := safe.phaseKeeps
  have samePhase : (session.load task size).phase = session.phase := rfl
  simp only [PhaseKeeps, samePhase] at keeps ⊢
  cases at_ : session.phase with
  | running | writing rest =>
    rw [at_] at keeps
    exact ⟨keeps.1, keeps.2.1, noPaused keeps.1 keeps.2.2⟩
  | sayingReady =>
    rw [at_] at keeps
    exact ⟨keeps.1, fun resumed => channelFree keeps.1 (keeps.2.1 resumed),
      fun first => ⟨(keeps.2.2 first).1, noPaused keeps.1 (keeps.2.2 first).2⟩⟩
  | inserting =>
    rw [at_] at keeps
    exact ⟨keeps.1, keeps.2.1, channelFree keeps.1 keeps.2.2⟩
  | exited => exact absurd at_ started.1
  | pausing => exact absurd at_ started.2
  | bumping | takingOver =>
    rw [at_] at keeps
    exact ⟨keeps.1, keeps.2.1, windowPaused keeps.1 keeps.2.2⟩
  | leavingLive | clearingParked | openingWindow | parking generation | parked =>
    rw [at_] at keeps
    exact ⟨keeps.1, windowPaused keeps.1 keeps.2⟩
  | gone => trivial

theorem EventSafe.load (safe : session.EventSafe) {task : Nat} (size : Nat)
    (free : ∀ call ∈ session.calls, call.event.task ≠ task)
    (started : session.phase ≠ .exited ∧ session.phase ≠ .pausing) :
    (session.load task size).EventSafe := by
  refine ⟨safe.ordered, ?_, ?_, ?_, ?_, ?_, ?_⟩
  · intro event member
    exact Nat.lt_succ_of_lt (safe.below event member)
  · intro call member
    rcases mem_append.mp member with earlier | now
    · exact Nat.lt_succ_of_lt (safe.callsBelow call earlier)
    · cases mem_singleton.mp now
      exact Nat.lt_succ_self _
  · intro call member event inLine
    rcases mem_append.mp member with earlier | now
    · exact safe.callsLast call earlier event inLine
    · cases mem_singleton.mp now
      exact fun _ => safe.below event inLine
  · intro first firstMember second secondMember sameTask
    rcases mem_append.mp firstMember with firstEarlier | firstNow
    · rcases mem_append.mp secondMember with secondEarlier | secondNow
      · exact safe.oneCall first firstEarlier second secondEarlier sameTask
      · cases mem_singleton.mp secondNow
        exact absurd sameTask (free first firstEarlier)
    · cases mem_singleton.mp firstNow
      rcases mem_append.mp secondMember with secondEarlier | secondNow
      · exact absurd sameTask.symm (free second secondEarlier)
      · cases mem_singleton.mp secondNow
        rfl
  · intro event member
    rcases mem_window_load member with earlier | now
    · rcases safe.covered event earlier with ⟨call, pending, same⟩ | inLine | evicted
      · exact .inl ⟨call, mem_append_left _ pending, same⟩
      · exact .inr (.inl inLine)
      · exact .inr (.inr evicted)
    · exact .inl ⟨_, mem_append_right _ (mem_singleton.mpr rfl), now.symm⟩
  · exact safe.load_phaseKeeps size started

end Session

end KizunaLink.Server
