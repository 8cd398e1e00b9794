import KizunaLink.Lib.System

/-!
# A session, its connections and its resume windows

Model of kizuna-server's server/session.rs and api/ws/handler.rs around one
session object.  `paused`, the sender, the event queue and the two session maps
are separately synchronised, so each access is a step of its own.

A connection that ends parks the session in the resumable map, and only a
parked session can be taken over by another connection: there is one connection
at a time, whose place in `handle_socket` is the phase.  The cleanup task is
started with the insertion into the map; until it fires it does nothing.

Session ids are generated, so the entry of either map under this id is this
session or absent.  Each event carries the task that sends it and a stamp that
numbers the calls of `send_json`.
-/

set_option autoImplicit false

namespace KizunaLink.Server

open KizunaLink.Lib Option

structure Event where
  task : Nat
  stamp : Nat
  size : Nat
  deriving DecidableEq, Repr

def sessionOutputQueueCapacity : Nat := 1024

def maxQueueBytes (maxQueueSize : Nat) : Nat :=
  max (64 * 1024) (min (maxQueueSize * (64 * 1024)) (64 * 1024 * 1024))

/-- The place of the connection's task in `handle_socket`; `parked` and `gone` are
the times without a connection, before and after the session's end. -/
inductive Phase where
  | bumping
  | takingOver
  | inserting
  | sayingReady
  | writing (rest : List Event)
  | running
  | exited
  | pausing
  | leavingLive
  | clearingParked
  | openingWindow
  | parking (generation : UInt64)
  | parked
  | gone
  deriving DecidableEq, Repr

/-- A call of `send_json` between its load of `paused` and its enqueue. -/
structure Call where
  event : Event
  sawPaused : Bool
  deriving DecidableEq, Repr

/-- A sleeping cleanup task.  `bumps` and `resumes` are the counts of generation
changes and of resumes at its disconnect. -/
structure CleanupTimer where
  generation : UInt64
  bumps : Nat
  resumes : Nat
  deriving DecidableEq, Repr

/-- The session with its map entries, its connection and its calls.  Beside the
fields of the source it counts stamps, generation changes and resumes, and keeps
what the connection has passed to its socket, the events sent since its loop
exited, the evicted ones, those a connection had not passed on when its loop
exited, and for each expiry the resumes counted at the disconnect and now. -/
structure Session where
  maxQueueSize : Nat
  resumable : Bool := false
  paused : Bool := false
  resumeGeneration : UInt64 := 0
  eventQueue : List Event := []
  queueBytes : Nat := 0
  sender : Nat := 0
  channel : List Event := []
  inSessions : Bool := true
  inResumable : Bool := false
  isShutdown : Bool := false
  phase : Phase := .sayingReady
  connection : Nat := 0
  resumed : Bool := false
  calls : List Call := []
  timers : List CleanupTimer := []
  nextStamp : Nat := 0
  bumps : Nat := 0
  resumes : Nat := 0
  toSocket : List Event := []
  window : List Event := []
  evicted : List Event := []
  missed : List Event := []
  expiries : List (Nat × Nat) := []
  deriving DecidableEq, Repr

/-- Pop from the front while the queue is over a cap: the popped events, the bytes
left and the queue left. -/
def popWhile (full : List Event → Nat → Bool) : Nat → List Event → List Event × Nat × List Event
  | bytes, [] => ([], bytes, [])
  | bytes, front :: rest =>
    if full (front :: rest) bytes then
      let (popped, left, queue) := popWhile full (bytes - front.size) rest
      (front :: popped, left, queue)
    else ([], bytes, front :: rest)

namespace Session

variable (session : Session)

/-- The enqueue of a call that saw `paused`. -/
def pushQueue (event : Event) : Session :=
  if session.maxQueueSize = 0 then { session with evicted := session.evicted ++ [event] }
  else if maxQueueBytes session.maxQueueSize < event.size then
    { session with evicted := session.evicted ++ [event] }
  else
    let (byCount, bytes, queue) :=
      popWhile (fun queue _ => session.maxQueueSize ≤ queue.length) session.queueBytes
        session.eventQueue
    let (byBytes, bytes, queue) :=
      popWhile (fun _ bytes => maxQueueBytes session.maxQueueSize < bytes + event.size) bytes queue
    { session with
      eventQueue := queue ++ [event]
      queueBytes := bytes + event.size
      evicted := session.evicted ++ byCount ++ byBytes }

/-- The receiver of the sender's channel lives until its connection's task returns. -/
def receiverAlive : Bool :=
  match session.phase with
  | .bumping | .takingOver | .parked | .gone => false
  | _ => true

/-- The enqueue of a call that saw the session live: a failed `try_send` is logged. -/
def trySend (event : Event) : Session :=
  if session.receiverAlive && session.channel.length < sessionOutputQueueCapacity then
    { session with channel := session.channel ++ [event] }
  else session

/-- Between the exit of a connection's loop and the completion of the resume. -/
def inWindow : Bool :=
  match session.phase with
  | .sayingReady | .writing _ => session.resumed
  | .running | .gone => false
  | _ => true

def load (task size : Nat) : Session :=
  let event : Event := { task, stamp := session.nextStamp, size }
  { session with
    calls := session.calls ++ [{ event, sawPaused := session.paused }]
    nextStamp := session.nextStamp + 1
    window := if session.inWindow then session.window ++ [event] else session.window }

def enqueue (call : Call) : Session :=
  let session := { session with calls := session.calls.filter fun other => other ≠ call }
  if call.sawPaused then session.pushQueue call.event else session.trySend call.event

/-! ## The connection's task -/

def bumpGeneration (phase : Phase) : Session :=
  { session with
    resumeGeneration := session.resumeGeneration + 1
    bumps := session.bumps + 1
    phase }

/-- The next step of the connection's task outside its loop. -/
def advance : Option Session :=
  match session.phase with
  | .bumping => some (session.bumpGeneration .takingOver)
  | .takingOver =>
    -- the sender and `paused` change under one write lock of the sender
    some
      { session with
        sender := session.connection
        paused := false
        channel := []
        toSocket := []
        phase := .inserting }
  | .inserting => some { session with inSessions := true, phase := .sayingReady }
  | .sayingReady =>
    if session.resumed then
      some
        { session with
          eventQueue := []
          queueBytes := 0
          phase := .writing session.eventQueue }
    else some { session with phase := .running }
  | .writing [] => some { session with phase := .running }
  | .writing (event :: rest) =>
    some { session with toSocket := session.toSocket ++ [event], phase := .writing rest }
  | .exited =>
    if session.resumable then some { session with phase := .pausing }
    else if session.inSessions then
      some { session with inSessions := false, isShutdown := true, phase := .gone }
    else some { session with phase := .gone }
  | .pausing =>
    if session.sender = session.connection then
      some { session with paused := true, phase := .leavingLive }
    else some { session with phase := .gone }
  | .leavingLive =>
    some
      { session with
        inSessions := session.inSessions && !(session.sender = session.connection)
        phase := .clearingParked }
  | .clearingParked =>
    some
      { session with
        inResumable := false
        isShutdown := session.isShutdown || session.inResumable
        phase := .openingWindow }
  | .openingWindow =>
    some (session.bumpGeneration (.parking (session.resumeGeneration + 1)))
  | .parking generation =>
    some
      { session with
        inResumable := true
        timers := session.timers ++
          [{ generation, bumps := session.bumps, resumes := session.resumes }]
        phase := .parked }
  | .running | .parked | .gone => none

/-- A new connection removes the session from the resumable map. -/
def resume : Option Session :=
  if session.phase = .parked ∧ session.inResumable = true then
    some
      { session with
        inResumable := false
        connection := session.connection + 1
        resumed := true
        resumes := session.resumes + 1
        phase := .bumping }
  else none

/-- The loop takes a message from its channel for the writer. -/
def receive : Option Session :=
  match session.phase, session.channel with
  | .running, event :: rest =>
    some { session with channel := rest, toSocket := session.toSocket ++ [event] }
  | _, _ => none

/-- The events of the window that are neither passed on nor evicted: what lies in the channel
when the loop exits is dropped with it. -/
def unserved : List Event :=
  session.window.filter fun event => event ∉ session.toSocket ∧ event ∉ session.evicted

def exitLoop : Option Session :=
  if session.phase = .running then
    some
      { session with
        phase := .exited
        missed := session.missed ++ session.unserved
        window := []
        evicted := [] }
  else none

/-- A cleanup task wakes up. -/
def expire (index : Nat) : Option Session :=
  (session.timers[index]?).map fun timer =>
    let session := { session with timers := session.timers.eraseIdx index }
    if session.inResumable && session.resumeGeneration = timer.generation && session.paused then
      { session with
        inResumable := false
        isShutdown := true
        phase := .gone
        expiries := session.expiries ++ [(timer.resumes, session.resumes)] }
    else session

end Session

inductive SessionAct where
  | configure (resumable : Bool)
  | load (task size : Nat)
  | enqueue (task : Nat)
  | advance
  | receive
  | exitLoop
  | resume
  | expire (index : Nat)
  deriving DecidableEq, Repr

def Session.step (session : Session) : SessionAct → Option Session
  | .configure resumable => some { session with resumable }
  | .load task size =>
    if session.calls.any fun call => call.event.task = task then none
    else some (session.load task size)
  | .enqueue task =>
    (session.calls.find? fun call => call.event.task = task).map session.enqueue
  | .advance => session.advance
  | .receive => session.receive
  | .exitLoop => session.exitLoop
  | .resume => session.resume
  | .expire index => session.expire index

theorem Session.expire_cases {session next : Session} {index : Nat}
    (stepped : session.expire index = some next) :
    ∃ timer, session.timers[index]? = some timer ∧
      (next = { session with timers := session.timers.eraseIdx index } ∨
        session.inResumable = true ∧ session.resumeGeneration = timer.generation ∧
          next =
            { session with
              timers := session.timers.eraseIdx index
              inResumable := false
              isShutdown := true
              phase := .gone
              expiries := session.expiries ++ [(timer.resumes, session.resumes)] }) := by
  obtain ⟨timer, found, moved⟩ := map_eq_some_iff.mp stepped
  refine ⟨timer, found, ?_⟩
  simp only at moved
  split at moved
  · rename_i matches_
    simp only [Bool.and_eq_true, decide_eq_true_eq] at matches_
    exact .inr ⟨matches_.1.1, matches_.1.2, moved.symm⟩
  · exact .inl moved.symm

/-- Everything that a step can do, with the guards of those that have some. -/
inductive Session.Steps (session : Session) : SessionAct → Session → Prop where
  | configure (resumable : Bool) : Steps session (.configure resumable) { session with resumable }
  | load (task size : Nat) (free : ∀ call ∈ session.calls, call.event.task ≠ task) :
      Steps session (.load task size) (session.load task size)
  | enqueue {task : Nat} {call : Call}
      (found : session.calls.find? (fun call => call.event.task = task) = some call) :
      Steps session (.enqueue task) (session.enqueue call)
  | advance {next : Session} (stepped : session.advance = some next) :
      Steps session .advance next
  | receive {event : Event} {rest : List Event} (running : session.phase = .running)
      (channel : session.channel = event :: rest) :
      Steps session .receive
        { session with channel := rest, toSocket := session.toSocket ++ [event] }
  | exitLoop (running : session.phase = .running) :
      Steps session .exitLoop
        { session with
          phase := .exited
          missed := session.missed ++ session.unserved
          window := []
          evicted := [] }
  | resume (parked : session.phase = .parked) (inResumable : session.inResumable = true) :
      Steps session .resume
        { session with
          inResumable := false
          connection := session.connection + 1
          resumed := true
          resumes := session.resumes + 1
          phase := .bumping }
  | expire {index : Nat} {next : Session} (stepped : session.expire index = some next) :
      Steps session (.expire index) next

theorem Session.steps_of_step {session next : Session} {act : SessionAct}
    (stepped : session.step act = some next) : session.Steps act next := by
  cases act with
  | configure resumable =>
    cases stepped
    exact .configure resumable
  | load task size =>
    obtain ⟨free, ⟨⟩⟩ := ite_none_left_eq_some.mp stepped
    refine .load task size fun call member same => free ?_
    exact List.any_eq_true.mpr ⟨call, member, decide_eq_true same⟩
  | enqueue task =>
    obtain ⟨call, found, rfl⟩ := map_eq_some_iff.mp stepped
    exact .enqueue found
  | advance => exact .advance stepped
  | receive =>
    simp only [Session.step, Session.receive] at stepped
    split at stepped
    · rename_i event rest running channel
      cases stepped
      exact .receive running channel
    · cases stepped
  | exitLoop =>
    obtain ⟨running, rfl⟩ := ite_some_none_eq_some.mp stepped
    exact .exitLoop running
  | resume =>
    obtain ⟨guard, rfl⟩ := ite_some_none_eq_some.mp stepped
    exact .resume guard.1 guard.2
  | expire index => exact .expire stepped

def sessionSystem : System Session SessionAct := ⟨Session.step⟩

/-- A session as `resolve_session` creates it for its first connection. -/
def Session.new (maxQueueSize : Nat) : Session := { maxQueueSize }

end KizunaLink.Server
