import KizunaLink.Lib.Suffix
import KizunaLink.Server.Session

/-!
# The event queue of a paused session

On a paused session `send_json` drops an event that is over the byte budget by
itself.  Any other event is appended, after the two loops of `pop_front` have
made room under the count cap and then under the budget.  Each loop stops at the
longest suffix within its cap, so the queue is the longest suffix of the events
sent that is within both.
-/

set_option autoImplicit false

namespace KizunaLink.Server

open KizunaLink.Lib

def totalSize (events : List Event) : Nat := (events.map Event.size).sum

@[simp] theorem totalSize_nil : totalSize [] = 0 := rfl

@[simp] theorem totalSize_cons (event : Event) (events : List Event) :
    totalSize (event :: events) = event.size + totalSize events := by
  simp [totalSize]

@[simp] theorem totalSize_append (first second : List Event) :
    totalSize (first ++ second) = totalSize first + totalSize second := by
  simp [totalSize]

theorem totalSize_le_of_sublist {short long : List Event} (sublist : short.Sublist long) :
    totalSize short ≤ totalSize long := by
  induction sublist with
  | slnil => exact Nat.le_refl _
  | cons event _ ih =>
    rw [totalSize_cons]
    omega
  | cons_cons event _ ih =>
    rw [totalSize_cons, totalSize_cons]
    omega

variable (maxQueueSize : Nat)

def Event.Fits (event : Event) : Prop :=
  event.size ≤ maxQueueBytes maxQueueSize

instance (maxQueueSize : Nat) (event : Event) : Decidable (event.Fits maxQueueSize) :=
  inferInstanceAs (Decidable (event.size ≤ maxQueueBytes maxQueueSize))

def WithinCaps (events : List Event) : Prop :=
  events.length ≤ maxQueueSize ∧ totalSize events ≤ maxQueueBytes maxQueueSize

theorem withinCaps_closed : SublistClosed (WithinCaps maxQueueSize) := by
  intro short long sublist within
  exact ⟨sublist.length_le.trans within.1, (totalSize_le_of_sublist sublist).trans within.2⟩

/-- No subtraction of the loop from the byte counter underflows. -/
def NoUnderflow (full : List Event → Nat → Bool) : Nat → List Event → Prop
  | _, [] => True
  | bytes, front :: rest =>
    full (front :: rest) bytes = true →
      front.size ≤ bytes ∧ NoUnderflow full (bytes - front.size) rest

/-- A loop that starts with the right count of bytes keeps the longest suffix within
its cap, and the count right. -/
theorem popWhile_longest (full : List Event → Nat → Bool) (Admissible : List Event → Prop)
    (empty : Admissible [])
    (stops : ∀ queue, full queue (totalSize queue) = true ↔ ¬ Admissible queue)
    (queue : List Event) :
    LongestSuffix Admissible (popWhile full (totalSize queue) queue).2.2 queue ∧
      (popWhile full (totalSize queue) queue).2.1 =
        totalSize (popWhile full (totalSize queue) queue).2.2 ∧
      NoUnderflow full (totalSize queue) queue := by
  induction queue with
  | nil => exact ⟨LongestSuffix.self empty, rfl, trivial⟩
  | cons front rest ih =>
    have left : totalSize (front :: rest) - front.size = totalSize rest := by
      rw [totalSize_cons]
      omega
    by_cases isFull : full (front :: rest) (totalSize (front :: rest)) = true
    · have excess : ¬ Admissible (front :: rest) := (stops _).mp isFull
      simp only [popWhile, isFull, if_true, left]
      refine ⟨ih.1.cons excess, ih.2.1, fun _ => ⟨?_, ?_⟩⟩
      · rw [totalSize_cons]
        omega
      · rw [left]
        exact ih.2.2
    · have within : Admissible (front :: rest) := by
        by_contra excess
        exact isFull ((stops _).mpr excess)
      simp only [popWhile, isFull, Bool.false_eq_true, if_false]
      exact ⟨LongestSuffix.self within, trivial, fun full => absurd full isFull⟩

def overCount (queue : List Event) (_ : Nat) : Bool :=
  maxQueueSize ≤ queue.length

def overBytes (event : Event) (_ : List Event) (bytes : Nat) : Bool :=
  maxQueueBytes maxQueueSize < bytes + event.size

namespace Session

/-- `send_json` when nothing comes between its load of `paused` and its enqueue. -/
def sendJson (session : Session) (event : Event) : Session :=
  session.enqueue { event, sawPaused := session.paused }

def takeEventQueue (session : Session) : List Event × Session :=
  (session.eventQueue, { session with eventQueue := [], queueBytes := 0 })

/-- No subtraction underflows in the loops of a call with this event. -/
def Subtracts (session : Session) (event : Event) : Prop :=
  NoUnderflow (overCount session.maxQueueSize) session.queueBytes session.eventQueue ∧
    NoUnderflow (overBytes session.maxQueueSize event)
      (popWhile (overCount session.maxQueueSize) session.queueBytes session.eventQueue).2.1
      (popWhile (overCount session.maxQueueSize) session.queueBytes session.eventQueue).2.2

/-- The queue is the longest suffix of `offered` within the caps, and its bytes are
counted. -/
structure QueueExact (session : Session) (offered : List Event) : Prop where
  longest : LongestSuffix (WithinCaps session.maxQueueSize) session.eventQueue offered
  counted : session.queueBytes = totalSize session.eventQueue

variable {session : Session} {offered : List Event} {event : Event}

theorem makeRoom (positive : 0 < session.maxQueueSize) (fits : event.Fits session.maxQueueSize)
    (counted : session.queueBytes = totalSize session.eventQueue) :
    let byCount := popWhile (overCount session.maxQueueSize) session.queueBytes session.eventQueue
    let byBytes := popWhile (overBytes session.maxQueueSize event) byCount.2.1 byCount.2.2
    LongestSuffix (fun queue => WithinCaps session.maxQueueSize (queue ++ [event])) byBytes.2.2
        session.eventQueue ∧
      byBytes.2.1 = totalSize byBytes.2.2 ∧ session.Subtracts event := by
  intro byCount byBytes
  obtain ⟨countLongest, countBytes, countSafe⟩ :=
    popWhile_longest (overCount session.maxQueueSize)
      (fun queue => queue.length < session.maxQueueSize) positive
      (fun queue => by simp [overCount]) session.eventQueue
  rw [← counted] at countLongest countBytes countSafe
  have budget : totalSize [] + event.size ≤ maxQueueBytes session.maxQueueSize := by
    simpa [Event.Fits] using fits
  obtain ⟨bytesLongest, bytesCounted, bytesSafe⟩ :=
    popWhile_longest (overBytes session.maxQueueSize event)
      (fun queue => totalSize queue + event.size ≤ maxQueueBytes session.maxQueueSize) budget
      (fun queue => by simp [overBytes]) byCount.2.2
  rw [← countBytes] at bytesLongest bytesCounted bytesSafe
  have shorter : SublistClosed fun queue : List Event => queue.length < session.maxQueueSize :=
    fun _ _ sublist short => lt_of_le_of_lt sublist.length_le short
  have both := countLongest.and shorter bytesLongest
  refine ⟨?_, bytesCounted, countSafe, bytesSafe⟩
  have same : (fun queue : List Event => queue.length < session.maxQueueSize ∧
      totalSize queue + event.size ≤ maxQueueBytes session.maxQueueSize) =
      fun queue => WithinCaps session.maxQueueSize (queue ++ [event]) := by
    funext queue
    rw [WithinCaps, List.length_append, totalSize_append]
    rfl
  rw [← same]
  exact both

theorem pushQueue_of_fits (positive : 0 < session.maxQueueSize)
    (fits : event.Fits session.maxQueueSize) :
    let byCount := popWhile (overCount session.maxQueueSize) session.queueBytes session.eventQueue
    let byBytes := popWhile (overBytes session.maxQueueSize event) byCount.2.1 byCount.2.2
    session.pushQueue event =
      { session with
        eventQueue := byBytes.2.2 ++ [event]
        queueBytes := byBytes.2.1 + event.size
        evicted := session.evicted ++ byCount.1 ++ byBytes.1 } := by
  have notZero : session.maxQueueSize ≠ 0 := Nat.ne_of_gt positive
  have notOver : ¬ maxQueueBytes session.maxQueueSize < event.size := Nat.not_lt.mpr fits
  simp only [pushQueue, if_neg notZero, if_neg notOver]
  rfl

theorem pushQueue_of_not_fits (excess : ¬ event.Fits session.maxQueueSize) :
    session.pushQueue event = { session with evicted := session.evicted ++ [event] } := by
  have tooLarge : maxQueueBytes session.maxQueueSize < event.size := Nat.lt_of_not_le excess
  simp [pushQueue, tooLarge]

theorem pushQueue_keeps (session : Session) (event : Event) :
    (session.pushQueue event).maxQueueSize = session.maxQueueSize ∧
      (session.pushQueue event).paused = session.paused := by
  simp only [pushQueue]
  split
  · exact ⟨rfl, rfl⟩
  · split <;> exact ⟨rfl, rfl⟩

theorem QueueExact.pushQueue (exact : session.QueueExact offered)
    (positive : 0 < session.maxQueueSize) (event : Event) :
    (session.pushQueue event).QueueExact
      (if event.Fits session.maxQueueSize then offered ++ [event] else offered) := by
  by_cases fits : event.Fits session.maxQueueSize
  · rw [if_pos fits, pushQueue_of_fits positive fits]
    obtain ⟨longest, counted, -⟩ := makeRoom positive fits exact.counted
    refine ⟨exact.longest.append (withinCaps_closed _) longest.push, ?_⟩
    dsimp only
    rw [totalSize_append, counted]
    simp
  · rw [if_neg fits, pushQueue_of_not_fits fits]
    exact ⟨exact.longest, exact.counted⟩

end Session

/-! ## Sequences of calls -/

inductive QueueCall where
  | sendJson (event : Event)
  | takeEventQueue
  deriving DecidableEq, Repr

def Session.perform (session : Session) : QueueCall → Session
  | .sendJson event => session.sendJson event
  | .takeEventQueue => session.takeEventQueue.2

def QueueCall.sent (events : List Event) : QueueCall → List Event
  | .sendJson event => events ++ [event]
  | .takeEventQueue => []

def sentSinceTake (calls : List QueueCall) : List Event := calls.foldl QueueCall.sent []

namespace Session

variable {session : Session}

/-- What a sequence of calls on a paused session keeps. -/
structure PausedExact (maxQueueSize : Nat) (session : Session) (sent : List Event) : Prop where
  paused : session.paused = true
  size : session.maxQueueSize = maxQueueSize
  exact : session.QueueExact (sent.filter fun event => event.Fits maxQueueSize)

theorem sendJson_of_paused (paused : session.paused = true) (event : Event) :
    ∃ calls, session.sendJson event = { session with calls }.pushQueue event := by
  simp only [sendJson, enqueue, paused, if_true]
  exact ⟨_, rfl⟩

theorem QueueExact.ofCalls {offered : List Event} (exact : session.QueueExact offered)
    (calls : List Call) : { session with calls }.QueueExact offered :=
  ⟨exact.longest, exact.counted⟩

theorem PausedExact.perform {maxQueueSize : Nat} {sent : List Event}
    (safe : session.PausedExact maxQueueSize sent) (positive : 0 < maxQueueSize)
    (call : QueueCall) :
    (session.perform call).PausedExact maxQueueSize (call.sent sent) := by
  obtain ⟨paused, size, exact⟩ := safe
  cases call with
  | takeEventQueue =>
    refine ⟨paused, size, LongestSuffix.self ?_, rfl⟩
    simp [Session.perform, takeEventQueue, WithinCaps]
  | sendJson event =>
    obtain ⟨calls, sendJson_eq⟩ := sendJson_of_paused paused event
    subst size
    have pushed := (exact.ofCalls calls).pushQueue positive event
    rw [Session.perform, sendJson_eq]
    refine ⟨?_, ?_, ?_⟩
    · rw [(pushQueue_keeps _ _).2]
      exact paused
    · rw [(pushQueue_keeps _ _).1]
    · rw [QueueCall.sent, List.filter_append]
      by_cases fits : event.Fits session.maxQueueSize
      · simpa [fits] using pushed
      · simpa [fits] using pushed

theorem PausedExact.performs {maxQueueSize : Nat} {sent : List Event}
    (safe : session.PausedExact maxQueueSize sent) (positive : 0 < maxQueueSize)
    (calls : List QueueCall) :
    (calls.foldl Session.perform session).PausedExact maxQueueSize
      (calls.foldl QueueCall.sent sent) := by
  induction calls generalizing session sent with
  | nil => exact safe
  | cons call rest ih => exact ih (safe.perform positive call)

end Session

/-- For every sequence of calls on a paused session whose queue was empty, the queue is
the longest suffix of the events sent since it was last taken, those over the budget
left out, that is within both caps; its bytes are counted, and the next call subtracts
from the counter without underflow. -/
theorem paused_queue_is_longest_suffix (session : Session) (paused : session.paused = true)
    (positive : 0 < session.maxQueueSize) (empty : session.eventQueue = [])
    (uncounted : session.queueBytes = 0) (calls : List QueueCall) :
    let final := calls.foldl Session.perform session
    LongestSuffix (WithinCaps session.maxQueueSize) final.eventQueue
        ((sentSinceTake calls).filter fun event => event.Fits session.maxQueueSize) ∧
      final.queueBytes = totalSize final.eventQueue ∧
      ∀ event : Event, event.Fits session.maxQueueSize → final.Subtracts event := by
  intro final
  have start : session.PausedExact session.maxQueueSize [] := by
    refine ⟨paused, rfl, ?_, ?_⟩
    · rw [empty]
      exact LongestSuffix.self ⟨Nat.zero_le _, Nat.zero_le _⟩
    · rw [empty, uncounted, totalSize_nil]
  obtain ⟨-, size, exact⟩ := start.performs positive calls
  refine ⟨?_, exact.counted, fun event fits => ?_⟩
  · rw [← size]
    exact size ▸ exact.longest
  · have sized : final.maxQueueSize = session.maxQueueSize := size
    exact (Session.makeRoom (sized ▸ positive) (sized ▸ fits) exact.counted).2.2

def callsOfTwo : List QueueCall :=
  [.sendJson ⟨0, 0, 9⟩, .takeEventQueue, .sendJson ⟨0, 1, 70000⟩, .sendJson ⟨1, 2, 70000⟩,
    .sendJson ⟨0, 3, 140000⟩, .sendJson ⟨1, 4, 8⟩]

def pausedOfTwo : Session := { Session.new 2 with paused := true }

/-- A queue of two: the taken event is forgotten, the oversized one is not counted, and
the oldest of the other three goes. -/
theorem paused_queue_of_two :
    (callsOfTwo.foldl Session.perform pausedOfTwo).eventQueue =
        [⟨1, 2, 70000⟩, ⟨1, 4, 8⟩] ∧
      LongestSuffix (WithinCaps 2) [⟨1, 2, 70000⟩, ⟨1, 4, 8⟩]
        [⟨0, 1, 70000⟩, ⟨1, 2, 70000⟩, ⟨1, 4, 8⟩] := by
  have queue : (callsOfTwo.foldl Session.perform pausedOfTwo).eventQueue =
      [⟨1, 2, 70000⟩, ⟨1, 4, 8⟩] := by decide +kernel
  have offered : (sentSinceTake callsOfTwo).filter
      (fun event => event.Fits pausedOfTwo.maxQueueSize) =
      [⟨0, 1, 70000⟩, ⟨1, 2, 70000⟩, ⟨1, 4, 8⟩] := by decide +kernel
  have law :=
    (paused_queue_is_longest_suffix pausedOfTwo rfl Nat.two_pos rfl rfl callsOfTwo).1
  rw [queue, offered] at law
  exact ⟨queue, law⟩

namespace Session

def QueueCounted (session : Session) : Prop :=
  session.queueBytes = totalSize session.eventQueue ∧
    WithinCaps session.maxQueueSize session.eventQueue

variable {session : Session}

theorem QueueCounted.pushQueue (counted : session.QueueCounted) (event : Event) :
    (session.pushQueue event).QueueCounted := by
  by_cases zero : session.maxQueueSize = 0
  · simpa [Session.pushQueue, zero, QueueCounted] using counted
  · have exact : session.QueueExact session.eventQueue :=
      ⟨LongestSuffix.self counted.2, counted.1⟩
    have pushed := exact.pushQueue (Nat.pos_of_ne_zero zero) event
    exact ⟨pushed.counted, pushed.longest.admissible⟩

theorem QueueCounted.enqueue (counted : session.QueueCounted) (call : Call) :
    (session.enqueue call).QueueCounted := by
  simp only [Session.enqueue]
  split
  · apply QueueCounted.pushQueue
    exact counted
  · simp only [trySend]
    split
    · exact counted
    · exact counted

theorem advance_takes (ready : session.phase = .sayingReady) (resumed : session.resumed = true) :
    session.advance =
      some { session.takeEventQueue.2 with phase := .writing session.takeEventQueue.1 } := by
  simp [advance, ready, resumed, takeEventQueue]

theorem QueueCounted.advance (counted : session.QueueCounted) {next : Session}
    (stepped : session.advance = some next) : next.QueueCounted := by
  by_cases taking : session.phase = .sayingReady ∧ session.resumed = true
  · rw [advance_takes taking.1 taking.2] at stepped
    cases stepped
    simp [QueueCounted, takeEventQueue, WithinCaps]
  · simp only [Session.advance] at stepped
    repeat' split at stepped
    all_goals first
      | (cases stepped; exact counted)
      | simp_all

theorem QueueCounted.step (counted : session.QueueCounted) {act : SessionAct} {next : Session}
    (stepped : session.step act = some next) : next.QueueCounted := by
  cases steps_of_step stepped with
  | configure _ | load _ _ _ | receive _ _ | exitLoop _ | resume _ _ => exact counted
  | @enqueue task call found => exact counted.enqueue call
  | advance stepped => exact counted.advance stepped
  | expire stepped =>
    obtain ⟨timer, -, rfl | ⟨-, -, rfl⟩⟩ := expire_cases stepped
    · exact counted
    · exact counted

end Session

/-- Whatever the calls and the connections do, the bytes of the queue are counted and the
queue is within its caps. -/
theorem reached_queueCounted (acts : List SessionAct) (session : Session)
    (reached : sessionSystem.run (Session.new maxQueueSize) acts = some session) :
    session.QueueCounted :=
  sessionSystem.run_invariant_of_step Session.QueueCounted
    (fun counted => counted.step) acts ⟨rfl, Nat.zero_le _, Nat.zero_le _⟩ reached

/-- Two events for a paused session with a queue of one. -/
def pausedTwice : List SessionAct :=
  [.configure true, .advance, .exitLoop, .advance, .advance, .load 1 5, .enqueue 1, .load 2 7,
    .enqueue 2]

theorem queue_of_one_counted :
    ∃ session, sessionSystem.run (Session.new 1) pausedTwice = some session ∧
      session.queueBytes = 7 ∧ session.QueueCounted :=
  ⟨_, rfl, rfl, reached_queueCounted 1 pausedTwice _ rfl⟩

end KizunaLink.Server
