import KizunaLink.Server.EventLine

/-!
# The end of an event's call

A call ends when its event has reached the queue or the channel, or was dropped.
The first part says what every such end keeps; the cases of `enqueue` follow from
it by what they do to the line.
-/

set_option autoImplicit false

namespace KizunaLink.Server

open List

namespace Session

variable {session : Session}

variable {call : Call}

/-- The first thing that `enqueue` does. -/
abbrev withoutCall (session : Session) (call : Call) : Session :=
  { session with calls := session.calls.filter fun other => other ≠ call }

theorem pairwise_insert {front kept back : List Event} {event : Event}
    (ordered : (front ++ kept ++ back).Pairwise Before)
    (last : ∀ earlier ∈ front ++ kept, Before earlier event)
    (free : ∀ later ∈ back, later.task ≠ event.task) :
    (front ++ (kept ++ [event]) ++ back).Pairwise Before := by
  obtain ⟨frontOrdered, backOrdered, across⟩ := pairwise_append.mp ordered
  rw [← append_assoc]
  refine pairwise_append.mpr ⟨?_, backOrdered, ?_⟩
  · refine pairwise_append.mpr ⟨frontOrdered, pairwise_singleton _ _, ?_⟩
    intro earlier member other isEvent
    cases mem_singleton.mp isEvent
    exact last earlier member
  · intro earlier member later inBack
    rcases mem_append.mp member with before | now
    · exact across earlier before later inBack
    · cases mem_singleton.mp now
      exact fun sameTask => absurd sameTask.symm (free later inBack)

theorem receiverAlive_of_takenOver (takenOver : session.phase.beforeTakeOver = false)
    (notGone : session.phase ≠ .gone) : session.receiverAlive = true := by
  simp only [receiverAlive]
  cases at_ : session.phase with
  | bumping | takingOver | parked =>
    rw [at_] at takenOver
    cases takenOver
  | gone => exact absurd at_ notGone
  | _ => rfl

theorem mem_concat {events : List Event} {event last : Event} (member : event ∈ events ++ [last]) :
    event ∈ events ∨ event = last :=
  (mem_append.mp member).imp_right mem_singleton.mp

section

variable (safe : session.EventSafe) (notGone : session.phase ≠ .gone)
  (member : call ∈ session.calls)
include safe member

theorem EventSafe.others {other : Call} (remains : other ∈ (session.withoutCall call).calls) :
    other ∈ session.calls ∧ other.event.task ≠ call.event.task := by
  obtain ⟨pending, different⟩ := mem_filter.mp remains
  refine ⟨pending, fun sameTask => ?_⟩
  simp only [decide_eq_true_eq] at different
  exact different (safe.oneCall other pending call member sameTask)

/-- What the end of a call leaves alone, beside the call itself. -/
structure CallEnded (session : Session) (call : Call) (after : Session) : Prop where
  calls : after.calls = session.calls.filter fun other => other ≠ call
  nextStamp : after.nextStamp = session.nextStamp
  window : after.window = session.window
  phase : after.phase = session.phase
  paused : after.paused = session.paused
  resumed : after.resumed = session.resumed

theorem EventSafe.finishCall_phaseKeeps {after : Session} (ended : session.CallEnded call after)
    (queue : session.eventQueue = [] → session.NoPausedCalls → after.eventQueue = [])
    (channel : ∀ event ∈ after.channel, event ∈ session.channel ∨ event = call.event) :
    after.PhaseKeeps := by
  have noPaused : session.NoPausedCalls → after.NoPausedCalls := by
    intro none other remains
    rw [ended.calls] at remains
    exact none other (safe.others member remains).1
  have channelFree : session.ChannelFree → after.ChannelFree := by
    intro free other remains saw event inChannel
    rw [ended.calls] at remains
    obtain ⟨pending, otherTask⟩ := safe.others member remains
    rcases channel event inChannel with before | now
    · exact free other pending saw event before
    · rw [now]
      exact otherTask.symm
  have windowPaused : session.WindowCallsPaused → after.WindowCallsPaused := by
    intro all other remains inWindow
    rw [ended.calls] at remains
    rw [ended.window] at inWindow
    exact all other (safe.others member remains).1 inWindow
  have keeps := safe.phaseKeeps
  simp only [PhaseKeeps, ended.phase, ended.paused, ended.resumed, ended.window] at keeps ⊢
  cases at_ : session.phase with
  | running | writing rest =>
    rw [at_] at keeps
    exact ⟨keeps.1, queue keeps.2.1 keeps.2.2, noPaused keeps.2.2⟩
  | sayingReady =>
    rw [at_] at keeps
    refine ⟨keeps.1, fun resumed => channelFree (keeps.2.1 resumed), fun first => ?_⟩
    obtain ⟨empty, none⟩ := keeps.2.2 first
    exact ⟨queue empty none, noPaused none⟩
  | inserting =>
    rw [at_] at keeps
    exact ⟨keeps.1, keeps.2.1, channelFree keeps.2.2⟩
  | exited | pausing =>
    rw [at_] at keeps
    exact ⟨keeps.1, queue keeps.2.1 keeps.2.2.1, noPaused keeps.2.2.1, keeps.2.2.2⟩
  | bumping | takingOver =>
    rw [at_] at keeps
    exact ⟨keeps.1, keeps.2.1, windowPaused keeps.2.2⟩
  | leavingLive | clearingParked | openingWindow | parking generation | parked =>
    rw [at_] at keeps
    exact ⟨keeps.1, windowPaused keeps.2⟩
  | gone => trivial

/-- The end of a call, whatever became of its event: the line may gain the event at
a place behind the task's others, and may lose evicted events. -/
theorem EventSafe.finishCall {after : Session} (ended : session.CallEnded call after)
    (ordered : after.line.Pairwise Before)
    (line : ∀ event ∈ after.line, event ∈ session.line ∨ event = call.event)
    (kept : ∀ event, event ∈ session.line ∨ event ∈ session.evicted →
      event ∈ after.line ∨ event ∈ after.evicted)
    (own : call.event ∈ session.window → call.event ∈ after.line ∨ call.event ∈ after.evicted)
    (queue : session.eventQueue = [] → session.NoPausedCalls → after.eventQueue = [])
    (channel : ∀ event ∈ after.channel, event ∈ session.channel ∨ event = call.event) :
    after.EventSafe := by
  refine ⟨ordered, ?_, ?_, ?_, ?_, ?_, safe.finishCall_phaseKeeps member ended queue channel⟩
  · intro event inLine
    rw [ended.nextStamp]
    rcases line event inLine with before | now
    · exact safe.below event before
    · rw [now]
      exact safe.callsBelow call member
  · intro other remains
    rw [ended.calls] at remains
    rw [ended.nextStamp]
    exact safe.callsBelow other (safe.others member remains).1
  · intro other remains event inLine
    rw [ended.calls] at remains
    obtain ⟨pending, otherTask⟩ := safe.others member remains
    rcases line event inLine with before | now
    · exact safe.callsLast other pending event before
    · rw [now]
      exact fun sameTask => absurd sameTask.symm otherTask
  · intro first firstRemains second secondRemains
    rw [ended.calls] at firstRemains secondRemains
    exact safe.oneCall first (safe.others member firstRemains).1 second
      (safe.others member secondRemains).1
  · intro event inWindow
    rw [ended.window] at inWindow
    rcases safe.covered event inWindow with ⟨other, pending, same⟩ | before
    · by_cases isCall : other = call
      · rw [isCall] at same
        rw [← same] at inWindow ⊢
        exact .inr (own inWindow)
      · left
        refine ⟨other, ?_, same⟩
        rw [ended.calls]
        exact mem_filter.mpr ⟨pending, by simpa using isCall⟩
    · exact .inr (kept event before)

theorem EventSafe.not_window (before : session.phase.beforeTakeOver = true)
    (unpaused : call.sawPaused = false) : call.event ∉ session.window := by
  intro inWindow
  have keeps := safe.phaseKeeps
  have notAll : ¬ session.WindowCallsPaused := by
    intro all
    rw [all call member inWindow] at unpaused
    cases unpaused
  simp only [PhaseKeeps] at keeps
  cases at_ : session.phase with
  | exited | pausing =>
    rw [at_] at keeps
    rw [keeps.2.2.2] at inWindow
    cases inWindow
  | bumping | takingOver =>
    rw [at_] at keeps
    exact notAll keeps.2.2
  | leavingLive | clearingParked | openingWindow | parking generation | parked =>
    rw [at_] at keeps
    exact notAll keeps.2
  | _ =>
    rw [at_] at before
    cases before

theorem EventSafe.finishUnsent (outside : call.event ∉ session.window) (channel : List Event)
    (events : ∀ event ∈ channel, event ∈ session.channel ∨ event = call.event)
    (sameLine : line { session with channel } = session.line) :
    EventSafe { session.withoutCall call with channel } := by
  have sameLine : line { session.withoutCall call with channel } = session.line := sameLine
  apply safe.finishCall member
  · exact ⟨rfl, rfl, rfl, rfl, rfl, rfl⟩
  · rw [sameLine]
    exact safe.ordered
  · rw [sameLine]
    exact fun event inLine => .inl inLine
  · rw [sameLine]
    exact fun event kept => kept
  · exact fun inWindow => absurd inWindow outside
  · exact fun empty _ => empty
  · exact events

theorem EventSafe.finishSent (takenOver : session.phase.beforeTakeOver = false) :
    EventSafe { session.withoutCall call with channel := session.channel ++ [call.event] } := by
  have lineAfter : line { session.withoutCall call with
      channel := session.channel ++ [call.event] } = session.line ++ [call.event] := by
    simp [line, lineFront, lineBack, takenOver]
  apply safe.finishCall member
  · exact ⟨rfl, rfl, rfl, rfl, rfl, rfl⟩
  · rw [lineAfter]
    refine pairwise_append.mpr ⟨safe.ordered, pairwise_singleton _ _, ?_⟩
    intro earlier inLine other isEvent
    cases mem_singleton.mp isEvent
    exact safe.callsLast call member earlier inLine
  · rw [lineAfter]
    exact fun event => mem_concat
  · rw [lineAfter]
    rintro event (inLine | evicted)
    · exact .inl (mem_append_left _ inLine)
    · exact .inr evicted
  · rw [lineAfter]
    exact fun _ => .inl (mem_append_right _ (mem_singleton.mpr rfl))
  · exact fun empty _ => empty
  · exact fun event => mem_concat

include notGone

theorem EventSafe.lineBack_free (saw : call.sawPaused = true) :
    ∀ event ∈ session.lineBack, event.task ≠ call.event.task := by
  have keeps := safe.phaseKeeps
  have noneSaw : ¬ session.NoPausedCalls := fun none => by
    rw [none call member] at saw
    cases saw
  intro event inBack
  simp only [PhaseKeeps] at keeps
  simp only [lineBack] at inBack
  cases at_ : session.phase with
  | running | writing rest =>
    rw [at_] at keeps
    exact absurd keeps.2.2 noneSaw
  | sayingReady =>
    rw [at_] at keeps inBack
    cases first : session.resumed with
    | false => exact absurd (keeps.2.2 first).2 noneSaw
    | true => exact keeps.2.1 first call member saw event inBack
  | inserting =>
    rw [at_] at keeps inBack
    exact keeps.2.2 call member saw event inBack
  | gone => exact absurd at_ notGone
  | _ =>
    rw [at_] at inBack
    cases inBack

/-- The end of a call whose event reached the queue, where it comes behind its task's
events of the line. -/
theorem EventSafe.finishQueued (saw : call.sawPaused = true) {popped kept : List Event}
    (split : session.eventQueue = popped ++ kept) (queueBytes : Nat) :
    EventSafe { session.withoutCall call with
      eventQueue := kept ++ [call.event]
      queueBytes
      evicted := session.evicted ++ popped } := by
  have lineBefore : session.line =
      session.lineFront ++ (popped ++ kept) ++ session.lineBack := by
    rw [line, split]
  have sublist : (session.lineFront ++ kept ++ session.lineBack).Sublist session.line := by
    rw [lineBefore]
    exact ((List.Sublist.refl _).append (sublist_append_right popped kept)).append
      (List.Sublist.refl _)
  have ordered := safe.ordered.sublist sublist
  have free := safe.lineBack_free notGone member saw
  apply safe.finishCall member
  · exact ⟨rfl, rfl, rfl, rfl, rfl, rfl⟩
  · apply pairwise_insert ordered _ free
    intro earlier inFront
    exact safe.callsLast call member earlier (sublist.subset (mem_append_left _ inFront))
  · intro event inLine
    rcases mem_append.mp inLine with inFront | inBack
    · rcases mem_append.mp inFront with front | queued
      · exact .inl (sublist.subset (mem_append_left _ (mem_append_left _ front)))
      · rcases mem_append.mp queued with stayed | now
        · exact .inl (sublist.subset (mem_append_left _ (mem_append_right _ stayed)))
        · exact .inr (mem_singleton.mp now)
    · exact .inl (sublist.subset (mem_append_right _ inBack))
  · rintro event (inLine | evicted)
    · rw [lineBefore] at inLine
      rcases mem_append.mp inLine with inFront | inBack
      · rcases mem_append.mp inFront with front | queued
        · exact .inl (mem_append_left _ (mem_append_left _ front))
        · rcases mem_append.mp queued with out | stayed
          · exact .inr (mem_append_right _ out)
          · exact .inl (mem_append_left _
              (mem_append_right _ (mem_append_left _ stayed)))
      · exact .inl (mem_append_right _ inBack)
    · exact .inr (mem_append_left _ evicted)
  · intro _
    exact .inl (mem_append_left _ (mem_append_right _
      (mem_append_right _ (mem_singleton.mpr rfl))))
  · intro _ none
    rw [none call member] at saw
    cases saw
  · exact fun event inChannel => .inl inChannel

theorem EventSafe.pushQueue (saw : call.sawPaused = true) :
    ((session.withoutCall call).pushQueue call.event).EventSafe := by
  rcases pushQueue_cases (session.withoutCall call) call.event with
    dropped | ⟨popped, kept, queueBytes, split, pushed⟩
  · rw [dropped]
    apply safe.finishCall member
    · exact ⟨rfl, rfl, rfl, rfl, rfl, rfl⟩
    · exact safe.ordered
    · exact fun event inLine => .inl inLine
    · rintro event (inLine | evicted)
      · exact .inl inLine
      · exact .inr (mem_append_left _ evicted)
    · exact fun _ => .inr (mem_append_right _ (mem_singleton.mpr rfl))
    · exact fun empty _ => empty
    · exact fun event inChannel => .inl inChannel
  · rw [pushed]
    exact safe.finishQueued notGone member saw split queueBytes

theorem EventSafe.trySend (unpaused : call.sawPaused = false)
    (room : call.event ∈ session.window → session.channel.length < sessionOutputQueueCapacity) :
    ((session.withoutCall call).trySend call.event).EventSafe := by
  cases before : session.phase.beforeTakeOver with
  | true =>
    -- the channel nobody reads any more is not part of the line
    have outside := safe.not_window member before unpaused
    simp only [Session.trySend]
    split
    · apply safe.finishUnsent member outside _ fun event => mem_concat
      simp [line, lineFront, lineBack, before]
    · exact safe.finishUnsent member outside session.channel (fun _ held => .inl held) rfl
  | false =>
    by_cases fits : session.channel.length < sessionOutputQueueCapacity
    · have alive : (session.withoutCall call).receiverAlive = true :=
        receiverAlive_of_takenOver before notGone
      simp only [Session.trySend, alive, fits, decide_true, Bool.and_self, if_true]
      exact safe.finishSent member before
    · have outside : call.event ∉ session.window := fun inWindow => fits (room inWindow)
      simp only [Session.trySend, fits, decide_false, Bool.and_false, Bool.false_eq_true,
        if_false]
      exact safe.finishUnsent member outside session.channel (fun _ held => .inl held) rfl

theorem EventSafe.enqueue (room : call.sawPaused = false → call.event ∈ session.window →
      session.channel.length < sessionOutputQueueCapacity) :
    (session.enqueue call).EventSafe := by
  unfold Session.enqueue
  cases saw : call.sawPaused with
  | true =>
    rw [if_pos rfl]
    exact safe.pushQueue notGone member saw
  | false =>
    rw [if_neg Bool.false_ne_true]
    exact safe.trySend notGone member saw (room saw)

end

end Session

end KizunaLink.Server
