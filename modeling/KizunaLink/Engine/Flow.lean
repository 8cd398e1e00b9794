import KizunaLink.Engine.Mixer
import KizunaLink.Lib.Blocks

/-!
# Frames from chunks

Model of `FlowController::try_pop_frame` (engine/flow/controller.rs) at the receiving
end of the channel of a decoder.  The steps are the sends and one turn of the loop that
receives, so that sends may come between any two turns of a call.

The flush marker of a seek is taken from the channel when less than a frame is pending.
So what is emitted depends on the samples between two markers and not on how they were
sent: the complete blocks of each section, in order.  What is left of a section is
cleared by the marker behind it, or stays behind when the channel ends.
-/

set_option autoImplicit false

namespace KizunaLink.Engine

open KizunaLink.Lib List Option

inductive PopResult where
  | frame (samples : List Nat)
  | empty
  | decoderFinished
  deriving DecidableEq, Repr

/-- `emitted` are the frames given to the effects and `sent` is the stream of the decoder;
`received` are the samples taken from the channel since the last flush marker, and
`taken` those of them that were emitted. -/
structure Flow where
  controller : FlowController := {}
  channel : List AudioFrame := []
  senderAlive : Bool := true
  popping : Bool := false
  lastPop : Option PopResult := none
  sent : List AudioFrame := []
  emitted : List (List Nat) := []
  received : List Nat := []
  taken : List Nat := []
  deriving DecidableEq, Repr

namespace Flow

variable (flow : Flow)

def send (frame : AudioFrame) : Flow :=
  { flow with channel := flow.channel ++ [frame], sent := flow.sent ++ [frame] }

def receive (frame : AudioFrame) (rest : List AudioFrame) : Flow :=
  { flow with
    controller := flow.controller.receive frame
    channel := rest
    received := receivePcm flow.received frame
    taken := if frame = .pcm [] then [] else flow.taken }

def answer (result : PopResult) : Flow :=
  { flow with popping := false, lastPop := some result }

def popFrame : Flow :=
  let frame := flow.controller.pendingPcm.take frameSize
  { flow.answer (.frame frame) with
    controller :=
      { flow.controller with pendingPcm := flow.controller.pendingPcm.drop frameSize }
    emitted := flow.emitted ++ [frame]
    taken := flow.taken ++ frame }

/-- One turn of the loop of `try_pop_frame`, or what follows it. -/
def turn : Flow :=
  if flow.controller.decoderDone = false ∧ flow.controller.pendingPcm.length < frameSize then
    match flow.channel with
    | frame :: rest => flow.receive frame rest
    | [] =>
      if flow.senderAlive then flow.answer .empty
      else
        { flow.answer .decoderFinished with
          controller := { flow.controller with decoderDone := true } }
  else if frameSize ≤ flow.controller.pendingPcm.length then flow.popFrame
  else flow.answer .decoderFinished

end Flow

inductive FlowAct where
  | send (frame : AudioFrame)
  | dropSender
  | tryPopFrame
  | turn
  deriving DecidableEq, Repr

def Flow.step (flow : Flow) : FlowAct → Option Flow
  | .send frame => if flow.senderAlive then some (flow.send frame) else none
  | .dropSender => some { flow with senderAlive := false }
  | .tryPopFrame =>
    if flow.popping then none else some { flow with popping := true, lastPop := none }
  | .turn => if flow.popping then some flow.turn else none

def flowSystem : System Flow FlowAct := ⟨Flow.step⟩

/-- Samples in front of the first section. -/
def joinSection (samples : List Nat) : List (List Nat) → List (List Nat)
  | [] => [samples]
  | first :: rest => (samples ++ first) :: rest

/-- The samples between flush markers; the last section is the one since the last marker. -/
def sections : List AudioFrame → List (List Nat)
  | [] => [[]]
  | .pcm samples :: rest =>
    if samples.isEmpty then [] :: sections rest else joinSection samples (sections rest)
  | .opus _ :: rest => sections rest

/-- The complete blocks of all sections, when the first one has begun already. -/
def blocksFrom (pending : List Nat) (frames : List AudioFrame) : List (List Nat) :=
  (joinSection pending (sections frames)).flatMap (blocks frameSize)

theorem joinSection_joinSection (front back : List Nat) (rest : List (List Nat)) :
    joinSection front (joinSection back rest) = joinSection (front ++ back) rest := by
  cases rest with
  | nil => rfl
  | cons first others => rw [joinSection, joinSection, joinSection, append_assoc]

theorem joinSection_nil (frames : List AudioFrame) :
    joinSection [] (sections frames) = sections frames := by
  induction frames with
  | nil => rfl
  | cons frame rest ih =>
    cases frame with
    | opus packet => exact ih
    | pcm samples =>
      simp only [sections]
      split
      · rfl
      · rw [joinSection_joinSection, nil_append]

theorem sections_ne_nil (frames : List AudioFrame) : sections frames ≠ [] := by
  rw [← joinSection_nil]
  cases sections frames with
  | nil | cons _ _ => exact cons_ne_nil _ _

/-- The last section is what a receiver has that never pops. -/
theorem getLast_sections (frames : List AudioFrame) (pending : List Nat) :
    (joinSection pending (sections frames)).getLast? = some (frames.foldl receivePcm pending) := by
  induction frames generalizing pending with
  | nil => simp [sections, joinSection]
  | cons frame rest ih =>
    cases frame with
    | opus packet => exact ih pending
    | pcm samples =>
      simp only [sections, foldl_cons, receivePcm]
      split
      · rw [joinSection, append_nil, List.getLast?_cons_of_ne_nil (sections_ne_nil rest),
          ← joinSection_nil]
        exact ih []
      · rw [joinSection_joinSection]
        exact ih (pending ++ samples)

theorem blocksFrom_receive {pending : List Nat} (short : pending.length < frameSize)
    (frame : AudioFrame) (later : List AudioFrame) :
    blocksFrom pending (frame :: later) = blocksFrom (receivePcm pending frame) later := by
  cases frame with
  | opus packet => rfl
  | pcm samples =>
    simp only [blocksFrom, sections, receivePcm]
    split
    · -- the pending samples are lost with the marker
      rw [joinSection, append_nil, flatMap_cons, blocks_of_lt short, nil_append, joinSection_nil]
    · rw [joinSection_joinSection]

theorem blocksFrom_popFrame {pending : List Nat} (whole : frameSize ≤ pending.length)
    (later : List AudioFrame) :
    blocksFrom pending later =
      pending.take frameSize :: blocksFrom (pending.drop frameSize) later := by
  have positive : 0 < frameSize := by decide
  have first (more : List Nat) : blocks frameSize (pending ++ more) =
      pending.take frameSize :: blocks frameSize (pending.drop frameSize ++ more) := by
    have wholeAll : frameSize ≤ (pending ++ more).length := by
      rw [length_append]
      omega
    rw [blocks_step positive wholeAll, take_append_of_le_length whole,
      drop_append_of_le_length whole]
  rw [blocksFrom, blocksFrom]
  cases sections later with
  | nil =>
    have whole' := first []
    rw [append_nil, append_nil] at whole'
    rw [joinSection, joinSection, flatMap_cons, flatMap_cons, whole', cons_append]
  | cons next others =>
    rw [joinSection, joinSection, flatMap_cons, flatMap_cons, first, cons_append]

/-! ## What is emitted -/

namespace Flow

variable {flow next : Flow} {act : FlowAct}

/-- Everything received has been emitted or is pending, or was cleared by a marker; whatever
is sent later, its blocks come behind those emitted so far. -/
structure Accounted (flow : Flow) : Prop where
  stream : ∃ consumed, flow.sent = consumed ++ flow.channel ∧
    flow.received = consumed.foldl receivePcm [] ∧
    ∀ later, blocksFrom [] (consumed ++ later) =
      flow.emitted ++ blocksFrom flow.controller.pendingPcm later
  since : flow.received = flow.taken ++ flow.controller.pendingPcm
  frames : frameSize ∣ flow.taken.length
  latest : flow.taken <:+ flow.emitted.flatten
  done : flow.controller.decoderDone = true → flow.senderAlive = false ∧ flow.channel = []
  finished : flow.lastPop = some .decoderFinished →
    flow.controller.decoderDone = true ∧ flow.controller.pendingPcm.length < frameSize
  unanswered : flow.popping = true → flow.lastPop = none

def Drained (flow : Flow) : Prop :=
  flow.channel = [] ∧ flow.controller.pendingPcm.length < frameSize

instance (flow : Flow) : Decidable flow.Drained := inferInstanceAs (Decidable (_ ∧ _))

theorem new_accounted : Accounted {} where
  stream := ⟨[], rfl, rfl, fun _ => rfl⟩
  since := rfl
  frames := Nat.dvd_zero frameSize
  latest := suffix_rfl
  done := fun done => by cases done
  finished := fun finished => by cases finished
  unanswered := fun _ => rfl

theorem pendingPcm_receive (controller : FlowController) (frame : AudioFrame) :
    (controller.receive frame).pendingPcm = receivePcm controller.pendingPcm frame := by
  cases frame <;> rfl

theorem decoderDone_receive {controller : FlowController}
    (running : controller.decoderDone = false) (frame : AudioFrame) :
    (controller.receive frame).decoderDone = false := by
  cases frame with
  | opus packet => exact running
  | pcm samples =>
    simp only [FlowController.receive]
    split
    · rfl
    · exact running

section

variable (accounted : flow.Accounted)
include accounted

theorem Accounted.receive
    (running : flow.controller.decoderDone = false)
    (short : flow.controller.pendingPcm.length < frameSize) (popping : flow.popping = true)
    {frame : AudioFrame} {rest : List AudioFrame} (waits : flow.channel = frame :: rest) :
    (flow.receive frame rest).Accounted := by
  obtain ⟨consumed, sent, received, blocks⟩ := accounted.stream
  have unanswered := accounted.unanswered popping
  refine ⟨⟨consumed ++ [frame], ?_, ?_, ?_⟩, ?_, ?_, ?_, ?_, ?_, fun _ => unanswered⟩
  · rw [waits] at sent
    rw [append_assoc, singleton_append]
    exact sent
  · rw [foldl_append, ← received]
    rfl
  · intro later
    rw [append_assoc, singleton_append, blocks, blocksFrom_receive short, Flow.receive,
      pendingPcm_receive]
  · simp only [Flow.receive, pendingPcm_receive]
    cases frame with
    | opus packet => exact accounted.since
    | pcm samples =>
      cases samples with
      | nil => rfl
      | cons sample samples =>
        simp only [receivePcm, isEmpty_cons, Bool.false_eq_true, if_false, AudioFrame.pcm.injEq,
          reduceCtorEq]
        rw [accounted.since, append_assoc]
  · simp only [Flow.receive]
    split
    · exact Nat.dvd_zero frameSize
    · exact accounted.frames
  · simp only [Flow.receive]
    split
    · exact nil_suffix
    · exact accounted.latest
  · intro done
    rw [Flow.receive, decoderDone_receive running] at done
    cases done
  · intro finished
    rw [Flow.receive, unanswered] at finished
    cases finished

theorem Accounted.popFrame
    (whole : frameSize ≤ flow.controller.pendingPcm.length) : flow.popFrame.Accounted := by
  obtain ⟨consumed, sent, received, blocks⟩ := accounted.stream
  refine ⟨⟨consumed, sent, received, ?_⟩, ?_, ?_, ?_, accounted.done, ?_,
    fun popping => by cases popping⟩
  · intro later
    rw [blocks, blocksFrom_popFrame whole]
    exact (append_assoc flow.emitted [_] _).symm
  · simp only [Flow.popFrame]
    rw [append_assoc, take_append_drop]
    exact accounted.since
  · simp only [Flow.popFrame, length_append, length_take_of_le whole]
    exact Nat.dvd_add accounted.frames (Nat.dvd_refl frameSize)
  · obtain ⟨earlier, emitted⟩ := accounted.latest
    refine ⟨earlier, ?_⟩
    simp only [Flow.popFrame, flatten_append, flatten_singleton]
    rw [← emitted, append_assoc]
  · intro finished
    cases finished

theorem Accounted.turn (popping : flow.popping = true) : flow.turn.Accounted := by
  have stillPopping : ∀ result, (flow.answer result).popping = true →
      (flow.answer result).lastPop = none := fun _ popping => by cases popping
  simp only [Flow.turn]
  split
  · rename_i receiving
    obtain ⟨running, short⟩ := receiving
    split
    · rename_i frame rest waits
      exact accounted.receive running short popping waits
    · rename_i empty
      split
      · exact { accounted with
          finished := fun finished => (by cases finished)
          unanswered := stillPopping _ }
      · rename_i gone
        exact { accounted with
          done := fun _ => ⟨Bool.eq_false_iff.mpr gone, empty⟩
          finished := fun _ => ⟨rfl, short⟩
          unanswered := stillPopping _ }
  · rename_i notReceiving
    split
    · rename_i whole
      exact accounted.popFrame whole
    · rename_i short
      have few : flow.controller.pendingPcm.length < frameSize := Nat.lt_of_not_le short
      have done : flow.controller.decoderDone = true :=
        Bool.not_eq_false _ ▸ fun running => notReceiving ⟨running, few⟩
      exact { accounted with finished := fun _ => ⟨done, few⟩, unanswered := stillPopping _ }

theorem Accounted.send (alive : flow.senderAlive = true)
    (frame : AudioFrame) : (flow.send frame).Accounted := by
  obtain ⟨consumed, sent, received, blocks⟩ := accounted.stream
  refine { accounted with stream := ⟨consumed, ?_, received, blocks⟩, done := ?_ }
  · simp [Flow.send, sent]
  · intro done
    have gone := (accounted.done done).1
    rw [alive] at gone
    cases gone

theorem Accounted.step (stepped : flow.step act = some next) : next.Accounted := by
  cases act with
  | send frame =>
    obtain ⟨alive, rfl⟩ := ite_some_none_eq_some.mp stepped
    exact accounted.send alive frame
  | dropSender =>
    cases stepped
    exact { accounted with done := fun done => ⟨rfl, (accounted.done done).2⟩ }
  | tryPopFrame =>
    obtain ⟨-, ⟨⟩⟩ := ite_none_left_eq_some.mp stepped
    exact { accounted with
      finished := fun finished => (by cases finished)
      unanswered := fun _ => rfl }
  | turn =>
    obtain ⟨popping, rfl⟩ := ite_some_none_eq_some.mp stepped
    exact accounted.turn popping

end

theorem accounted_of_run {acts : List FlowAct} (reached : flowSystem.run {} acts = some flow) :
    flow.Accounted :=
  flowSystem.run_invariant_of_step Accounted (fun accounted => accounted.step)
    acts new_accounted reached

theorem Accounted.emitted_prefix (accounted : flow.Accounted) :
    flow.emitted <+: (sections flow.sent).flatMap (blocks frameSize) := by
  obtain ⟨consumed, sent, -, blocks⟩ := accounted.stream
  rw [sent, ← joinSection_nil]
  exact ⟨_, (blocks flow.channel).symm⟩

theorem Accounted.emitted_of_drained (accounted : flow.Accounted) (drained : flow.Drained) :
    flow.emitted = (sections flow.sent).flatMap (blocks frameSize) := by
  obtain ⟨consumed, sent, -, stream⟩ := accounted.stream
  have rest := stream []
  have none : blocksFrom flow.controller.pendingPcm [] = [] := by
    rw [blocksFrom, sections, joinSection, append_nil, flatMap_cons, blocks_of_lt drained.2]
    rfl
  rw [none, append_nil, append_nil, blocksFrom, joinSection_nil] at rest
  rw [sent, drained.1, append_nil]
  exact rest.symm

theorem Accounted.drained_of_turn (accounted : flow.Accounted) (popping : flow.popping = true)
    (noFrame : flow.turn.lastPop = some .empty ∨ flow.turn.lastPop = some .decoderFinished) :
    flow.turn.Drained := by
  have after := accounted.turn popping
  rcases noFrame with empty | finished
  · have unanswered := accounted.unanswered popping
    revert empty
    simp only [Flow.turn]
    split
    · rename_i receiving
      split
      · intro empty
        rw [Flow.receive, unanswered] at empty
        cases empty
      · rename_i nothing
        split
        · exact fun _ => ⟨nothing, receiving.2⟩
        · exact fun empty => by cases empty
    · split
      · exact fun empty => by cases empty
      · exact fun empty => by cases empty
  · obtain ⟨done, short⟩ := after.finished finished
    exact ⟨(after.done done).2, short⟩

end Flow

/-- Two streams with the same sections, however they are cut into chunks and whenever frames
are popped: what is emitted are the blocks of the sections, in order and up to some point,
and all of them once a call yields no frame. -/
theorem frames_independent_of_chunking (acts others : List FlowAct) (flow other : Flow)
    (reached : flowSystem.run {} acts = some flow)
    (otherReached : flowSystem.run {} others = some other)
    (same : sections flow.sent = sections other.sent) :
    flow.emitted <+: (sections flow.sent).flatMap (blocks frameSize) ∧
      (flow.emitted <+: other.emitted ∨ other.emitted <+: flow.emitted) ∧
      (flow.Drained → flow.emitted = (sections flow.sent).flatMap (blocks frameSize)) ∧
      (flow.Drained → other.Drained → flow.emitted = other.emitted) ∧
      ∀ next, flow.step .turn = some next →
        next.lastPop = some .empty ∨ next.lastPop = some .decoderFinished → next.Drained := by
  have accounted := Flow.accounted_of_run reached
  have otherAccounted := Flow.accounted_of_run otherReached
  have otherFirst := otherAccounted.emitted_prefix
  rw [← same] at otherFirst
  refine ⟨accounted.emitted_prefix, ?_, accounted.emitted_of_drained, ?_, ?_⟩
  · exact prefix_or_prefix_of_prefix accounted.emitted_prefix otherFirst
  · intro drained otherDrained
    rw [accounted.emitted_of_drained drained, same, otherAccounted.emitted_of_drained otherDrained]
  · intro next stepped noFrame
    obtain ⟨popping, rfl⟩ := ite_some_none_eq_some.mp stepped
    exact accounted.drained_of_turn popping noFrame

def inOneChunk : List FlowAct :=
  [.send (.pcm (List.replicate 1920 0)), .tryPopFrame, .turn, .turn]

def inTwoChunks : List FlowAct :=
  [.send (.pcm (List.replicate 1000 0)), .tryPopFrame, .turn,
    .send (.pcm (List.replicate 920 0)), .turn, .turn]

theorem one_frame_from_either :
    ∃ flow other, flowSystem.run {} inOneChunk = some flow ∧
      flowSystem.run {} inTwoChunks = some other ∧
      flow.emitted.length = 1 ∧ flow.emitted = other.emitted := by
  have first : (flowSystem.run {} inOneChunk).map (fun flow =>
      (sections flow.sent, decide flow.Drained, flow.emitted.length)) =
        some ([List.replicate 1920 0], true, 1) := by decide +kernel
  have second : (flowSystem.run {} inTwoChunks).map (fun flow =>
      (sections flow.sent, decide flow.Drained)) =
        some ([List.replicate 1920 0], true) := by decide +kernel
  obtain ⟨flow, reached, view⟩ := map_eq_some_iff.mp first
  obtain ⟨other, otherReached, otherView⟩ := map_eq_some_iff.mp second
  simp only [Prod.mk.injEq, decide_eq_true_eq] at view otherView
  have independent := frames_independent_of_chunking inOneChunk inTwoChunks flow other reached
    otherReached (view.1.trans otherView.1.symm)
  exact ⟨flow, other, reached, otherReached, view.2.2,
    independent.2.2.2.1 view.2.1 otherView.2⟩

/-- When the end of the decoder is reported, the samples since the last flush marker have all
been emitted exactly if they are a whole number of frames; otherwise the rest is lost. -/
theorem tail_emitted_iff_whole_frames (acts : List FlowAct) (flow : Flow)
    (reached : flowSystem.run {} acts = some flow)
    (finished : flow.lastPop = some .decoderFinished) :
    (sections flow.sent).getLast? = some flow.received ∧ flow.taken <:+ flow.emitted.flatten ∧
      flow.taken = flow.received.take (flow.received.length / frameSize * frameSize) ∧
      (flow.taken = flow.received ↔ frameSize ∣ flow.received.length) := by
  have accounted := Flow.accounted_of_run reached
  obtain ⟨consumed, sent, received, -⟩ := accounted.stream
  obtain ⟨done, short⟩ := accounted.finished finished
  have lengths := congrArg List.length accounted.since
  rw [length_append] at lengths
  obtain ⟨count, whole⟩ := accounted.frames
  have frames : flow.received.length / frameSize = count := by
    rw [lengths, whole]
    exact Nat.div_eq_of_lt_le (by rw [Nat.mul_comm]; omega)
      (by rw [Nat.succ_mul, Nat.mul_comm]; omega)
  refine ⟨?_, accounted.latest, ?_, ?_⟩
  · rw [sent, (accounted.done done).2, append_nil, received, ← joinSection_nil]
    exact getLast_sections consumed []
  · rw [frames, Nat.mul_comm, ← whole, accounted.since, take_left]
  · constructor
    · intro all
      rw [← all]
      exact accounted.frames
    · rintro ⟨size, divides⟩
      have none : flow.controller.pendingPcm = [] := by
        apply eq_nil_of_length_eq_zero
        rw [divides] at lengths frames
        rw [Nat.mul_div_cancel_left size (by decide)] at frames
        rw [frames] at lengths
        omega
      rw [accounted.since, none, append_nil]

def wholeFrame : List FlowAct :=
  [.send (.pcm (List.replicate 1920 0)), .dropSender, .tryPopFrame, .turn, .turn, .tryPopFrame,
    .turn]

theorem whole_frame_emitted :
    ∃ flow, flowSystem.run {} wholeFrame = some flow ∧
      flow.lastPop = some .decoderFinished ∧ flow.taken = flow.received := by
  have outcome : (flowSystem.run {} wholeFrame).map (fun flow =>
      (flow.lastPop, flow.received.length)) = some (some .decoderFinished, 1920) := by
    decide +kernel
  obtain ⟨flow, reached, view⟩ := map_eq_some_iff.mp outcome
  simp only [Prod.mk.injEq] at view
  have iff := (tail_emitted_iff_whole_frames wholeFrame flow reached view.1).2.2.2
  exact ⟨flow, reached, view.1, iff.mpr (by rw [view.2]; decide)⟩

def oneSample : List FlowAct :=
  [.send (.pcm [7]), .dropSender, .tryPopFrame, .turn, .turn]

theorem one_sample_lost :
    (flowSystem.run {} oneSample).map (fun flow =>
      (flow.lastPop, flow.received, flow.emitted)) = some (some .decoderFinished, [7], []) := by
  decide

end KizunaLink.Engine
