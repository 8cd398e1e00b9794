import KizunaLink.Engine.Timescale
import KizunaLink.Lib.System
import KizunaLink.Voice.SpeakLoop

/-!
# Timescale frames in a tick

Model of `VoiceSession::tick` (discord/gateway/session/voice.rs) with the contents of the
timescale queue, pass by pass.  A pass is told which locks it gets, what the mixer gives,
what the filters that work in place make of it, and which sends succeed; whenever the
filter chain is locked it may have been replaced.  Statistics are left out.

`removed` are the frames that `fill_frame` has taken from the queue, `sent` those that went
to `send_pcm`.  The first `fill_frame` of a pass is followed by a send.  The second one, in
a pass without input, fills the same buffer, and nothing sends it.
-/

set_option autoImplicit false

namespace KizunaLink.Voice

open KizunaLink.Lib List
open KizunaLink.Engine (FilterChain)

def frameSamples : Nat := 1920

/-! ## One pass -/

/-- `try_lock_yield!` on the filter chain, and whether the chain is another one by then. -/
inductive ChainLock where
  | busy
  | locked (replaced : Option FilterChain)

inductive MixerFrame where
  | busy
  | opusFrame
  | mixed (hasInput : Bool) (pcm : List Int)

structure PassAnswers where
  firstLock : ChainLock
  mixer : MixerFrame
  inPlace : List Int → List Int
  processLock : ChainLock
  secondLock : ChainLock
  keepaliveDue : Bool
  silenceSent : Bool
  frameSent : Bool

/-- Between ticks, in a pass with some passes left after it, or after an error. -/
inductive TickPhase where
  | idle
  | looping (remaining : Nat)
  | ended
  deriving DecidableEq, Repr

structure VoiceTick where
  session : VoiceSession
  chain : FilterChain
  removed : List (List Int) := []
  sent : List (List Int) := []
  phase : TickPhase := .idle

namespace VoiceTick

variable (tick : VoiceTick) (answers : PassAnswers)

def fillUnder (lock : ChainLock) : VoiceTick × Option (List Int) :=
  match lock with
  | .busy => (tick, none)
  | .locked replaced =>
    let chain := replaced.getD tick.chain
    match chain.fillFrame frameSamples with
    | some (frame, chain) => ({ tick with chain, removed := tick.removed ++ [frame] }, some frame)
    | none => ({ tick with chain }, none)

def returns (sent : Bool) : VoiceTick := { tick with phase := if sent then .idle else .ended }

/-- The silence before the first frame after a speaking change failed. -/
def silenceFails : Bool := tick.session.speakingHoldoff && !answers.silenceSent

def endHoldoff : VoiceTick :=
  { tick with session := { tick.session with speakingHoldoff := false } }

def sendReady (frame : List Int) : VoiceTick :=
  let tick := { tick with session := tick.session.setSpeaking true }
  if tick.silenceFails answers then tick.endHoldoff.returns false
  else { tick.endHoldoff with sent := tick.sent ++ [frame] }.returns answers.frameSent

def sendOther : VoiceTick :=
  if tick.silenceFails answers then tick.endHoldoff.returns false
  else tick.endHoldoff.returns answers.frameSent

/-- A pass is over, or it is at its second `fill_frame`. -/
inductive Stage where
  | done (tick : VoiceTick)
  | refill (tick : VoiceTick) (hasInput : Bool)

/-- The filters, and the send if there is no timescale. -/
def processStage (hasInput : Bool) (pcm : List Int) : Stage :=
  match answers.processLock with
  | .busy => .done (tick.sendOther answers)
  | .locked replaced =>
    match (replaced.getD tick.chain).process (answers.inPlace pcm) with
    | .error _ => .done (tick.returns false)
    | .ok chain =>
      let tick := { tick with chain }
      if chain.hasTimescale then .refill tick hasInput else .done (tick.sendOther answers)

/-- The mixer had nothing: some frames of silence follow, then nothing or a keepalive. -/
def silentStage : Stage :=
  if 0 < tick.session.activeSilence then
    let session := { tick.session with activeSilence := tick.session.activeSilence - 1 }
    { tick with session := session.setSpeaking true }.processStage answers false
      (List.replicate frameSamples 0)
  else
    let tick := { tick with session := tick.session.setSpeaking false }
    .done (tick.returns (!answers.keepaliveDue || answers.silenceSent))

def mixerStage : Stage :=
  let speaking := { tick with session := tick.session.resetTimers.setSpeaking true }
  match answers.mixer with
  | .opusFrame => .done (speaking.sendOther answers)
  | .mixed true pcm => speaking.processStage answers true pcm
  | .mixed false _ => tick.silentStage answers
  | .busy => tick.silentStage answers

/-- A pass up to its second `fill_frame`. -/
def firstStage : Stage :=
  match tick.fillUnder answers.firstLock with
  | (tick, some frame) => .done (tick.sendReady answers frame)
  | (tick, none) => tick.mixerStage answers

def goOn (remaining : Nat) : VoiceTick :=
  { tick with
    phase :=
      match remaining with
      | 0 => .idle
      | remaining + 1 => .looping remaining }

def relock (lock : ChainLock) : VoiceTick :=
  match lock with
  | .busy => tick
  | .locked replaced => { tick with chain := replaced.getD tick.chain }

/-- The second `fill_frame`: without input and without a frame the loop is left. -/
def refill (hasInput : Bool) (remaining : Nat) : VoiceTick :=
  if hasInput then (tick.relock answers.secondLock).goOn remaining
  else
    match tick.fillUnder answers.secondLock with
    | (tick, some _) => tick.goOn remaining
    | (tick, none) => tick.returns true

def pass (remaining : Nat) : VoiceTick :=
  match tick.firstStage answers with
  | .done tick => tick
  | .refill tick hasInput => tick.refill answers hasInput remaining

end VoiceTick

inductive TickAct where
  | begin (canSendMedia timedOut : Bool)
  | pass (answers : PassAnswers)

def tickSystem : System VoiceTick TickAct where
  step tick act :=
    match tick.phase, act with
    | .idle, .begin canSendMedia timedOut =>
      if canSendMedia then some { tick with phase := .looping 9 }
      else some (tick.returns (!timedOut))
    | .looping remaining, .pass answers => some (tick.pass answers remaining)
    | _, _ => none

/-! ## What a pass does with the frames -/

namespace VoiceTick

variable {tick next after : VoiceTick} {answers : PassAnswers} {frame : List Int}

def log (tick : VoiceTick) : List (List Int) × List (List Int) := (tick.removed, tick.sent)

theorem log_sendOther : (tick.sendOther answers).log = tick.log := by
  rw [sendOther]
  split <;> rfl

theorem log_relock (lock : ChainLock) : (tick.relock lock).log = tick.log := by
  cases lock <;> rfl

def Stage.current : Stage → VoiceTick
  | .done current => current
  | .refill current _ => current

theorem log_processStage (hasInput : Bool) (pcm : List Int) :
    (tick.processStage answers hasInput pcm).current.log = tick.log := by
  rw [processStage]
  split
  · exact log_sendOther
  · split
    · rfl
    · dsimp only
      split
      · rfl
      · exact log_sendOther

theorem log_silentStage : (tick.silentStage answers).current.log = tick.log := by
  rw [silentStage]
  split
  · exact log_processStage _ _
  · rfl

theorem log_mixerStage : (tick.mixerStage answers).current.log = tick.log := by
  rw [mixerStage]
  split
  · exact log_sendOther
  · exact log_processStage _ _
  · exact log_silentStage
  · exact log_silentStage

theorem fillUnder_none {lock : ChainLock} (nothing : tick.fillUnder lock = (after, none)) :
    after.log = tick.log := by
  cases lock with
  | busy =>
    cases nothing
    rfl
  | locked replaced =>
    simp only [fillUnder] at nothing
    split at nothing <;> cases nothing
    rfl

theorem fillUnder_some {lock : ChainLock} (filled : tick.fillUnder lock = (after, some frame)) :
    after.log = (tick.removed ++ [frame], tick.sent) ∧ after.session = tick.session := by
  cases lock with
  | busy => cases filled
  | locked replaced =>
    simp only [fillUnder] at filled
    split at filled <;> cases filled
    exact ⟨rfl, rfl⟩

/-- A frame is taken and the silence before it fails. -/
def FailsBefore (tick : VoiceTick) (answers : PassAnswers) : Prop :=
  ∃ after frame, tick.fillUnder answers.firstLock = (after, some frame) ∧
    { after with session := after.session.setSpeaking true }.silenceFails answers = true

/-- A pass without input finds a whole frame at its second `fill_frame`. -/
def DrainsOnSilence (tick : VoiceTick) (answers : PassAnswers) : Prop :=
  ∃ middle after frame, tick.firstStage answers = .refill middle false ∧
    middle.fillUnder answers.secondLock = (after, some frame)

def Loses (tick : VoiceTick) (answers : PassAnswers) : Prop :=
  tick.FailsBefore answers ∨ tick.DrainsOnSilence answers

/-- A pass takes no frame, takes one and sends it, or takes one and loses it. -/
inductive Passed (tick : VoiceTick) (answers : PassAnswers) (next : VoiceTick) : Prop where
  | quiet (keeps : ¬ tick.Loses answers) (log : next.log = tick.log)
  | sends (keeps : ¬ tick.Loses answers) (frame : List Int)
      (log : next.log = (tick.removed ++ [frame], tick.sent ++ [frame]))
  | loses (lost : tick.Loses answers) (frame : List Int)
      (log : next.log = (tick.removed ++ [frame], tick.sent))

theorem log_sendReady : (tick.sendReady answers frame).log =
    if { tick with session := tick.session.setSpeaking true }.silenceFails answers then tick.log
    else (tick.removed, tick.sent ++ [frame]) := by
  rw [sendReady]
  dsimp only
  split <;> rfl

theorem passed_ready (filled : tick.fillUnder answers.firstLock = (after, some frame)) :
    Passed tick answers (after.sendReady answers frame) := by
  have stage : tick.firstStage answers = .done (after.sendReady answers frame) := by
    rw [firstStage, filled]
  obtain ⟨log, _⟩ := fillUnder_some filled
  have sending := @log_sendReady after answers frame
  by_cases fails : { after with session := after.session.setSpeaking true }.silenceFails answers
  · rw [if_pos fails] at sending
    exact .loses (.inl ⟨after, frame, filled, fails⟩) frame (sending.trans log)
  · rw [if_neg fails] at sending
    obtain ⟨removed, sent⟩ := Prod.mk.inj log
    refine .sends ?_ frame (by rw [sending, removed, sent])
    rintro (⟨other, taken, again, failed⟩ | ⟨middle, other, taken, refills, _⟩)
    · cases filled.symm.trans again
      exact fails failed
    · cases stage.symm.trans refills

/-- The first `fill_frame` had none, so only the second one can lose a frame. -/
theorem loses_iff (nothing : tick.fillUnder answers.firstLock = (after, none)) :
    tick.Loses answers ↔ tick.DrainsOnSilence answers := by
  refine ⟨fun loses => loses.resolve_left ?_, .inr⟩
  rintro ⟨other, frame, filled, _⟩
  cases nothing.symm.trans filled

theorem pass_passed (remaining : Nat) : Passed tick answers (tick.pass answers remaining) := by
  rw [pass]
  cases filled : tick.fillUnder answers.firstLock with
  | mk middle found =>
    cases found with
    | some frame =>
      rw [firstStage, filled]
      exact passed_ready filled
    | none =>
      have stage : tick.firstStage answers = middle.mixerStage answers := by
        rw [firstStage, filled]
      have log := (@log_mixerStage middle answers).trans (fillUnder_none filled)
      rw [stage]
      cases reached : middle.mixerStage answers with
      | done ended =>
        rw [reached] at stage log
        refine .quiet (mt (loses_iff filled).mp ?_) log
        rintro ⟨other, _, _, refills, _⟩
        cases stage.symm.trans refills
      | refill waiting hasInput =>
        rw [reached] at stage log
        dsimp only
        rw [refill]
        cases hasInput with
        | true =>
          refine .quiet (mt (loses_iff filled).mp ?_) ((log_relock _).trans log)
          rintro ⟨other, _, _, refills, _⟩
          cases stage.symm.trans refills
        | false =>
          rw [if_neg Bool.false_ne_true]
          cases refilled : waiting.fillUnder answers.secondLock with
          | mk after found =>
            cases found with
            | none =>
              refine .quiet (mt (loses_iff filled).mp ?_) ((fillUnder_none refilled).trans log)
              rintro ⟨other, last, frame, refills, again⟩
              cases stage.symm.trans refills
              cases refilled.symm.trans again
            | some frame =>
              obtain ⟨removed, sent⟩ := Prod.mk.inj log
              refine .loses (.inr ⟨waiting, after, frame, stage, refilled⟩) frame ?_
              rw [← removed, ← sent]
              exact (fillUnder_some refilled).1

end VoiceTick

def KeepsFrames (tick : VoiceTick) : TickAct → Prop
  | .begin _ _ => True
  | .pass answers => ¬ tick.Loses answers

section Runs

variable {tick next : VoiceTick} {act : TickAct}

theorem step_log (stepped : tickSystem.step tick act = some next) :
    (next.log = tick.log ∧ KeepsFrames tick act) ∨
      (∃ frame, next.log = (tick.removed ++ [frame], tick.sent ++ [frame]) ∧
        KeepsFrames tick act) ∨
      ∃ frame, next.log = (tick.removed ++ [frame], tick.sent) ∧ ¬ KeepsFrames tick act := by
  cases act with
  | begin canSendMedia timedOut =>
    left
    refine ⟨?_, trivial⟩
    cases phase : tick.phase with
    | idle =>
      simp only [tickSystem, phase] at stepped
      split at stepped <;> cases stepped <;> rfl
    | looping _ | ended => simp [tickSystem, phase] at stepped
  | pass answers =>
    cases phase : tick.phase with
    | idle | ended => simp [tickSystem, phase] at stepped
    | looping remaining =>
      simp only [tickSystem, phase, Option.some.injEq] at stepped
      subst stepped
      cases @VoiceTick.pass_passed tick answers remaining with
      | quiet keeps log => exact .inl ⟨log, keeps⟩
      | sends keeps frame log => exact .inr (.inl ⟨frame, log, keeps⟩)
      | loses lost frame log => exact .inr (.inr ⟨frame, log, not_not_intro lost⟩)

theorem sent_eq_step (same : tick.sent = tick.removed) (keeps : KeepsFrames tick act)
    (stepped : tickSystem.step tick act = some next) : next.sent = next.removed := by
  rcases step_log stepped with ⟨log, _⟩ | ⟨frame, log, _⟩ | ⟨frame, _, lost⟩
  · obtain ⟨removed, sent⟩ := Prod.mk.inj log
    rw [removed, sent, same]
  · obtain ⟨removed, sent⟩ := Prod.mk.inj log
    rw [removed, sent, same]
  · exact absurd keeps lost

theorem sent_length_step (fewer : tick.sent.length ≤ tick.removed.length)
    (stepped : tickSystem.step tick act = some next) :
    next.sent.length ≤ next.removed.length ∧
      (tick.sent.length < tick.removed.length ∨ ¬ KeepsFrames tick act →
        next.sent.length < next.removed.length) := by
  rcases step_log stepped with ⟨log, keeps⟩ | ⟨frame, log, keeps⟩ | ⟨frame, log, _⟩
  · obtain ⟨removed, sent⟩ := Prod.mk.inj log
    rw [removed, sent]
    exact ⟨fewer, fun lost => lost.resolve_right (not_not_intro keeps)⟩
  · obtain ⟨removed, sent⟩ := Prod.mk.inj log
    rw [removed, sent, length_append, length_append]
    refine ⟨Nat.add_le_add_right fewer _, fun lost => ?_⟩
    exact Nat.add_lt_add_right (lost.resolve_right (not_not_intro keeps)) _
  · obtain ⟨removed, sent⟩ := Prod.mk.inj log
    rw [removed, sent, length_append, length_singleton]
    exact ⟨by omega, fun _ => by omega⟩

end Runs

/-- Over any ticks: the frames taken from the queue are sent, each once and in their order, exactly
if no pass takes a frame and then fails to send the silence before it, and no pass without input
finds a whole frame at its second `fill_frame`. -/
theorem frames_sent_iff (session : VoiceSession) (chain : FilterChain) (acts : List TickAct)
    (final : VoiceTick) (reached : tickSystem.run { session, chain } acts = some final) :
    final.sent = final.removed ↔ tickSystem.Meets KeepsFrames { session, chain } acts := by
  constructor
  · intro same
    by_contra missed
    have start : ({ session, chain } : VoiceTick).sent.length ≤
        ({ session, chain } : VoiceTick).removed.length := Nat.le_refl 0
    have fewer : final.sent.length < final.removed.length :=
      tickSystem.run_of_not_meets_of_invariant KeepsFrames
        (fun tick => tick.sent.length ≤ tick.removed.length)
        (fun tick => tick.sent.length < tick.removed.length)
        (fun fewer stepped => (sent_length_step fewer stepped).1)
        (fun fewer lost stepped => (sent_length_step fewer stepped).2 (.inr lost))
        (fun fewer marked stepped => (sent_length_step fewer stepped).2 (.inl marked))
        acts start missed reached
    rw [same] at fewer
    exact Nat.lt_irrefl _ fewer
  · intro meets
    exact tickSystem.run_invariant KeepsFrames (fun tick => tick.sent = tick.removed)
      (fun same keeps stepped => sent_eq_step same keeps stepped) acts rfl meets reached

def fadingSession : VoiceSession where
  transport :=
    { address := ⟨.v4 ⟨127, 0, 0, 1⟩, 4000⟩
      ssrc := 1
      crypto := .aes256Gcm (Vector.replicate 32 0)
      rtp := ⟨0, 0, 0⟩ }
  isSpeaking := true
  activeSilence := 1

/-- The locks are free, the mixer has nothing, and every send succeeds. -/
def silentAnswers : PassAnswers where
  firstLock := .locked none
  mixer := .mixed false []
  inPlace := id
  processLock := .locked none
  secondLock := .locked none
  keepaliveDue := false
  silenceSent := true
  frameSent := true

def fastChain (queued : Nat) : FilterChain where
  timescale := some (.new 5 5 5)
  timescaleBuffer := List.replicate queued 7

/-- A queue of a whole frame: the tick sends it. -/
theorem whole_frame_sent :
    ∃ final, tickSystem.run { session := fadingSession, chain := fastChain 1920 }
        [.begin true false, .pass silentAnswers] = some final ∧
      final.removed = [List.replicate 1920 7] ∧ final.sent = final.removed ∧
      tickSystem.Meets KeepsFrames { session := fadingSession, chain := fastChain 1920 }
        [.begin true false, .pass silentAnswers] := by
  refine ⟨_, rfl, by decide +kernel, by decide +kernel, ?_⟩
  exact (frames_sent_iff fadingSession (fastChain 1920) _ _ rfl).mp (by decide +kernel)

/-- The silence after the last input completes a frame at the second `fill_frame` of a pass; the
next pass has nothing more to say and the tick ends, with every lock taken and every send done. -/
theorem frame_of_silence_lost :
    ∃ final, tickSystem.run { session := fadingSession, chain := fastChain 1910 }
        [.begin true false, .pass silentAnswers, .pass silentAnswers] = some final ∧
      final.phase = .idle ∧ final.removed.length = 1 ∧ final.sent = [] := by
  have run : (tickSystem.run { session := fadingSession, chain := fastChain 1910 }
      [.begin true false, .pass silentAnswers, .pass silentAnswers]).map
        (fun final => (final.phase, final.removed.length, final.sent)) = some (.idle, 1, []) := by
    decide +kernel
  obtain ⟨final, reached, found⟩ := Option.map_eq_some_iff.mp run
  obtain ⟨phase, both⟩ := Prod.mk.inj found
  exact ⟨final, reached, phase, Prod.mk.inj both⟩

end KizunaLink.Voice
