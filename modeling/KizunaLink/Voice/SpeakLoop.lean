import KizunaLink.Lib.Result
import KizunaLink.Voice.Transport

/-!
# The speak loop

Model of `speak_loop` in discord/gateway/session/voice.rs as a task whose steps
are the sections between its await points.  What the mixer, the filters, the
encoder, the clock, the DAVE handler and the socket answer is the step's input.

A tick decides at once which packets it will send; before each of them the loop
waits for the DAVE lock, and after each for the socket.  The counters of the
transport reach the persistent state only through `saving` and `finalSaving`.
-/

set_option autoImplicit false

namespace KizunaLink.Voice

open KizunaLink.Lib

structure PersistentSessionState where
  ssrc : UInt32 := 0
  udpAddr : Option SocketAddr := none
  sessionKey : Option Key := none
  rtpState : Option RtpState := none
  selectedMode : Option String := none
  deriving DecidableEq, Repr

structure SpeakConfig where
  addr : SocketAddr
  ssrc : UInt32
  key : Key
  mode : String
  deriving DecidableEq, Repr

def maxSilenceFrames : Nat := 5

structure VoiceSession where
  transport : UDPVoiceTransport
  isSpeaking : Bool := false
  speakingHoldoff : Bool := false
  activeSilence : Nat := 0
  deriving DecidableEq, Repr

inductive MixerAnswer where
  | busy
  | opusFrame
  | mixed (hasInput : Bool)
  deriving DecidableEq, Repr

/-- What one pass of the tick's loop is told: whether the timescale filter had a
frame, the mixer's answer, whether a timescale is set and gave a frame for
silence, whether the keepalive gap has passed, whether Opus encoding succeeded. -/
structure FrameAnswers where
  timescaleReady : Bool
  mixer : MixerAnswer
  hasTimescale : Bool
  filledOnSilence : Bool
  keepaliveDue : Bool
  encoded : Bool
  deriving DecidableEq, Repr

/-- A packet to send, with the statistics counted just before it. -/
structure Send where
  countsSent : Bool
  countsNulled : Bool
  isSilence : Bool
  deriving DecidableEq, Repr

namespace VoiceSession

def setSpeaking (session : VoiceSession) (speaking : Bool) : VoiceSession :=
  if speaking = session.isSpeaking then session
  else
    { session with
      isSpeaking := speaking
      speakingHoldoff := speaking || session.speakingHoldoff }

def resetTimers (session : VoiceSession) : VoiceSession :=
  { session with activeSilence := maxSilenceFrames }

/-- Count, send one silence frame after a speaking change, then the frame; a frame
that did not encode is sent as silence. -/
def sendFrame (session : VoiceSession) (countsSent countsNulled encoded : Bool) :
    VoiceSession × List Send :=
  if session.speakingHoldoff then
    ({ session with speakingHoldoff := false },
      [⟨countsSent, countsNulled, true⟩, ⟨false, false, !encoded⟩])
  else (session, [⟨countsSent, countsNulled, !encoded⟩])

/-- The loop of `tick` with `remaining` of its ten passes left. -/
def tickLoop (answers : Nat → FrameAnswers) : Nat → VoiceSession → VoiceSession × List Send
  | 0, session => (session, [])
  | remaining + 1, session =>
    let answer := answers (9 - remaining)
    if answer.timescaleReady then
      (session.setSpeaking true).sendFrame true false answer.encoded
    else
      match answer.mixer with
      | .opusFrame => (session.resetTimers.setSpeaking true).sendFrame true false true
      | .mixed true =>
        let speaking := session.resetTimers.setSpeaking true
        if answer.hasTimescale then tickLoop answers remaining speaking
        else speaking.sendFrame true false answer.encoded
      | .busy | .mixed false =>
        if 0 < session.activeSilence then
          let speaking :=
            { session with activeSilence := session.activeSilence - 1 }.setSpeaking true
          if answer.hasTimescale then
            if answer.filledOnSilence then tickLoop answers remaining speaking
            else (speaking, [])
          else speaking.sendFrame false true answer.encoded
        else
          (session.setSpeaking false,
            if answer.keepaliveDue then [⟨false, false, true⟩] else [])

end VoiceSession

/-! ## The task -/

/-- The await points of the loop, and its two ends. -/
inductive SpeakPhase where
  | starting
  | waitingTick
  | lockingDave (rest : List Send)
  | sending (rest : List Send)
  | saving
  | finalSaving
  | finished
  | failed
  deriving DecidableEq, Repr

/-- A finished or failed task keeps the session it ended with. -/
structure SpeakTask where
  config : SpeakConfig
  session : Option VoiceSession := none
  phase : SpeakPhase := .starting
  deriving DecidableEq, Repr

def SpeakTask.isFinished (task : SpeakTask) : Bool :=
  task.phase = .finished || task.phase = .failed

/-- What the loop shares with the gateway, and the packets handed to the socket. -/
structure Shared where
  persistent : PersistentSessionState := {}
  framesSent : UInt64 := 0
  framesNulled : UInt64 := 0
  packets : List Packet := []
  deriving DecidableEq, Repr

def Shared.count (shared : Shared) (send : Send) : Shared :=
  { shared with
    framesSent := shared.framesSent + if send.countsSent then 1 else 0
    framesNulled := shared.framesNulled + (if send.countsNulled then 1 else 0) +
      if send.isSilence then 1 else 0 }

def Shared.saveRtp (shared : Shared) (rtp : RtpState) : Shared :=
  { shared with persistent := { shared.persistent with rtpState := some rtp } }

def Shared.used (shared : Shared) (key : Key) : List UInt32 :=
  (shared.packets.filter fun packet => packet.key = key).map Packet.counter

variable (cancelled : Bool)

/-- `while !cancel_token.is_cancelled()`. -/
def continueLoop : SpeakPhase :=
  if cancelled then .finalSaving else .waitingTick

/-- The state is saved when the number of frames sent is a multiple of 100. -/
def afterTick (framesSent : UInt64) : SpeakPhase :=
  if framesSent % 100 = 0 then .saving else continueLoop cancelled

def beginSends (shared : Shared) : List Send → Shared × SpeakPhase
  | [] => (shared, afterTick cancelled shared.framesSent)
  | send :: rest => (shared.count send, .lockingDave rest)

inductive TickAnswer where
  | daveWaiting (timedOut : Bool)
  | frames (answers : Nat → FrameAnswers)

inductive SpeakInput where
  | start (random : RtpState) (encoderBuilt : Bool)
  | tick (answer : TickAnswer)
  | encrypt (encrypted : Except String Bytes) (cipherEncrypts : Bool)
  | sent (success : Bool)
  | save

def speakStep (shared : Shared) (task : SpeakTask) (input : SpeakInput) :
    Option (Shared × SpeakTask) :=
  match task.phase, task.session, input with
  | .starting, none, .start random encoderBuilt =>
    match UDPVoiceTransport.new task.config.addr task.config.ssrc task.config.key
        task.config.mode shared.persistent.rtpState random with
    | .error _ => some (shared, { task with phase := .failed })
    | .ok transport =>
      if encoderBuilt then
        some (shared,
          { task with session := some { transport }, phase := continueLoop cancelled })
      else some (shared, { task with phase := .failed })
  | .waitingTick, some _, .tick (.daveWaiting timedOut) =>
    if timedOut then some (shared, { task with phase := .failed })
    else some (shared, { task with phase := afterTick cancelled shared.framesSent })
  | .waitingTick, some session, .tick (.frames answers) =>
    let (session, sends) := session.tickLoop answers 10
    let (shared, phase) := beginSends cancelled shared sends
    some (shared, { task with session := some session, phase })
  | .lockingDave _, some _, .encrypt (.error _) _ =>
    some (shared, { task with phase := .failed })
  | .lockingDave rest, some session, .encrypt (.ok opusData) cipherEncrypts =>
    match session.transport.transmitOpus opusData cipherEncrypts with
    | (transport, none) =>
      some (shared, { task with session := some { session with transport }, phase := .failed })
    | (transport, some packet) =>
      some ({ shared with packets := shared.packets ++ [packet] },
        { task with session := some { session with transport }, phase := .sending rest })
  | .sending rest, some _, .sent success =>
    if success then
      let (shared, phase) := beginSends cancelled shared rest
      some (shared, { task with phase })
    else some (shared, { task with phase := .failed })
  | .saving, some session, .save =>
    some (shared.saveRtp session.transport.rtp, { task with phase := continueLoop cancelled })
  | .finalSaving, some session, .save =>
    some (shared.saveRtp session.transport.rtp, { task with phase := .finished })
  | _, _, _ => none

theorem VoiceSession.setSpeaking_transport (session : VoiceSession) (speaking : Bool) :
    (session.setSpeaking speaking).transport = session.transport := by
  simp only [setSpeaking]
  split <;> rfl

theorem VoiceSession.sendFrame_transport (session : VoiceSession)
    (countsSent countsNulled encoded : Bool) :
    (session.sendFrame countsSent countsNulled encoded).1.transport = session.transport := by
  simp only [sendFrame]
  split <;> rfl

theorem VoiceSession.tickLoop_transport (answers : Nat → FrameAnswers) (remaining : Nat)
    (session : VoiceSession) :
    (session.tickLoop answers remaining).1.transport = session.transport := by
  induction remaining generalizing session with
  | zero => rfl
  | succ remaining ih =>
    simp only [tickLoop]
    repeat' split
    all_goals simp [sendFrame_transport, setSpeaking_transport, resetTimers, ih]

theorem beginSends_shared (shared : Shared) (sends : List Send) :
    (beginSends cancelled shared sends).1.packets = shared.packets ∧
      (beginSends cancelled shared sends).1.persistent = shared.persistent := by
  cases sends with
  | nil | cons _ _ => exact ⟨rfl, rfl⟩

/-- The effect of one section on the packets, the saved state and the counters. -/
inductive SpeakEffect (shared : Shared) (task : SpeakTask) : Shared → SpeakTask → Prop where
  | started (random : RtpState) (session : VoiceSession) (phase : SpeakPhase)
      (unstarted : task.session = none)
      (keyed : session.transport.crypto.key = task.config.key)
      (read : session.transport.rtp = shared.persistent.rtpState.getD random) :
      SpeakEffect shared task shared { task with session := some session, phase }
  | failedUnstarted (unstarted : task.session = none) :
      SpeakEffect shared task shared { task with phase := .failed }
  | failed (session after : VoiceSession) (current : task.session = some session)
      (sameCrypto : after.transport.crypto = session.transport.crypto) :
      SpeakEffect shared task shared { task with session := some after, phase := .failed }
  | quiet (session after : VoiceSession) (counted : Shared) (phase : SpeakPhase)
      (current : task.session = some session)
      (sameTransport : after.transport = session.transport)
      (samePackets : counted.packets = shared.packets)
      (samePersistent : counted.persistent = shared.persistent) :
      SpeakEffect shared task counted { task with session := some after, phase }
  | handed (session after : VoiceSession) (packet : Packet) (phase : SpeakPhase)
      (current : task.session = some session)
      (sameCrypto : after.transport.crypto = session.transport.crypto)
      (packetCrypto : packet.crypto = session.transport.crypto)
      (counter : packet.counter = session.transport.rtp.nonce)
      (advanced : after.transport.rtp.nonce = session.transport.rtp.nonce + 1) :
      SpeakEffect shared task { shared with packets := shared.packets ++ [packet] }
        { task with session := some after, phase }
  | saved (session : VoiceSession) (phase : SpeakPhase) (current : task.session = some session) :
      SpeakEffect shared task (shared.saveRtp session.transport.rtp) { task with phase }

theorem UDPVoiceTransport.new_ok {address : SocketAddr} {ssrc : UInt32} {key : Key}
    {mode : String} {rtpState : Option RtpState} {random : RtpState} {transport : UDPVoiceTransport}
    (success : new address ssrc key mode rtpState random = .ok transport) :
    transport.crypto.key = key ∧ transport.rtp = rtpState.getD random := by
  obtain ⟨crypto, selected, success⟩ := bind_ok success
  cases success
  exact ⟨CryptoBackend.fromMode_key selected, rfl⟩

theorem SpeakTask.withSession {task : SpeakTask} {session : VoiceSession} (phase : SpeakPhase)
    (current : task.session = some session) :
    { task with phase } = { task with session := some session, phase } := by
  rw [current]

theorem speakStep_effect {cancelled : Bool} {shared after : Shared} {task next : SpeakTask}
    {input : SpeakInput} (stepped : speakStep cancelled shared task input = some (after, next)) :
    task.phase ≠ .failed ∧ SpeakEffect shared task after next := by
  simp only [speakStep] at stepped
  split at stepped
  case h_1 random encoderBuilt phase session =>
    refine ⟨by simp [phase], ?_⟩
    split at stepped
    · cases stepped
      exact .failedUnstarted session
    · rename_i transport created
      obtain ⟨keyed, read⟩ := UDPVoiceTransport.new_ok created
      split at stepped
      · cases stepped
        exact .started random _ _ session keyed read
      · cases stepped
        exact .failedUnstarted session
  case h_2 session timedOut phase current =>
    refine ⟨by simp [phase], ?_⟩
    split at stepped
    · cases stepped
      rw [SpeakTask.withSession _ current]
      exact .failed session session current rfl
    · cases stepped
      rw [SpeakTask.withSession _ current]
      exact .quiet session session shared _ current rfl rfl rfl
  case h_3 session answers phase current =>
    refine ⟨by simp [phase], ?_⟩
    cases stepped
    obtain ⟨samePackets, samePersistent⟩ :=
      beginSends_shared cancelled shared (session.tickLoop answers 10).2
    exact .quiet session _ _ _ current (session.tickLoop_transport answers 10) samePackets
      samePersistent
  case h_4 rest session problem cipherEncrypts phase current =>
    refine ⟨by simp [phase], ?_⟩
    cases stepped
    rw [SpeakTask.withSession _ current]
    exact .failed session session current rfl
  case h_5 rest session opusData cipherEncrypts phase current =>
    refine ⟨by simp [phase], ?_⟩
    cases cipherEncrypts with
    | false =>
      cases stepped
      exact .failed session _ current rfl
    | true =>
      cases stepped
      exact .handed session _ _ _ current rfl rfl rfl rfl
  case h_6 rest session success phase current =>
    refine ⟨by simp [phase], ?_⟩
    split at stepped
    · cases stepped
      obtain ⟨samePackets, samePersistent⟩ := beginSends_shared cancelled shared rest
      rw [SpeakTask.withSession _ current]
      exact .quiet session session _ _ current rfl samePackets samePersistent
    · cases stepped
      rw [SpeakTask.withSession _ current]
      exact .failed session session current rfl
  case h_7 session phase current =>
    refine ⟨by simp [phase], ?_⟩
    cases stepped
    exact .saved session _ current
  case h_8 session phase current =>
    refine ⟨by simp [phase], ?_⟩
    cases stepped
    exact .saved session _ current
  case h_9 => cases stepped

end KizunaLink.Voice
