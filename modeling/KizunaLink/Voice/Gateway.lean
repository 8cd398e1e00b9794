import KizunaLink.Lib.System
import KizunaLink.Voice.SpeakLoop

/-!
# The voice gateway and its connections

Model of `VoiceGateway::run` and `connect` (discord/gateway/session/mod.rs) with
the handlers of session/handler.rs that touch the voice loop.  The controller is
one task; `Control` names its await points, and between two of its steps the
speak loop may take any number of its own.

`start_voice` and `shutdown` request the loop's abort and wait for its end.  The
loop may still take steps after the request; `loopStopped` and
`connectionClosed` are the moments at which it has ended, by itself or by the
abort.  A loop that outlasts the two seconds of `start_voice` is left to itself:
it stops at the end of the section it is in.
-/

set_option autoImplicit false

namespace KizunaLink.Voice

open KizunaLink.Lib

inductive SessionOutcome where
  | reconnect
  | identify
  | shutdown
  deriving DecidableEq, Repr

def maxReconnectAttempts : Nat := 15

def defaultVoiceMode : String := "aead_xchacha20_poly1305_rtpsize"

def classify (code : UInt16) : SessionOutcome :=
  if code ∈ [4004, 4011, 4021, 4022] then .shutdown
  else if code ∈ [4006, 4009, 4014] then .identify
  else .reconnect

structure ReadyPayload where
  ssrc : Option Nat
  ip : Option Chars
  port : Option Nat
  modes : Option (List String)

structure DescriptionPayload where
  /-- The numbers of the `secret_key` array; `none` where an element is none. -/
  secretKey : Option (List (Option Nat))
  /-- Absent, or present with the number it holds, if it holds one. -/
  daveProtocolVersion : Option (Option Nat)

/-- `other` stands for every message that leaves this model's state alone. -/
inductive Message where
  | hello (heartbeatInterval : Option Nat)
  | ready (payload : ReadyPayload)
  | sessionDescription (payload : DescriptionPayload)
  | resumed
  | close (code : UInt16)
  | other

def parseDaveProtocolVersion (payload : DescriptionPayload) : Except Nat UInt16 :=
  match payload.daveProtocolVersion with
  | none => .ok 0
  | some none => .error (2 ^ 64 - 1)
  | some (some value) => if value < 2 ^ 16 then .ok (UInt16.ofNat value) else .error value

def parseKeyByte : Option Nat → Option UInt8
  | some value => if value ≤ 255 then some (UInt8.ofNat value) else none
  | none => none

/-- Thirty-two numbers, each of which fits a byte. -/
def parseSecretKey (payload : DescriptionPayload) : Option Key := do
  let elements ← payload.secretKey
  let bytes ← elements.mapM parseKeyByte
  if sized : bytes.length = 32 then some ⟨bytes.toArray, by simpa using sized⟩ else none

/-- The fields of `SessionState` and its connection token.  `orphan` is a loop
that outlasted its abort. -/
structure Conn where
  cancelled : Bool := false
  voiceFailed : Bool := false
  heartbeat : Bool := false
  speakingTx : Bool := false
  ssrc : UInt32 := 0
  udpAddr : Option SocketAddr := none
  selectedMode : String := defaultVoiceMode
  sessionKey : Option Key := none
  speakTask : Option SpeakTask := none
  orphan : Option SpeakTask := none

inductive Control where
  | dialing
  | awaitingHello
  | handshaking
  | selecting
  | readyPersisting
  | discovering
  | describing (addr : SocketAddr) (key : Key) (payload : DescriptionPayload)
  | settingUpDave (addr : SocketAddr) (key : Key) (payload : DescriptionPayload)
  | resuming
  | stoppingLoop (addr : SocketAddr) (key : Key) (described : Bool)
  | ending (outcome : SessionOutcome)
  | stopped

structure Gateway where
  shared : Shared := {}
  channelId : UInt64
  attempt : Nat := 0
  isResume : Bool := false
  control : Control := .dialing
  conn : Conn := {}
  orphans : List SpeakTask := []

namespace Gateway

variable (gateway : Gateway)

def resetBackoff : Gateway := { gateway with attempt := 0 }

/-- `shutdown` begins by cancelling the connection's token. -/
def beginEnding (outcome : SessionOutcome) : Gateway :=
  { gateway with
    control := .ending outcome
    conn := { gateway.conn with cancelled := true } }

/-- A handler has returned: to the select loop, or to the wait for HELLO, after
which a connection without a heartbeat is given up. -/
def handled : Option SessionOutcome → Gateway
  | some outcome => gateway.beginEnding outcome
  | none =>
    if gateway.conn.speakingTx then { gateway with control := .selecting }
    else if gateway.conn.heartbeat then { gateway with control := .handshaking }
    else gateway.beginEnding .reconnect

/-! ## Handlers -/

def onHello (interval : Option Nat) : Gateway :=
  match interval.filter (0 < ·) with
  | none => gateway.handled (some .reconnect)
  | some _ =>
    if gateway.conn.heartbeat then gateway.handled (some .identify)
    else { gateway with conn := { gateway.conn with heartbeat := true } }.handled none

def supportedModes : List String :=
  ["aead_aes256_gcm_rtpsize", "aead_xchacha20_poly1305_rtpsize"]

def onReady (payload : ReadyPayload) : Gateway :=
  match payload.ssrc, payload.ip, payload.port with
  | some ssrc, some ip, some port =>
    if ssrc < 2 ^ 32 ∧ port ≤ 65535 then
      match parseIp ip with
      | none =>
        { gateway with conn := { gateway.conn with ssrc := UInt32.ofNat ssrc } }.handled
          (some .reconnect)
      | some address =>
        let conn :=
          { gateway.conn with
            ssrc := UInt32.ofNat ssrc
            udpAddr := some ⟨address, UInt16.ofNat port⟩ }
        match payload.modes with
        | none => { gateway with conn, control := .readyPersisting }
        | some modes =>
          match supportedModes.find? fun mode => modes.contains mode with
          | some mode =>
            { gateway with
              conn := { conn with selectedMode := mode }, control := .readyPersisting }
          | none => { gateway with conn }.handled (some .reconnect)
    else gateway.handled (some .reconnect)
  | _, _, _ => gateway.handled (some .reconnect)

def persistReady : Gateway :=
  { gateway with
    shared := { gateway.shared with
      persistent := { gateway.shared.persistent with
        ssrc := gateway.conn.ssrc, selectedMode := some gateway.conn.selectedMode } }
    control := .discovering }

def onSessionDescription (payload : DescriptionPayload) : Gateway :=
  match parseSecretKey payload with
  | none => gateway.handled (some .reconnect)
  | some key =>
    let conn := { gateway.conn with sessionKey := some key }
    match gateway.conn.udpAddr with
    | none => { gateway with conn }.handled (some .reconnect)
    | some addr => { gateway with conn, control := .describing addr key payload }

variable (addr : SocketAddr)

/-- The end of `start_voice`, with no loop left: start one, if the channel for
speaking updates exists. -/
def spawnLoop (key : Key) : Gateway :=
  if gateway.conn.speakingTx then
    { gateway with
      conn := { gateway.conn with
        speakTask := some
          { config :=
              { addr, ssrc := gateway.conn.ssrc, key, mode := gateway.conn.selectedMode } } } }
  else gateway

/-- SESSION_DESCRIPTION resets the backoff after `start_voice`; RESUMED does not. -/
def voiceStarted (described : Bool) : Gateway :=
  (if described then gateway.resetBackoff else gateway).handled none

def startVoice (key : Key) (described : Bool) : Gateway :=
  match gateway.conn.speakTask with
  | none => (gateway.spawnLoop addr key).voiceStarted described
  | some _ => { gateway with control := .stoppingLoop addr key described }

def persistDescription (key : Key) : Gateway :=
  { gateway with
    shared := { gateway.shared with
      persistent := { gateway.shared.persistent with
        udpAddr := some addr
        sessionKey := some key
        ssrc := gateway.conn.ssrc
        selectedMode := some gateway.conn.selectedMode } } }

/-- The section of `on_session_description` behind the persistent state's lock. -/
def describe (key : Key) (payload : DescriptionPayload) : Gateway :=
  let gateway := gateway.persistDescription addr key
  if 0 < gateway.channelId then
    match parseDaveProtocolVersion payload with
    | .error _ => gateway.handled (some .reconnect)
    | .ok _ => { gateway with control := .settingUpDave addr key payload }
  else gateway.startVoice addr key true

/-- Behind the DAVE lock: a missing version after a negotiated one, and a failed
setup, give the session up. -/
def setUpDave (key : Key) (payload : DescriptionPayload) (requiresEncryption setUp : Bool) :
    Gateway :=
  if payload.daveProtocolVersion.isNone && requiresEncryption then
    gateway.handled (some .identify)
  else if setUp then gateway.startVoice addr key true
  else gateway.handled (some .identify)

/-- The section of `on_resumed` behind the persistent state's lock. -/
def resume : Gateway :=
  match gateway.shared.persistent.udpAddr, gateway.shared.persistent.sessionKey with
  | some addr, some key =>
    let conn :=
      { gateway.conn with
        udpAddr := some addr
        sessionKey := some key
        ssrc := gateway.shared.persistent.ssrc
        selectedMode :=
          gateway.shared.persistent.selectedMode.getD gateway.conn.selectedMode
        speakTask := gateway.conn.speakTask.filter fun task => !task.isFinished }
    match conn.speakTask with
    | some _ => { gateway with conn }.handled none
    | none => { gateway with conn }.startVoice addr key false
  | _, _ => gateway.handled (some .identify)

def receive : Message → Gateway
  | .hello interval => gateway.onHello interval
  | .ready payload => gateway.onReady payload
  | .sessionDescription payload => gateway.onSessionDescription payload
  | .resumed => { gateway with control := .resuming }
  | .close code => gateway.handled (some (classify code))
  | .other => gateway.handled none

def forget : Gateway :=
  { gateway with shared := { gateway.shared with persistent := {} } }

/-- The connection is gone, with its loop; an orphan of it may be left. -/
def dropConn : Gateway :=
  { gateway with conn := {}, orphans := gateway.conn.orphan.toList ++ gateway.orphans }

/-- What `run` does with the outcome of a connection. -/
def connectReturned (outcome : SessionOutcome) : Gateway :=
  let gateway := gateway.dropConn
  match outcome with
  | .shutdown => { gateway with control := .stopped }
  | .reconnect =>
    if maxReconnectAttempts ≤ gateway.attempt then { gateway with control := .stopped }
    else
      { gateway with attempt := gateway.attempt + 1, isResume := true, control := .dialing }
  | .identify =>
    if maxReconnectAttempts ≤ gateway.attempt then { gateway with control := .stopped }
    else
      { gateway.forget with
        attempt := gateway.attempt + 1, isResume := false, control := .dialing }

def connectFailed : Gateway :=
  if maxReconnectAttempts ≤ gateway.attempt then { gateway with control := .stopped }
  else
    { gateway.forget with
      attempt := gateway.attempt + 1, isResume := false, control := .dialing }

/-- A section of the loop; an error also marks and cancels the connection. -/
def speak (input : SpeakInput) : Option Gateway := do
  let task ← gateway.conn.speakTask
  let (shared, task) ← speakStep gateway.conn.cancelled gateway.shared task input
  let failed : Bool := task.phase = .failed
  some
    { gateway with
      shared
      conn := { gateway.conn with
        speakTask := some task
        voiceFailed := gateway.conn.voiceFailed || failed
        cancelled := gateway.conn.cancelled || failed } }

end Gateway

inductive Act where
  | dial (success : Bool)
  | receive (message : Message)
  | readEnds
  | handshakeSent (success : Bool)
  | locked
  | discovered (success : Bool)
  | daveAnswers (requiresEncryption setUp : Bool)
  | loopStopped
  | stopTimesOut
  | observeCancel
  | outerCancelled
  | connectionClosed
  | heartbeatGivesUp
  | framesSwapped
  | speak (input : SpeakInput)
  | orphanSection (input : SpeakInput)

namespace Gateway

/-- The last section of a loop that outlasted its abort. -/
def orphanSection (gateway : Gateway) (input : SpeakInput) : Option Gateway :=
  match gateway.conn.orphan, gateway.orphans with
  | some task, _ => do
      let (shared, task) ← speakStep gateway.conn.cancelled gateway.shared task input
      let failed : Bool := task.phase = .failed
      some
        { gateway with
          shared
          conn := { gateway.conn with
            orphan := none
            voiceFailed := gateway.conn.voiceFailed || failed } }
  | none, task :: orphans => do
      let (shared, _) ← speakStep true gateway.shared task input
      some { gateway with shared, orphans }
  | none, [] => none

def step (gateway : Gateway) (act : Act) : Option Gateway :=
  match gateway.control, act with
  | .dialing, .dial success =>
    some (if success then { gateway with conn := {}, control := .awaitingHello }
      else gateway.connectFailed)
  | .dialing, .outerCancelled => some { gateway with control := .stopped }
  | .awaitingHello, .receive message => some (gateway.receive message)
  | .awaitingHello, .readEnds => some (gateway.beginEnding .reconnect)
  | .handshaking, .handshakeSent success =>
    some (if success then
        { gateway with conn := { gateway.conn with speakingTx := true }, control := .selecting }
      else gateway.beginEnding .reconnect)
  | .selecting, .outerCancelled => some (gateway.beginEnding .shutdown)
  | .selecting, .observeCancel =>
    if gateway.conn.cancelled then
      some (gateway.beginEnding (if gateway.conn.voiceFailed then .identify else .reconnect))
    else none
  | .selecting, .receive message =>
    if gateway.conn.cancelled then none else some (gateway.receive message)
  | .selecting, .readEnds =>
    if gateway.conn.cancelled then none else some (gateway.beginEnding .reconnect)
  | .readyPersisting, .locked => some gateway.persistReady
  | .discovering, .discovered success =>
    some (if success then gateway.resetBackoff.handled none
      else gateway.handled (some .reconnect))
  | .describing addr key payload, .locked => some (gateway.describe addr key payload)
  | .settingUpDave addr key payload, .daveAnswers requiresEncryption setUp =>
    some (gateway.setUpDave addr key payload requiresEncryption setUp)
  | .resuming, .locked => some gateway.resume
  | .stoppingLoop addr key described, .loopStopped =>
    some (({ gateway with conn := { gateway.conn with speakTask := none } }.spawnLoop
      addr key).voiceStarted described)
  | .stoppingLoop _ _ described, .stopTimesOut =>
    -- the aborted loop has not returned and may still finish the section it is in
    some ({ gateway with conn := { gateway.conn with
      speakTask := none, orphan := gateway.conn.speakTask, cancelled := true } }.voiceStarted
        described)
  | .ending outcome, .connectionClosed => some (gateway.connectReturned outcome)
  | _, .heartbeatGivesUp =>
    if gateway.conn.heartbeat then
      some { gateway with conn := { gateway.conn with cancelled := true } }
    else none
  | _, .framesSwapped =>
    some { gateway with shared := { gateway.shared with framesSent := 0, framesNulled := 0 } }
  | _, .speak input => gateway.speak input
  | _, .orphanSection input => gateway.orphanSection input
  | _, _ => none

end Gateway

def gatewaySystem : System Gateway Act := ⟨Gateway.step⟩

end KizunaLink.Voice
