import KizunaLink.Dave.Handler
import KizunaLink.Voice.Gateway

/-!
# The gateway's side of DAVE

Model of the handlers in discord/gateway/session/handler.rs that use the DAVE
handler, with the write queue their answers go through.  A handler runs with the
DAVE lock held or is the only task that changes the DAVE state, so a message is
one step; the voice loop encrypts in between.

An answer that finds the queue full or its writer gone is dropped and cancels the
connection.  The heartbeat and the speaking updates share the queue.  The state of
DAVE outlives the connection: `run` resets it unless the next one resumes.
-/

set_option autoImplicit false

namespace KizunaLink.Dave

open KizunaLink.Lib
open KizunaLink.Voice (SessionOutcome DescriptionPayload parseSecretKey parseDaveProtocolVersion)

def voiceWriteQueueCapacity : Nat := 256

/-- What is put on the queue: a text with a transition id, a binary frame, or anything
else. -/
inductive Frame where
  | json (op : UInt8) (transitionId : UInt16)
  | binary (op : UInt8) (payload : Bytes)
  | other
  deriving DecidableEq, Repr

/-- `sent` are the frames that the queue has taken from the handlers. -/
structure DaveGateway (Session : Type) where
  dave : DaveHandler Session
  queue : List Frame := []
  writerOpen : Bool := true
  cancelled : Bool := false
  ended : Option SessionOutcome := none
  sent : List Frame := []

/-- The numbers of a message are those that `as_u64` finds. -/
inductive GatewayMessage where
  | binary (bin : Bytes)
  | sessionDescription (payload : DescriptionPayload) (udpReady : Bool)
  | clientConnect (userIds : List UInt64)
  | clientDisconnect (userId : Option UInt64)
  | davePrepareTransition (transitionId protocolVersion : Option Nat)
  | daveExecuteTransition (transitionId : Option Nat)
  | davePrepareEpoch (epoch : Option UInt64) (protocolVersion transitionId : Option Nat)
  | mlsAnnounceCommitTransition (transitionId protocolVersion : Option Nat)
  | mlsInvalidCommitWelcome
  | other

def parseU16Field (value : Option Nat) : Option UInt16 :=
  value.bind fun number => if number < 2 ^ 16 then some (UInt16.ofNat number) else none

variable {Session : Type}

namespace DaveGateway

def new (userId channelId : UInt64) : DaveGateway Session where
  dave := DaveHandler.new userId channelId

variable (davey : Davey Session) (gateway : DaveGateway Session)

def hasRoom : Bool := gateway.writerOpen && decide (gateway.queue.length < voiceWriteQueueCapacity)

/-- `send_json` and `send_binary`. -/
def trySend (frame : Frame) : DaveGateway Session :=
  if gateway.hasRoom then
    { gateway with queue := gateway.queue ++ [frame], sent := gateway.sent ++ [frame] }
  else { gateway with cancelled := true }

def resetDave (transitionId : UInt16) : DaveGateway Session :=
  let gateway := { gateway with dave := gateway.dave.reset }.trySend (.json 31 transitionId)
  match gateway.dave.setupSession davey daveInitialVersion with
  | (dave, .ok keyPackage) => { gateway with dave }.trySend (.binary 26 keyPackage)
  | (dave, .error _) => { gateway with dave }

def onExternalSender (data : Bytes) : DaveGateway Session :=
  match gateway.dave.processExternalSender davey data with
  | (dave, .ok responses) =>
    responses.foldl (fun gateway response => gateway.trySend (.binary 28 response))
      { gateway with dave }
  | (dave, .error _) => { gateway with dave }.resetDave davey 0

def onProposals (data : Bytes) : DaveGateway Session :=
  match gateway.dave.processProposals davey data with
  | (dave, .ok (some commitWelcome)) => { gateway with dave }.trySend (.binary 28 commitWelcome)
  | (dave, .ok none) => { gateway with dave }
  | (dave, .error _) => { gateway with dave }.resetDave davey 0

/-- A commit or a welcome: the id that comes back is announced as ready. -/
def onHandshake (data : Bytes) (isWelcome : Bool) : DaveGateway Session :=
  match
    (if isWelcome then gateway.dave.processWelcome davey data
      else gateway.dave.processCommit davey data) with
  | (dave, .ok transitionId) =>
    if transitionId ≠ 0 then { gateway with dave }.trySend (.json 23 transitionId)
    else { gateway with dave }
  | (dave, .error _) =>
    { gateway with dave }.resetDave davey
      (if 2 ≤ data.length then DaveHandler.transitionIdOf data else 0)

/-- Two bytes of sequence number, the opcode, and the data. -/
def handleBinary (bin : Bytes) : DaveGateway Session :=
  match bin with
  | _ :: _ :: op :: data =>
    if op = 25 then gateway.onExternalSender davey data
    else if op = 27 then gateway.onProposals davey data
    else if op = 29 then gateway.onHandshake davey data false
    else if op = 30 then gateway.onHandshake davey data true
    else gateway
  | [] | [_] | [_, _] => gateway

/-! ## Texts -/

def onPrepareTransition (transitionId protocolVersion : Option Nat) : DaveGateway Session :=
  match parseU16Field transitionId, parseU16Field protocolVersion with
  | some transitionId, some version =>
    let (dave, ready) := gateway.dave.prepareTransition davey transitionId version
    if ready then { gateway with dave }.trySend (.json 23 transitionId) else { gateway with dave }
  | none, _ | some _, none => gateway

def onExecuteTransition (transitionId : Option Nat) : DaveGateway Session :=
  match parseU16Field transitionId with
  | some transitionId =>
    { gateway with dave := gateway.dave.executeTransition davey transitionId }
  | none => gateway

def onPrepareEpoch (epoch : Option UInt64) (protocolVersion transitionId : Option Nat) :
    DaveGateway Session :=
  match epoch, parseU16Field protocolVersion with
  | some epoch, some version =>
    match gateway.dave.prepareEpoch davey epoch version with
    | (dave, .keyPackage package) => { gateway with dave }.trySend (.binary 26 package)
    | (dave, .ready) =>
      { gateway with dave }.trySend (.json 23 ((parseU16Field transitionId).getD 0))
    | (dave, .ignored) => { gateway with dave }
  | none, _ | some _, none => gateway

def onMlsTransition (transitionId protocolVersion : Option Nat) : DaveGateway Session :=
  match parseU16Field transitionId, parseU16Field protocolVersion with
  | some transitionId, some version =>
    let (dave, ready) := gateway.dave.prepareTransition davey transitionId version
    if ready && transitionId != 0 then { gateway with dave }.trySend (.json 23 transitionId)
    else { gateway with dave }
  | none, _ | some _, none => gateway

def endWith (outcome : SessionOutcome) : DaveGateway Session :=
  { gateway with ended := some outcome }

/-- The DAVE part of `on_session_description`; a missing version counts as zero. -/
def setUpDave (payload : DescriptionPayload) (version : UInt16) : DaveGateway Session :=
  if payload.daveProtocolVersion.isNone && gateway.dave.encryptionRequired then
    gateway.endWith .identify
  else
    match gateway.dave.setupSession davey version with
    | (dave, .ok keyPackage) =>
      if 0 < version then { gateway with dave }.trySend (.binary 26 keyPackage)
      else { gateway with dave }
    | (dave, .error _) =>
      if 0 < version then { gateway with dave := dave.reset }.endWith .identify
      else { gateway with dave }.endWith .identify

def onSessionDescription (payload : DescriptionPayload) (udpReady : Bool) :
    DaveGateway Session :=
  if (parseSecretKey payload).isNone || !udpReady then gateway.endWith .reconnect
  else if 0 < gateway.dave.channelId then
    match parseDaveProtocolVersion payload with
    | .error _ => gateway.endWith .reconnect
    | .ok version => gateway.setUpDave davey payload version
  else gateway

def handle : GatewayMessage → DaveGateway Session
  | .binary bin => gateway.handleBinary davey bin
  | .sessionDescription payload udpReady => gateway.onSessionDescription davey payload udpReady
  | .clientConnect userIds =>
    if userIds.isEmpty then gateway else { gateway with dave := gateway.dave.addUsers userIds }
  | .clientDisconnect userId =>
    match userId with
    | some userId => { gateway with dave := gateway.dave.removeUser userId }
    | none => gateway
  | .davePrepareTransition transitionId version =>
    gateway.onPrepareTransition davey transitionId version
  | .daveExecuteTransition transitionId => gateway.onExecuteTransition davey transitionId
  | .davePrepareEpoch epoch version transitionId =>
    gateway.onPrepareEpoch davey epoch version transitionId
  | .mlsAnnounceCommitTransition transitionId version =>
    gateway.onMlsTransition davey transitionId version
  | .mlsInvalidCommitWelcome => gateway.resetDave davey 0
  | .other => gateway

def connected (dave : DaveHandler Session) : DaveGateway Session :=
  { dave, sent := gateway.sent }

end DaveGateway

inductive GatewayAct where
  | receive (message : GatewayMessage)
  | encryptOpus (packet : Bytes)
  | otherFrame
  | write
  | writerExits
  | cancel
  | close (outcome : SessionOutcome)
  | redial (success : Bool)

namespace DaveGateway

/-- The select loop looks at the token before it reads. -/
def receives (gateway : DaveGateway Session) : Bool :=
  gateway.ended.isNone && !gateway.cancelled

def step (davey : Davey Session) (gateway : DaveGateway Session) :
    GatewayAct → Option (DaveGateway Session)
  | .receive message => if gateway.receives then some (gateway.handle davey message) else none
  | .encryptOpus packet =>
    some { gateway with dave := (gateway.dave.encryptOpus davey packet).1 }
  | .otherFrame =>
    if gateway.hasRoom then some { gateway with queue := gateway.queue ++ [.other] } else none
  | .write =>
    match gateway.queue with
    | _ :: rest => if gateway.writerOpen then some { gateway with queue := rest } else none
    | [] => none
  | .writerExits => some { gateway with writerOpen := false }
  | .cancel => some { gateway with cancelled := true }
  | .close outcome => if gateway.ended.isNone then some (gateway.endWith outcome) else none
  | .redial success =>
    match gateway.ended with
    | some .reconnect =>
      some (if success then gateway.connected gateway.dave
        else { gateway with dave := gateway.dave.reset, ended := some .identify })
    | some .identify =>
      some (if success then gateway.connected gateway.dave.reset
        else { gateway with dave := gateway.dave.reset })
    | some .shutdown | none => none

end DaveGateway

end KizunaLink.Dave
