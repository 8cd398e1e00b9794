import KizunaLink.Lib.System
import Mathlib.Logic.Function.Basic

/-!
# The DAVE handler

Functional model of `DaveHandler` in discord/crypto/dave.rs.  A method taking
`&mut self` becomes a function that returns the handler it leaves behind next
to its result, so a method that fails midway shows what it already changed.

The MLS session is the vendored `davey` crate.  Here it is an arbitrary
component: a session type and one function per operation the handler calls.
An operation returns the session it leaves behind also when it fails.  Every
call of a run is paired with the `davey` behaviour it meets, so an operation
may succeed once and fail the next time on the same session.
-/

set_option autoImplicit false

namespace KizunaLink.Dave

open KizunaLink.Lib

abbrev Bytes := List UInt8

inductive ProposalsOperationType where
  | append
  | revoke
  deriving DecidableEq, Repr

structure CommitWelcome where
  commit : Bytes
  welcome : Option Bytes

structure Davey (Session : Type) where
  new : UInt16 → UInt64 → UInt64 → Except String Session
  reinit : Session → UInt16 → UInt64 → UInt64 → Session × Except String Unit
  reinitForTransition : Session → UInt16 → UInt64 → UInt64 → Session × Except String Unit
  createKeyPackage : Session → Session × Except String Bytes
  discardTransition : Session → UInt16 → Session
  executeTransition : Session → UInt16 → Session
  setExternalSender : Session → Bytes → Session × Except String Unit
  processProposals : Session → ProposalsOperationType → Bytes → List UInt64 →
    Session × Except String (Option CommitWelcome)
  processWelcome : Session → Bytes → Session × Except String Unit
  processCommit : Session → Bytes → Session × Except String Unit
  processWelcomeForTransition : Session → Bytes → UInt16 → Session × Except String Unit
  processCommitForTransition : Session → Bytes → UInt16 → Session × Except String Unit
  isReady : Session → Bool
  encryptOpus : Session → Bytes → Session × Except String Bytes

def daveInitialVersion : UInt16 := 1

def maxPendingProposals : Nat := 64

def maxDaveControlPayloadBytes : Nat := 1048576

inductive EpochOutcome where
  | keyPackage (package : Bytes)
  | ready
  | ignored
  deriving DecidableEq

structure DaveHandler (Session : Type) where
  session : Option Session
  userId : UInt64
  channelId : UInt64
  protocolVersion : UInt16
  encryptionRequired : Bool
  preparedProtocolVersion : UInt16
  pendingTransitions : UInt16 → Option UInt16
  externalSenderSet : Bool
  savedExternalSender : Option Bytes
  pendingProposals : List Bytes
  pendingHandshake : List (Bytes × Bool)
  wasReady : Bool
  recognizedUsers : List UInt64
  cachedUserIds : List UInt64

variable {Session : Type}

namespace DaveHandler

def new (userId channelId : UInt64) : DaveHandler Session where
  session := none
  userId := userId
  channelId := channelId
  protocolVersion := 0
  encryptionRequired := false
  preparedProtocolVersion := 0
  pendingTransitions := fun _ => none
  externalSenderSet := false
  savedExternalSender := none
  pendingProposals := []
  pendingHandshake := []
  wasReady := false
  recognizedUsers := [userId]
  cachedUserIds := [userId]

variable (davey : Davey Session) (handler : DaveHandler Session)

def updateUserCache : DaveHandler Session :=
  { handler with
    cachedUserIds := handler.recognizedUsers.mergeSort fun a b => decide (a ≤ b) }

def addUsers (uids : List UInt64) : DaveHandler Session :=
  updateUserCache { handler with
    recognizedUsers := uids.foldl (fun users uid => users.insert uid) handler.recognizedUsers }

def removeUser (uid : UInt64) : DaveHandler Session :=
  if uid ∈ handler.recognizedUsers then
    updateUserCache { handler with recognizedUsers := handler.recognizedUsers.erase uid }
  else handler

/-- The encryption requirement is the one field besides the users that `reset` keeps. -/
def reset : DaveHandler Session :=
  { handler with
    protocolVersion := 0
    preparedProtocolVersion := 0
    pendingTransitions := fun _ => none
    externalSenderSet := false
    savedExternalSender := none
    pendingProposals := []
    pendingHandshake := []
    wasReady := false
    session := none }

/-- The session `setup_session` works on: the present one reinitialised in
place, or a new one.  A failed reinitialisation leaves the session it touched. -/
def openSession (version : UInt16) : DaveHandler Session × Except String Session :=
  match handler.session with
  | some session =>
    let (session, result) :=
      if handler.protocolVersion = 0 then
        davey.reinit session version handler.userId handler.channelId
      else davey.reinitForTransition session version handler.userId handler.channelId
    ({ handler with session := some session }, result.map fun _ => session)
  | none =>
    match davey.new version handler.userId handler.channelId with
    | .ok session => ({ handler with session := some session }, .ok session)
    | .error message => (handler, .error message)

def setupSession (version : UInt16) : DaveHandler Session × Except String Bytes :=
  if version = 0 then
    ({ handler.reset with encryptionRequired := false }, .ok [])
  else if version ≠ daveInitialVersion then
    ({ handler with encryptionRequired := true },
      .error ("Unsupported DAVE protocol version: " ++ toString version))
  else
    match openSession davey { handler with encryptionRequired := true } version with
    | (opened, .error message) => (opened, .error message)
    | (opened, .ok session) =>
      let (session, keyPackage) := davey.createKeyPackage session
      ({ opened with
          session := some session
          preparedProtocolVersion := version
          externalSenderSet :=
            handler.session.isSome && handler.savedExternalSender.isSome
          pendingProposals := []
          pendingHandshake := []
          wasReady := false }, keyPackage)

def executeTransition (transitionId : UInt16) : DaveHandler Session :=
  match handler.pendingTransitions transitionId with
  | none => handler
  | some nextVersion =>
    { handler with
      pendingTransitions := Function.update handler.pendingTransitions transitionId none
      session := handler.session.map fun session =>
        if nextVersion = 0 then davey.discardTransition session transitionId
        else davey.executeTransition session transitionId
      protocolVersion := nextVersion
      encryptionRequired := decide (nextVersion ≠ 0) }

def prepareTransition (transitionId protocolVersion : UInt16) : DaveHandler Session × Bool :=
  if protocolVersion ≠ 0 ∧ protocolVersion ≠ daveInitialVersion then (handler, false)
  else
    let recorded := { handler with
      pendingTransitions :=
        Function.update handler.pendingTransitions transitionId (some protocolVersion) }
    if transitionId = 0 then (executeTransition davey recorded 0, false)
    else (recorded, true)

def prepareEpoch (epoch : UInt64) (protocolVersion : UInt16) : DaveHandler Session × EpochOutcome :=
  if protocolVersion = 0 ∨ daveInitialVersion < protocolVersion then (handler, .ignored)
  else if epoch = 1 then
    match setupSession davey handler protocolVersion with
    | (next, .ok keyPackage) => (next, .keyPackage keyPackage)
    | (next, .error _) => (next, .ignored)
  else if epoch = 0 then (handler, .ignored)
  else if handler.session.isNone then (handler, .ignored)
  else ({ handler with preparedProtocolVersion := protocolVersion }, .ready)

def transitionIdOf (data : Bytes) : UInt16 :=
  (data.getD 0 0).toUInt16 <<< 8 ||| (data.getD 1 0).toUInt16

def doProcessProposals (session : Session) (data : Bytes) (userIds : List UInt64) :
    Session × Except String (Option Bytes) :=
  let processed (operation : ProposalsOperationType) :=
    let (session, result) := davey.processProposals session operation (data.drop 1) userIds
    (session, result.map fun outcome =>
      outcome.map fun cw => cw.commit ++ cw.welcome.getD [])
  match data.getD 0 0 with
  | 0 => processed .append
  | 1 => processed .revoke
  | raw => (session, .error ("Unknown DAVE proposals op: " ++ toString raw))

/-- The version a welcome or commit for this transition will put in force. -/
def transitionVersion (transitionId : UInt16) : UInt16 :=
  if transitionId = 0 then handler.preparedProtocolVersion
  else (handler.pendingTransitions transitionId).getD handler.preparedProtocolVersion

def doProcessHandshake (data : Bytes) (isWelcome : Bool) :
    DaveHandler Session × Except String Unit :=
  let transitionId := transitionIdOf data
  let version := handler.transitionVersion transitionId
  match handler.session with
  | none => (handler, .ok ())
  | some session =>
    if transitionId = 0 then
      let (session, result) :=
        if isWelcome then davey.processWelcome session (data.drop 2)
        else davey.processCommit session (data.drop 2)
      match result with
      | .error message => ({ handler with session := some session }, .error message)
      | .ok _ =>
        ({ handler with session := some session, protocolVersion := version }, .ok ())
    else
      let (session, result) :=
        if isWelcome then
          davey.processWelcomeForTransition session (data.drop 2) transitionId
        else davey.processCommitForTransition session (data.drop 2) transitionId
      match result with
      | .error message => ({ handler with session := some session }, .error message)
      | .ok _ =>
        ({ handler with
            session := some session
            pendingTransitions :=
              Function.update handler.pendingTransitions transitionId (some version) },
          .ok ())

def shortPayloadErr (context : String) : String :=
  "Invalid " ++ context ++ " payload: too short"

def oversizedPayloadErr (context : String) : String :=
  context ++ " payload exceeds " ++ toString maxDaveControlPayloadBytes ++ " bytes"

def processHandshakeMessage (data : Bytes) (isWelcome : Bool) :
    DaveHandler Session × Except String UInt16 :=
  let tag := if isWelcome then "welcome" else "commit"
  if data.length < 2 then (handler, .error (shortPayloadErr ("DAVE " ++ tag)))
  else if maxDaveControlPayloadBytes < data.length then
    (handler, .error (oversizedPayloadErr ("DAVE " ++ tag)))
  else if handler.externalSenderSet = false then
    if handler.pendingHandshake.length < maxPendingProposals then
      ({ handler with pendingHandshake := handler.pendingHandshake ++ [(data, isWelcome)] },
        .ok (transitionIdOf data))
    else (handler, .ok (transitionIdOf data))
  else
    let (next, result) := doProcessHandshake davey handler data isWelcome
    (next, result.map fun _ => transitionIdOf data)

def processWelcome (data : Bytes) : DaveHandler Session × Except String UInt16 :=
  processHandshakeMessage davey handler data true

def processCommit (data : Bytes) : DaveHandler Session × Except String UInt16 :=
  processHandshakeMessage davey handler data false

def processProposals (data : Bytes) : DaveHandler Session × Except String (Option Bytes) :=
  if data.isEmpty then (handler, .error (shortPayloadErr "DAVE proposals"))
  else if maxDaveControlPayloadBytes < data.length then
    (handler, .error (oversizedPayloadErr "DAVE proposals"))
  else if handler.externalSenderSet = false then
    if handler.pendingProposals.length < maxPendingProposals then
      ({ handler with pendingProposals := handler.pendingProposals ++ [data] }, .ok none)
    else (handler, .ok none)
  else
    match handler.session with
    | none => (handler, .ok none)
    | some session =>
      let (session, result) := doProcessProposals davey session data handler.cachedUserIds
      ({ handler with session := some session }, result)

/-- The buffered proposals, oldest first; the first failure drops the rest. -/
def replayProposals (davey : Davey Session) (userIds : List UInt64) :
    List Bytes → Session → List Bytes → Session × Except String (List Bytes)
  | [], session, responses => (session, .ok responses)
  | data :: rest, session, responses =>
    match doProcessProposals davey session data userIds with
    | (session, .error message) => (session, .error message)
    | (session, .ok (some response)) =>
      replayProposals davey userIds rest session (responses ++ [response])
    | (session, .ok none) => replayProposals davey userIds rest session responses

/-- The buffered welcomes and commits, oldest first; the first failure drops the rest. -/
def replayHandshakes (davey : Davey Session) :
    List (Bytes × Bool) → DaveHandler Session → DaveHandler Session × Except String Unit
  | [], handler => (handler, .ok ())
  | (data, isWelcome) :: rest, handler =>
    match doProcessHandshake davey handler data isWelcome with
    | (next, .error message) => (next, .error message)
    | (next, .ok _) => replayHandshakes davey rest next

def processExternalSender (data : Bytes) : DaveHandler Session × Except String (List Bytes) :=
  if maxDaveControlPayloadBytes < data.length then
    (handler, .error (oversizedPayloadErr "DAVE external sender"))
  else if handler.externalSenderSet ∧ handler.savedExternalSender = some data then
    (handler, .ok [])
  else
    match handler.session with
    | none => (handler, .ok [])
    | some session =>
      match davey.setExternalSender session data with
      | (session, .error message) =>
        ({ handler with session := some session }, .error message)
      | (session, .ok _) =>
        let (session, responses) :=
          replayProposals davey handler.cachedUserIds handler.pendingProposals session []
        let replayed := { handler with
          session := some session
          externalSenderSet := true
          savedExternalSender := some data
          pendingProposals := [] }
        match responses with
        | .error message => (replayed, .error message)
        | .ok responses =>
          let (next, result) := replayHandshakes davey handler.pendingHandshake
            { replayed with pendingHandshake := [] }
          (next, result.map fun _ => responses)

def canSendMedia : Bool :=
  !handler.encryptionRequired ||
    (handler.protocolVersion != 0 && handler.session.any davey.isReady)

def encryptOpus (packet : Bytes) : DaveHandler Session × Except String Bytes :=
  if handler.encryptionRequired = false then (handler, .ok packet)
  else if handler.canSendMedia davey = false then
    (handler, .error "DAVE required but session is not ready")
  else
    match handler.session with
    | none => (handler, .error "DAVE session missing")
    | some session =>
      let (session, result) := davey.encryptOpus session packet
      ({ handler with session := some session, wasReady := true }, result)

/-! ## What the messages leave alone -/

/-- The step keeps the session, if there is one, and the flag. -/
structure KeepsSession (handler next : DaveHandler Session) : Prop where
  session : next.session.isSome = handler.session.isSome
  senderSet : next.externalSenderSet = handler.externalSenderSet

theorem KeepsSession.trans {first second third : DaveHandler Session}
    (front : first.KeepsSession second) (back : second.KeepsSession third) :
    first.KeepsSession third :=
  ⟨back.session.trans front.session, back.senderSet.trans front.senderSet⟩

/-- The messages of the protocol also keep what was negotiated. -/
structure KeepsNegotiated (handler next : DaveHandler Session) : Prop
    extends KeepsSession handler next where
  required : next.encryptionRequired = handler.encryptionRequired
  prepared : next.preparedProtocolVersion = handler.preparedProtocolVersion
  userIds : next.cachedUserIds = handler.cachedUserIds

theorem KeepsNegotiated.trans {first second third : DaveHandler Session}
    (front : first.KeepsNegotiated second) (back : second.KeepsNegotiated third) :
    first.KeepsNegotiated third :=
  ⟨front.toKeepsSession.trans back.toKeepsSession, back.required.trans front.required,
    back.prepared.trans front.prepared, back.userIds.trans front.userIds⟩

theorem KeepsNegotiated.refl : handler.KeepsNegotiated handler := ⟨⟨rfl, rfl⟩, rfl, rfl, rfl⟩

theorem doProcessHandshake_keeps (data : Bytes) (isWelcome : Bool) :
    handler.KeepsNegotiated (handler.doProcessHandshake davey data isWelcome).1 := by
  unfold doProcessHandshake
  dsimp only
  split
  · exact .refl handler
  · next session found =>
      split
      · split <;> exact ⟨⟨by rw [found]; rfl, rfl⟩, rfl, rfl, rfl⟩
      · split <;> exact ⟨⟨by rw [found]; rfl, rfl⟩, rfl, rfl, rfl⟩

theorem replayHandshakes_keeps (messages : List (Bytes × Bool)) :
    handler.KeepsNegotiated (replayHandshakes davey messages handler).1 := by
  induction messages generalizing handler with
  | nil => exact .refl handler
  | cons message rest ih =>
    obtain ⟨data, isWelcome⟩ := message
    have first := doProcessHandshake_keeps davey handler data isWelcome
    simp only [replayHandshakes]
    split
    · next next problem found =>
        rw [found] at first
        exact first
    · next next _ found =>
        rw [found] at first
        exact first.trans (ih next)

theorem processHandshakeMessage_keeps (data : Bytes) (isWelcome : Bool) :
    handler.KeepsNegotiated (handler.processHandshakeMessage davey data isWelcome).1 := by
  unfold processHandshakeMessage
  dsimp only
  split
  · exact .refl handler
  · split
    · exact .refl handler
    · split
      · split <;> exact ⟨⟨rfl, rfl⟩, rfl, rfl, rfl⟩
      · exact doProcessHandshake_keeps davey handler data isWelcome

theorem processProposals_keeps (data : Bytes) :
    handler.KeepsNegotiated (handler.processProposals davey data).1 := by
  unfold processProposals
  split
  · exact .refl handler
  · split
    · exact .refl handler
    · split
      · split <;> exact ⟨⟨rfl, rfl⟩, rfl, rfl, rfl⟩
      · split
        · exact .refl handler
        · next session found => exact ⟨⟨by rw [found]; rfl, rfl⟩, rfl, rfl, rfl⟩

theorem encryptOpus_keeps (packet : Bytes) :
    handler.KeepsNegotiated (handler.encryptOpus davey packet).1 := by
  unfold encryptOpus
  split
  · exact .refl handler
  · split
    · exact .refl handler
    · split
      · exact .refl handler
      · next session found => exact ⟨⟨by rw [found]; rfl, rfl⟩, rfl, rfl, rfl⟩

end DaveHandler

/-- The public methods that change a handler. -/
inductive Call where
  | setupSession (version : UInt16)
  | reset
  | prepareTransition (transitionId protocolVersion : UInt16)
  | executeTransition (transitionId : UInt16)
  | prepareEpoch (epoch : UInt64) (protocolVersion : UInt16)
  | processExternalSender (data : Bytes)
  | processProposals (data : Bytes)
  | processWelcome (data : Bytes)
  | processCommit (data : Bytes)
  | addUsers (uids : List UInt64)
  | removeUser (uid : UInt64)
  | encryptOpus (packet : Bytes)

def perform (davey : Davey Session) (handler : DaveHandler Session) :
    Call → DaveHandler Session
  | .setupSession version => (handler.setupSession davey version).1
  | .reset => handler.reset
  | .prepareTransition transitionId version =>
    (handler.prepareTransition davey transitionId version).1
  | .executeTransition transitionId => handler.executeTransition davey transitionId
  | .prepareEpoch epoch version => (handler.prepareEpoch davey epoch version).1
  | .processExternalSender data => (handler.processExternalSender davey data).1
  | .processProposals data => (handler.processProposals davey data).1
  | .processWelcome data => (handler.processWelcome davey data).1
  | .processCommit data => (handler.processCommit davey data).1
  | .addUsers uids => handler.addUsers uids
  | .removeUser uid => handler.removeUser uid
  | .encryptOpus packet => (handler.encryptOpus davey packet).1

/-- A handler under arbitrary calls, each meeting its own `davey` behaviour. -/
def handlerSystem (Session : Type) : System (DaveHandler Session) (Davey Session × Call) where
  step handler act := some (perform act.1 handler act.2)

end KizunaLink.Dave
