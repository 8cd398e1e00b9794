import KizunaLink.Dave.ExternalSender
import KizunaLink.Dave.Negotiation

/-!
# Which transitions are announced as ready

A commit or a welcome with a nonzero transition id is answered with opcode 23 when
the handler returns its id.  The handler returns the id also when it has only
buffered the message, or dropped it, because no external sender is set.  So the
announcements are truthful exactly when every such message finds one set.

To say what a session has processed, `davey` is run together with a log of the
handshakes that its operations have accepted.
-/

set_option autoImplicit false

namespace KizunaLink.Dave

open KizunaLink.Lib List Option

variable {Session : Type}

structure Handshake where
  isWelcome : Bool
  body : Bytes
  transitionId : UInt16
  deriving DecidableEq

abbrev Logged (Session : Type) := Session × List Handshake

def Logged.record (log : List Handshake) (handshake : Handshake)
    (outcome : Session × Except String Unit) : Logged Session × Except String Unit :=
  match outcome with
  | (session, .ok ()) => ((session, log ++ [handshake]), .ok ())
  | (session, .error message) => ((session, log), .error message)

/-- The same component, with the log of each of its sessions. -/
def Davey.logged (davey : Davey Session) : Davey (Logged Session) where
  new version userId channelId :=
    (davey.new version userId channelId).map fun session => (session, [])
  reinit logged version userId channelId :=
    let (session, result) := davey.reinit logged.1 version userId channelId
    ((session, logged.2), result)
  reinitForTransition logged version userId channelId :=
    let (session, result) := davey.reinitForTransition logged.1 version userId channelId
    ((session, logged.2), result)
  createKeyPackage logged :=
    let (session, result) := davey.createKeyPackage logged.1
    ((session, logged.2), result)
  discardTransition logged transitionId := (davey.discardTransition logged.1 transitionId, logged.2)
  executeTransition logged transitionId := (davey.executeTransition logged.1 transitionId, logged.2)
  setExternalSender logged data :=
    let (session, result) := davey.setExternalSender logged.1 data
    ((session, logged.2), result)
  processProposals logged operation data userIds :=
    let (session, result) := davey.processProposals logged.1 operation data userIds
    ((session, logged.2), result)
  processWelcome logged body :=
    Logged.record logged.2 ⟨true, body, 0⟩ (davey.processWelcome logged.1 body)
  processCommit logged body :=
    Logged.record logged.2 ⟨false, body, 0⟩ (davey.processCommit logged.1 body)
  processWelcomeForTransition logged body transitionId :=
    Logged.record logged.2 ⟨true, body, transitionId⟩
      (davey.processWelcomeForTransition logged.1 body transitionId)
  processCommitForTransition logged body transitionId :=
    Logged.record logged.2 ⟨false, body, transitionId⟩
      (davey.processCommitForTransition logged.1 body transitionId)
  isReady logged := davey.isReady logged.1
  encryptOpus logged packet :=
    let (session, result) := davey.encryptOpus logged.1 packet
    ((session, logged.2), result)

/-- The gateway under arbitrary messages, each meeting its own `davey` behaviour. -/
def daveGatewaySystem (Session : Type) :
    System (DaveGateway (Logged Session)) (Davey Session × GatewayAct) where
  step gateway act := gateway.step act.1.logged act.2

namespace DaveHandler

variable {data : Bytes} {isWelcome : Bool} {davey : Davey Session}

theorem processHandshakeMessage_ok_iff (davey : Davey Session) (handler : DaveHandler Session)
    (data : Bytes) (isWelcome : Bool) (transitionId : UInt16) :
    (handler.processHandshakeMessage davey data isWelcome).2 = .ok transitionId ↔
      2 ≤ data.length ∧ data.length ≤ maxDaveControlPayloadBytes ∧
        transitionIdOf data = transitionId ∧
        (handler.externalSenderSet = true →
          (handler.doProcessHandshake davey data isWelcome).2 = .ok ()) := by
  unfold processHandshakeMessage
  dsimp only
  by_cases short : data.length < 2
  · simp [short, Nat.not_le.mpr short]
  · by_cases long : maxDaveControlPayloadBytes < data.length
    · simp [short, long, Nat.not_le.mpr long]
    · rw [if_neg short, if_neg long]
      have sized : 2 ≤ data.length ∧ data.length ≤ maxDaveControlPayloadBytes := by omega
      cases set : handler.externalSenderSet with
      | false =>
        rw [if_pos rfl]
        split <;> simp [sized]
      | true =>
        simp only [Bool.true_eq_false, if_false, sized, true_and, forall_const]
        cases (handler.doProcessHandshake davey data isWelcome).2 with
        | error _ | ok _ => simp [Except.map]

theorem processHandshakeMessage_unset {handler : DaveHandler Session}
    (unset : handler.externalSenderSet = false) :
    (handler.processHandshakeMessage davey data isWelcome).1.session = handler.session := by
  unfold processHandshakeMessage
  dsimp only
  split
  · rfl
  · split
    · rfl
    · split <;> rfl

theorem processHandshakeMessage_set {handler : DaveHandler Session}
    (set : handler.externalSenderSet = true) (sized : 2 ≤ data.length)
    (bounded : data.length ≤ maxDaveControlPayloadBytes) :
    (handler.processHandshakeMessage davey data isWelcome).1 =
      (handler.doProcessHandshake davey data isWelcome).1 := by
  simp [processHandshakeMessage, Nat.not_lt.mpr sized, Nat.not_lt.mpr bounded, set]

theorem doProcessHandshake_logged {handler : DaveHandler (Logged Session)} {logged : Logged Session}
    (present : handler.session = some logged) (nonzero : transitionIdOf data ≠ 0)
    (accepted : (handler.doProcessHandshake davey.logged data isWelcome).2 = .ok ()) :
    ∃ after, (handler.doProcessHandshake davey.logged data isWelcome).1.session =
      some (after, logged.2 ++ [⟨isWelcome, data.drop 2, transitionIdOf data⟩]) := by
  have call : (if isWelcome then
        davey.logged.processWelcomeForTransition logged (data.drop 2) (transitionIdOf data)
      else davey.logged.processCommitForTransition logged (data.drop 2) (transitionIdOf data)) =
      Logged.record logged.2 ⟨isWelcome, data.drop 2, transitionIdOf data⟩
        (if isWelcome then
          davey.processWelcomeForTransition logged.1 (data.drop 2) (transitionIdOf data)
        else davey.processCommitForTransition logged.1 (data.drop 2) (transitionIdOf data)) := by
    cases isWelcome <;> rfl
  unfold doProcessHandshake at accepted ⊢
  simp only [present, nonzero, if_false, call] at accepted ⊢
  generalize (if isWelcome then
      davey.processWelcomeForTransition logged.1 (data.drop 2) (transitionIdOf data)
    else davey.processCommitForTransition logged.1 (data.drop 2) (transitionIdOf data)) = outcome
    at accepted ⊢
  obtain ⟨after, result⟩ := outcome
  cases result with
  | error message => cases accepted
  | ok _ => exact ⟨after, rfl⟩

end DaveHandler

namespace DaveGateway

variable {davey : Davey Session} {gateway : DaveGateway Session}

theorem trySend_sent (gateway : DaveGateway Session) (frame : Frame) :
    (gateway.trySend frame).sent =
      gateway.sent ++ if gateway.hasRoom then [frame] else [] := by
  unfold trySend
  split <;> simp_all

def Announces (gateway next : DaveGateway Session) (transitionId : UInt16) : Prop :=
  .json 23 transitionId ∈ next.sent.drop gateway.sent.length

theorem resetDave_sent (davey : Davey Session) (gateway : DaveGateway Session)
    (transitionId : UInt16) :
    ∃ frames, (gateway.resetDave davey transitionId).sent = gateway.sent ++ frames ∧
      ∀ other, .json 23 other ∉ frames := by
  unfold resetDave
  dsimp only
  split
  · refine ⟨_, by rw [trySend_sent, trySend_sent, append_assoc], ?_⟩
    intro other member
    rcases mem_append.mp member with first | second
    · split at first <;> simp at first
    · split at second <;> simp at second
  · refine ⟨_, trySend_sent _ _, ?_⟩
    intro other member
    split at member <;> simp at member

theorem handshake_method (davey : Davey Session) (gateway : DaveGateway Session) (data : Bytes)
    (isWelcome : Bool) :
    (if isWelcome then gateway.dave.processWelcome davey data
      else gateway.dave.processCommit davey data) =
      gateway.dave.processHandshakeMessage davey data isWelcome := by
  cases isWelcome <;> rfl

theorem onHandshake_dave {data : Bytes} {isWelcome : Bool} {transitionId : UInt16}
    (returned : (gateway.dave.processHandshakeMessage davey data isWelcome).2 = .ok transitionId) :
    (gateway.onHandshake davey data isWelcome).dave =
      (gateway.dave.processHandshakeMessage davey data isWelcome).1 := by
  unfold onHandshake
  rw [handshake_method]
  cases outcome : gateway.dave.processHandshakeMessage davey data isWelcome with
  | mk dave result =>
    rw [outcome] at returned
    cases returned
    dsimp only
    split
    · rw [trySend_dave]
    · rfl

theorem onHandshake_announces_iff (davey : Davey Session) (gateway : DaveGateway Session)
    (data : Bytes) (isWelcome : Bool) (transitionId : UInt16) :
    gateway.Announces (gateway.onHandshake davey data isWelcome) transitionId ↔
      transitionId ≠ 0 ∧ gateway.hasRoom = true ∧
        (gateway.dave.processHandshakeMessage davey data isWelcome).2 = .ok transitionId := by
  unfold onHandshake Announces
  rw [handshake_method]
  cases outcome : gateway.dave.processHandshakeMessage davey data isWelcome with
  | mk dave result =>
    cases result with
    | error message =>
      obtain ⟨frames, sent, none⟩ := resetDave_sent davey { gateway with dave }
        (if 2 ≤ data.length then DaveHandler.transitionIdOf data else 0)
      dsimp only
      rw [sent]
      simp [none]
    | ok returned =>
      dsimp only
      have inj : Except.ok returned = (.ok transitionId : Except String UInt16) ↔
          returned = transitionId := by simp
      rw [inj]
      by_cases zero : returned = 0
      · rw [if_neg (not_not.mpr zero)]
        simp only [List.drop_length, not_mem_nil, false_iff]
        rintro ⟨nonzero, -, rfl⟩
        exact nonzero zero
      · rw [if_pos zero, trySend_sent, drop_left]
        have room : ({ gateway with dave } : DaveGateway Session).hasRoom = gateway.hasRoom := rfl
        rw [room]
        cases gateway.hasRoom with
        | false => simp
        | true =>
          simp only [if_true, mem_singleton, Frame.json.injEq, true_and]
          constructor
          · rintro rfl
            exact ⟨zero, rfl⟩
          · rintro ⟨-, rfl⟩
            rfl

end DaveGateway

/-! ## Runs -/

def GatewayAct.handshake : GatewayAct → Option (Bytes × Bool)
  | .receive (.binary (_ :: _ :: op :: data)) =>
    if op = 29 then some (data, false) else if op = 30 then some (data, true) else none
  | _ => none

/-- A commit or welcome that this step announces as ready has been accepted, in this step,
by the session that was there: it is the new last entry of the session's log. -/
def Truthful (gateway : DaveGateway (Logged Session)) (act : Davey Session × GatewayAct) : Prop :=
  ∀ data isWelcome, act.2.handshake = some (data, isWelcome) →
    ∀ next, gateway.step act.1.logged act.2 = some next →
      ∀ transitionId, transitionId ≠ 0 → gateway.Announces next transitionId →
        ∃ session after log, gateway.dave.session = some (session, log) ∧
          next.dave.session =
            some (after, log ++ [⟨isWelcome, data.drop 2, transitionId⟩])

/-- A commit or welcome of a nonzero transition that is read, has a size the handler
takes, and whose answer finds room. -/
def DaveGateway.canAnnounce (gateway : DaveGateway Session) (data : Bytes) : Bool :=
  gateway.receives && decide (2 ≤ data.length) &&
    decide (data.length ≤ maxDaveControlPayloadBytes) &&
    DaveHandler.transitionIdOf data != 0 && gateway.hasRoom

/-- Such a message comes when an external sender is set. -/
def SenderKnown (gateway : DaveGateway (Logged Session)) (act : Davey Session × GatewayAct) :
    Prop :=
  ∀ message ∈ act.2.handshake, gateway.canAnnounce message.1 = true →
    gateway.dave.externalSenderSet = true

instance (gateway : DaveGateway (Logged Session)) (act : Davey Session × GatewayAct) :
    Decidable (SenderKnown gateway act) :=
  inferInstanceAs (Decidable (∀ message ∈ act.2.handshake, _ → _))

theorem DaveGateway.canAnnounce_iff (gateway : DaveGateway Session) (data : Bytes) :
    gateway.canAnnounce data = true ↔
      gateway.receives = true ∧ 2 ≤ data.length ∧ data.length ≤ maxDaveControlPayloadBytes ∧
        DaveHandler.transitionIdOf data ≠ 0 ∧ gateway.hasRoom = true := by
  simp [canAnnounce, and_assoc]

theorem handshake_step (davey : Davey Session) (gateway : DaveGateway Session) {act : GatewayAct}
    {data : Bytes} {isWelcome : Bool} (handshake : act.handshake = some (data, isWelcome)) :
    gateway.step davey act =
      if gateway.receives then some (gateway.onHandshake davey data isWelcome) else none := by
  unfold GatewayAct.handshake at handshake
  split at handshake
  · next first second op rest =>
      split at handshake
      · next commit =>
          cases handshake
          cases commit
          rfl
      · obtain ⟨welcome, ⟨⟩⟩ := ite_none_right_eq_some.mp handshake
        cases welcome
        rfl
  · cases handshake

theorem truthful_iff_senderKnown {gateway : DaveGateway (Logged Session)} (bound : gateway.Bound)
    (act : Davey Session × GatewayAct) : Truthful gateway act ↔ SenderKnown gateway act := by
  obtain ⟨davey, act⟩ := act
  constructor
  · rintro truthful ⟨data, isWelcome⟩ handshake announcable
    obtain ⟨receives, sized, bounded, nonzero, room⟩ :=
      (gateway.canAnnounce_iff data).mp announcable
    by_contra notSet
    have unset : gateway.dave.externalSenderSet = false := Bool.not_eq_true _ ▸ notSet
    have stepped := (handshake_step davey.logged gateway handshake).trans (if_pos receives)
    have returned := (gateway.dave.processHandshakeMessage_ok_iff davey.logged data isWelcome _).mpr
      ⟨sized, bounded, rfl, fun set => absurd set notSet⟩
    have announces := (gateway.onHandshake_announces_iff davey.logged data isWelcome _).mpr
      ⟨nonzero, room, returned⟩
    obtain ⟨session, after, log, present, processed⟩ :=
      truthful data isWelcome handshake _ stepped _ nonzero announces
    -- The message was buffered or dropped, and the log is the one it was.
    rw [DaveGateway.onHandshake_dave returned, DaveHandler.processHandshakeMessage_unset unset,
      present] at processed
    simp at processed
  · intro known data isWelcome handshake next stepped transitionId nonzero announces
    rw [handshake_step davey.logged gateway handshake] at stepped
    obtain ⟨receives, rfl⟩ := ite_some_none_eq_some.mp stepped
    obtain ⟨-, room, returned⟩ :=
      (gateway.onHandshake_announces_iff davey.logged data isWelcome transitionId).mp announces
    obtain ⟨sized, bounded, rfl, accepted⟩ :=
      (gateway.dave.processHandshakeMessage_ok_iff davey.logged data isWelcome transitionId).mp
        returned
    have set := known (data, isWelcome) handshake
      ((gateway.canAnnounce_iff data).mpr ⟨receives, sized, bounded, nonzero, room⟩)
    obtain ⟨⟨session, log⟩, present⟩ := isSome_iff_exists.mp (bound set)
    obtain ⟨after, processed⟩ :=
      DaveHandler.doProcessHandshake_logged present nonzero (accepted set)
    refine ⟨session, after, log, present, ?_⟩
    rw [DaveGateway.onHandshake_dave returned,
      DaveHandler.processHandshakeMessage_set set sized bounded, processed]

/-- In every sequence of gateway messages, with every behaviour of `davey`: each
announcement that answers a commit or a welcome is truthful exactly when each of these
messages that can be announced comes after the external sender. -/
theorem readiness_truthful_iff (userId channelId : UInt64)
    (acts : List (Davey Session × GatewayAct)) :
    (daveGatewaySystem Session).Meets Truthful (DaveGateway.new userId channelId) acts ↔
      (daveGatewaySystem Session).Meets SenderKnown (DaveGateway.new userId channelId) acts := by
  have start : (DaveGateway.new userId channelId : DaveGateway (Logged Session)).Bound := by
    intro set
    cases set
  exact (daveGatewaySystem Session).meets_iff_of_invariant Truthful SenderKnown DaveGateway.Bound
    (fun _ act bound => truthful_iff_senderKnown bound act)
    (fun bound => bound.step) acts start

def describedSession : GatewayMessage :=
  .sessionDescription
    { secretKey := some (List.replicate 32 (some 0)), daveProtocolVersion := some (some 1) } true

def acceptedMessages (messages : List GatewayMessage) : List (Davey Unit × GatewayAct) :=
  messages.map fun message => (acceptingDavey, .receive message)

/-- The external sender, and then a commit for transition five. -/
theorem commit_after_sender_is_truthful :
    (daveGatewaySystem Unit).Meets Truthful (DaveGateway.new 1 1)
        (acceptedMessages [describedSession, .binary [0, 1, 25, 7], .binary [0, 2, 29, 0, 5]]) ∧
      ((daveGatewaySystem Unit).run (DaveGateway.new 1 1)
        (acceptedMessages [describedSession, .binary [0, 1, 25, 7], .binary [0, 2, 29, 0, 5]])).map
          (fun gateway => (gateway.sent, gateway.dave.session)) =
        some ([.binary 26 [], .json 23 5], some ((), [⟨false, [], 5⟩])) :=
  ⟨(readiness_truthful_iff 1 1 _).mpr (by decide), by decide⟩

/-- Without an external sender the commit is only buffered, and announced all the same. -/
theorem buffered_commit_is_announced :
    ((daveGatewaySystem Unit).run (DaveGateway.new 1 1)
      (acceptedMessages [describedSession, .binary [0, 1, 29, 0, 5]])).map
        (fun gateway => (gateway.sent, gateway.dave.session, gateway.dave.pendingHandshake)) =
      some ([.binary 26 [], .json 23 5], some ((), []), [([0, 5], false)]) := rfl

/-- Whatever comes in and however `davey` behaves, a set external sender belongs to a session
that is there. -/
theorem sender_has_session (userId channelId : UInt64)
    (acts : List (Davey Session × GatewayAct)) (gateway : DaveGateway (Logged Session))
    (reached : (daveGatewaySystem Session).run (DaveGateway.new userId channelId) acts =
      some gateway) : gateway.dave.SenderHasSession :=
  (daveGatewaySystem Session).run_invariant_of_step DaveGateway.Bound (fun bound => bound.step)
    acts (fun set => by cases set) reached

theorem sender_has_session_set :
    ∃ gateway, (daveGatewaySystem Unit).run (DaveGateway.new 1 1)
        (acceptedMessages [describedSession, .binary [0, 1, 25, 7]]) = some gateway ∧
      gateway.dave.session.isSome = true :=
  ⟨_, rfl, sender_has_session 1 1
    (acceptedMessages [describedSession, .binary [0, 1, 25, 7]]) _ rfl rfl⟩

end KizunaLink.Dave
