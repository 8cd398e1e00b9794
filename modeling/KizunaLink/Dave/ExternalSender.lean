import KizunaLink.Dave.Gateway

/-!
# The external sender and its session

Only a session takes an external sender, and what ends the session forgets the
sender.  So whenever the handler says that one is set, there is a session for the
messages that are no longer buffered.
-/

set_option autoImplicit false

namespace KizunaLink.Dave

open KizunaLink.Lib Option

variable {Session : Type}

namespace DaveHandler

/-- A set external sender was given to a session that is still there. -/
def SenderHasSession (handler : DaveHandler Session) : Prop :=
  handler.externalSenderSet = true → handler.session.isSome = true

theorem KeepsSession.senderHasSession {handler next : DaveHandler Session}
    (keeps : handler.KeepsSession next) (holds : handler.SenderHasSession) :
    next.SenderHasSession := by
  intro set
  rw [keeps.session]
  exact holds (keeps.senderSet ▸ set)

variable (davey : Davey Session) (handler : DaveHandler Session)

theorem openSession_keeps (version : UInt16) {next : DaveHandler Session} {message : String}
    (failed : openSession davey handler version = (next, .error message)) :
    handler.KeepsSession next := by
  unfold openSession at failed
  split at failed
  · next session found =>
      obtain ⟨rfl, -⟩ := Prod.mk.inj failed
      exact ⟨by rw [found]; rfl, rfl⟩
  · next missing =>
      split at failed
      · cases failed
      · cases failed
        exact ⟨rfl, rfl⟩

theorem setupSession_senderHasSession (holds : handler.SenderHasSession) (version : UInt16) :
    (handler.setupSession davey version).1.SenderHasSession := by
  unfold setupSession
  split
  · intro set
    cases set
  · split
    · exact holds
    · split
      · next opened message failed => exact (openSession_keeps _ _ _ failed).senderHasSession holds
      · intro _
        rfl

theorem executeTransition_keeps (transitionId : UInt16) :
    handler.KeepsSession (handler.executeTransition davey transitionId) := by
  unfold executeTransition
  split
  · exact ⟨rfl, rfl⟩
  · exact ⟨isSome_map, rfl⟩

theorem prepareTransition_keeps (transitionId version : UInt16) :
    handler.KeepsSession (handler.prepareTransition davey transitionId version).1 := by
  unfold prepareTransition
  split
  · exact ⟨rfl, rfl⟩
  · dsimp only
    split
    · have recorded : handler.KeepsSession { handler with
          pendingTransitions :=
            Function.update handler.pendingTransitions transitionId (some version) } := ⟨rfl, rfl⟩
      exact recorded.trans (executeTransition_keeps davey _ 0)
    · exact ⟨rfl, rfl⟩

theorem prepareEpoch_senderHasSession (holds : handler.SenderHasSession) (epoch : UInt64)
    (version : UInt16) : (handler.prepareEpoch davey epoch version).1.SenderHasSession := by
  have setup := setupSession_senderHasSession davey handler holds version
  unfold prepareEpoch
  split
  · exact holds
  · split
    · split
      · next next keyPackage found =>
          rw [found] at setup
          exact setup
      · next next message found =>
          rw [found] at setup
          exact setup
    · split
      · exact holds
      · split <;> exact holds

theorem processExternalSender_senderHasSession (holds : handler.SenderHasSession) (data : Bytes) :
    (handler.processExternalSender davey data).1.SenderHasSession := by
  unfold processExternalSender
  split
  · exact holds
  · split
    · exact holds
    · split
      · exact holds
      · next session found =>
          split
          · intro _
            rfl
          · next touched _ accepted =>
            dsimp only
            split
            · intro _
              rfl
            · have keeps := replayHandshakes_keeps davey
                { handler with
                  session := some (replayProposals davey handler.cachedUserIds
                    handler.pendingProposals touched []).1
                  externalSenderSet := true
                  savedExternalSender := some data
                  pendingProposals := []
                  pendingHandshake := [] } handler.pendingHandshake
              exact keeps.senderHasSession fun _ => rfl

theorem removeUser_keeps (userId : UInt64) : handler.KeepsSession (handler.removeUser userId) := by
  unfold removeUser
  split <;> exact ⟨rfl, rfl⟩

end DaveHandler

/-! ## The gateway -/

namespace DaveGateway

variable {davey : Davey Session} {gateway : DaveGateway Session}

theorem trySend_dave (gateway : DaveGateway Session) (frame : Frame) :
    (gateway.trySend frame).dave = gateway.dave := by
  unfold trySend
  split <;> rfl

/-- The handlers keep a set external sender with a session. -/
def Bound (gateway : DaveGateway Session) : Prop := gateway.dave.SenderHasSession

theorem Bound.trySend (bound : gateway.Bound) (frame : Frame) : (gateway.trySend frame).Bound := by
  rw [Bound, trySend_dave]
  exact bound

theorem Bound.resetDave (davey : Davey Session) (gateway : DaveGateway Session)
    (transitionId : UInt16) : (gateway.resetDave davey transitionId).Bound := by
  have fresh : gateway.dave.reset.SenderHasSession := by
    intro set
    cases set
  have setup := DaveHandler.setupSession_senderHasSession davey _ fresh daveInitialVersion
  unfold DaveGateway.resetDave
  dsimp only
  rw [trySend_dave]
  dsimp only
  split
  · next dave keyPackage found =>
      rw [found] at setup
      refine Bound.trySend ?_ _
      exact setup
  · next dave message found =>
      rw [found] at setup
      exact setup

section

variable (bound : gateway.Bound)
include bound

theorem Bound.trySend_all (frames : List Bytes) :
    (frames.foldl (fun gateway response =>
      gateway.trySend (.binary 28 response)) gateway).Bound := by
  induction frames generalizing gateway with
  | nil => exact bound
  | cons response rest ih => exact ih (bound.trySend _)

theorem Bound.onExternalSender (data : Bytes) : (gateway.onExternalSender davey data).Bound := by
  have processed := DaveHandler.processExternalSender_senderHasSession davey _ bound data
  unfold DaveGateway.onExternalSender
  split
  · next dave responses found =>
      rw [found] at processed
      refine Bound.trySend_all ?_ responses
      exact processed
  · exact Bound.resetDave _ _ _

theorem Bound.onProposals (data : Bytes) : (gateway.onProposals davey data).Bound := by
  have processed :=
    (DaveHandler.processProposals_keeps davey gateway.dave data).senderHasSession bound
  unfold DaveGateway.onProposals
  split
  · next dave commitWelcome found =>
      rw [found] at processed
      refine Bound.trySend ?_ _
      exact processed
  · next dave found =>
      rw [found] at processed
      exact processed
  · exact Bound.resetDave _ _ _

theorem Bound.onHandshake (data : Bytes) (isWelcome : Bool) :
    (gateway.onHandshake davey data isWelcome).Bound := by
  have processed : (if isWelcome then gateway.dave.processWelcome davey data
      else gateway.dave.processCommit davey data).1.SenderHasSession := by
    cases isWelcome <;>
      exact (DaveHandler.processHandshakeMessage_keeps davey gateway.dave data _).senderHasSession
        bound
  unfold DaveGateway.onHandshake
  split
  · next dave transitionId found =>
      rw [found] at processed
      split
      · refine Bound.trySend ?_ _
        exact processed
      · exact processed
  · exact Bound.resetDave _ _ _

theorem Bound.handleBinary (bin : Bytes) : (gateway.handleBinary davey bin).Bound := by
  unfold DaveGateway.handleBinary
  split
  · split
    · exact bound.onExternalSender _
    · split
      · exact bound.onProposals _
      · split
        · exact bound.onHandshake _ _
        · split
          · exact bound.onHandshake _ _
          · exact bound
  all_goals exact bound

theorem Bound.prepareTransition (transitionId version : UInt16) :
    ({ gateway with
      dave := (gateway.dave.prepareTransition davey transitionId version).1 } :
        DaveGateway Session).Bound :=
  (DaveHandler.prepareTransition_keeps davey gateway.dave transitionId version).senderHasSession
    bound

theorem Bound.onPrepareEpoch (epoch : Option UInt64) (protocolVersion transitionId : Option Nat) :
    (gateway.onPrepareEpoch davey epoch protocolVersion transitionId).Bound := by
  cases epoch with
  | none => exact bound
  | some number =>
    cases parsed : parseU16Field protocolVersion with
    | none => simpa only [DaveGateway.onPrepareEpoch, parsed] using bound
    | some version =>
      have prepared := DaveHandler.prepareEpoch_senderHasSession davey _ bound number version
      simp only [DaveGateway.onPrepareEpoch, parsed]
      split
      · next dave package found =>
          rw [found] at prepared
          refine Bound.trySend ?_ _
          exact prepared
      · next dave found =>
          rw [found] at prepared
          refine Bound.trySend ?_ _
          exact prepared
      · next dave found =>
          rw [found] at prepared
          exact prepared

theorem Bound.setUpDave (payload : Voice.DescriptionPayload)
    (version : UInt16) : (gateway.setUpDave davey payload version).Bound := by
  have setup := DaveHandler.setupSession_senderHasSession davey _ bound version
  unfold DaveGateway.setUpDave
  split
  · exact bound
  · split
    · next dave keyPackage found =>
        rw [found] at setup
        split
        · refine Bound.trySend ?_ _
          exact setup
        · exact setup
    · next dave message found =>
        rw [found] at setup
        split
        · intro set
          cases set
        · exact setup

theorem Bound.handle (message : GatewayMessage) : (gateway.handle davey message).Bound := by
  cases message with
  | binary bin => exact bound.handleBinary bin
  | sessionDescription payload udpReady =>
    simp only [DaveGateway.handle, onSessionDescription]
    split
    · exact bound
    · split
      · split
        · exact bound
        · exact bound.setUpDave payload _
      · exact bound
  | clientConnect userIds =>
    simp only [DaveGateway.handle]
    split <;> exact bound
  | clientDisconnect userId =>
    cases userId with
    | none => exact bound
    | some userId =>
      exact (DaveHandler.removeUser_keeps gateway.dave userId).senderHasSession bound
  | davePrepareTransition transitionId version =>
    simp only [DaveGateway.handle, onPrepareTransition]
    split
    · split
      · exact (bound.prepareTransition _ _).trySend _
      · exact bound.prepareTransition _ _
    all_goals exact bound
  | daveExecuteTransition transitionId =>
    simp only [DaveGateway.handle, onExecuteTransition]
    split
    · exact (DaveHandler.executeTransition_keeps davey gateway.dave _).senderHasSession bound
    · exact bound
  | davePrepareEpoch epoch version transitionId =>
    exact bound.onPrepareEpoch epoch version transitionId
  | mlsAnnounceCommitTransition transitionId version =>
    simp only [DaveGateway.handle, onMlsTransition]
    split
    · split
      · exact (bound.prepareTransition _ _).trySend _
      · exact bound.prepareTransition _ _
    all_goals exact bound
  | mlsInvalidCommitWelcome => exact Bound.resetDave davey gateway 0
  | other => exact bound

theorem Bound.step {act : GatewayAct} {next : DaveGateway Session}
    (stepped : gateway.step davey act = some next) : next.Bound := by
  have forgotten : gateway.dave.reset.SenderHasSession := by
    intro set
    cases set
  cases act with
  | receive message =>
    obtain ⟨-, rfl⟩ := ite_some_none_eq_some.mp stepped
    exact bound.handle message
  | encryptOpus packet =>
    cases stepped
    exact (DaveHandler.encryptOpus_keeps davey gateway.dave packet).senderHasSession bound
  | otherFrame | close _ =>
    obtain ⟨-, rfl⟩ := ite_some_none_eq_some.mp stepped
    exact bound
  | write =>
    simp only [DaveGateway.step] at stepped
    split at stepped
    · obtain ⟨-, rfl⟩ := ite_some_none_eq_some.mp stepped
      exact bound
    · cases stepped
  | writerExits | cancel =>
    cases stepped
    exact bound
  | redial success =>
    simp only [DaveGateway.step] at stepped
    split at stepped
    · cases stepped
      split
      · exact bound
      · exact forgotten
    · cases stepped
      split <;> exact forgotten
    · cases stepped
    · cases stepped

end

end DaveGateway

end KizunaLink.Dave
