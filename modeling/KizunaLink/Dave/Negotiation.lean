import KizunaLink.Dave.Handler

/-!
# Negotiated encryption over arbitrary call histories

A negotiation event is a version that `setup_session` was asked for or that a
pending transition put in force.  The handler's encryption requirement is
exactly the last such event, whatever `davey` does: failed setups and resets
keep it.  Plaintext is therefore possible only before any event or after an
event with version zero.

The protocol version reported to clients does not follow the events.  A welcome
or commit for transition zero installs the prepared version without touching
the requirement, so after an executed downgrade a late one leaves a nonzero
version in force on a handler that sends plaintext.
-/

set_option autoImplicit false

namespace KizunaLink.Dave

open KizunaLink.Lib

variable {Session : Type}

/-- The version this call negotiates, if it negotiates at all. -/
def negotiated (handler : DaveHandler Session) : Call → Option UInt16
  | .setupSession version => some version
  | .executeTransition transitionId => handler.pendingTransitions transitionId
  | .prepareTransition transitionId version =>
    if version ≠ 0 ∧ version ≠ daveInitialVersion then none
    else if transitionId = 0 then some version
    else none
  | .prepareEpoch epoch version =>
    if version = 0 ∨ daveInitialVersion < version then none
    else if epoch = 1 then some version
    else none
  | _ => none

def negotiations (handler : DaveHandler Session) : List (Davey Session × Call) → List UInt16
  | [] => []
  | act :: rest =>
    (negotiated handler act.2).toList ++ negotiations (perform act.1 handler act.2) rest

/-- No nonzero version was ever negotiated, or the most recent one was zero. -/
def PlaintextNegotiated (events : List UInt16) : Prop :=
  (∀ version ∈ events, version = 0) ∨ events.getLast? = some 0

/-- The requirement left by an event, or by its absence. -/
def requirement (before : Bool) : Option UInt16 → Bool
  | none => before
  | some version => decide (version ≠ 0)

namespace DaveHandler

variable (davey : Davey Session) (handler : DaveHandler Session) (version : UInt16) (data : Bytes)

theorem openSession_encryptionRequired :
    (handler.openSession davey version).1.encryptionRequired =
      handler.encryptionRequired := by
  unfold openSession
  cases handler.session with
  | some session => rfl
  | none =>
    cases davey.new version handler.userId handler.channelId with
    | ok _ | error _ => rfl

theorem setupSession_encryptionRequired :
    (handler.setupSession davey version).1.encryptionRequired = decide (version ≠ 0) := by
  unfold setupSession
  by_cases zero : version = 0
  · simp [zero]
  · rw [if_neg zero]
    by_cases unsupported : version ≠ daveInitialVersion
    · simp [unsupported, zero]
    · rw [if_neg unsupported]
      have kept := openSession_encryptionRequired davey
        { handler with encryptionRequired := true } version
      -- The requirement is recorded before the session is opened, so a failed
      -- opening already carries it.
      cases opening : openSession davey { handler with encryptionRequired := true } version with
      | mk opened result =>
        rw [opening] at kept
        cases result with
        | error _ | ok _ => simpa [zero] using kept

theorem executeTransition_encryptionRequired (transitionId : UInt16) :
    (handler.executeTransition davey transitionId).encryptionRequired =
      requirement handler.encryptionRequired (handler.pendingTransitions transitionId) := by
  unfold executeTransition
  cases handler.pendingTransitions transitionId with
  | none | some _ => rfl

theorem processExternalSender_encryptionRequired :
    (handler.processExternalSender davey data).1.encryptionRequired =
      handler.encryptionRequired := by
  unfold processExternalSender
  split
  · rfl
  · split
    · rfl
    · cases handler.session with
      | none => rfl
      | some session =>
        dsimp only
        split
        · rfl
        · split
          · rfl
          · exact (replayHandshakes_keeps davey _ _).required

theorem removeUser_encryptionRequired (uid : UInt64) :
    (handler.removeUser uid).encryptionRequired = handler.encryptionRequired := by
  unfold removeUser
  split <;> rfl

theorem prepareTransition_encryptionRequired (transitionId version : UInt16) :
    (handler.prepareTransition davey transitionId version).1.encryptionRequired =
      requirement handler.encryptionRequired
        (negotiated handler (.prepareTransition transitionId version)) := by
  simp only [prepareTransition, negotiated]
  by_cases unsupported : version ≠ 0 ∧ version ≠ daveInitialVersion
  · rw [if_pos unsupported, if_pos unsupported]
    rfl
  · rw [if_neg unsupported, if_neg unsupported]
    by_cases immediate : transitionId = 0
    · rw [if_pos immediate, if_pos immediate]
      -- The transition just recorded is the one that is executed.
      simp [executeTransition_encryptionRequired, immediate, requirement]
    · rw [if_neg immediate, if_neg immediate]
      rfl

theorem prepareEpoch_encryptionRequired (epoch : UInt64) (version : UInt16) :
    (handler.prepareEpoch davey epoch version).1.encryptionRequired =
      requirement handler.encryptionRequired
        (negotiated handler (.prepareEpoch epoch version)) := by
  simp only [prepareEpoch, negotiated]
  by_cases unsupported : version = 0 ∨ daveInitialVersion < version
  · rw [if_pos unsupported, if_pos unsupported]
    rfl
  · rw [if_neg unsupported, if_neg unsupported]
    by_cases create : epoch = 1
    · rw [if_pos create, if_pos create]
      have setup := setupSession_encryptionRequired davey handler version
      cases setupRun : handler.setupSession davey version with
      | mk next result =>
        rw [setupRun] at setup
        cases result with
        | ok _ | error _ => exact setup
    · rw [if_neg create, if_neg create]
      repeat' split
      all_goals rfl

end DaveHandler

variable (davey : Davey Session) (handler : DaveHandler Session)

theorem perform_encryptionRequired (call : Call) :
    (perform davey handler call).encryptionRequired =
      requirement handler.encryptionRequired (negotiated handler call) := by
  cases call with
  | setupSession version => exact handler.setupSession_encryptionRequired davey version
  | reset | addUsers _ => rfl
  | prepareTransition transitionId version =>
    exact handler.prepareTransition_encryptionRequired davey transitionId version
  | executeTransition transitionId =>
    exact handler.executeTransition_encryptionRequired davey transitionId
  | prepareEpoch epoch version =>
    exact handler.prepareEpoch_encryptionRequired davey epoch version
  | processExternalSender data =>
    exact handler.processExternalSender_encryptionRequired davey data
  | processProposals data => exact (handler.processProposals_keeps davey data).required
  | processWelcome data =>
    exact (handler.processHandshakeMessage_keeps davey data true).required
  | processCommit data =>
    exact (handler.processHandshakeMessage_keeps davey data false).required
  | removeUser uid => exact handler.removeUser_encryptionRequired uid
  | encryptOpus packet => exact (handler.encryptOpus_keeps davey packet).required

theorem requirement_or (before : Bool) (later earlier : Option UInt16) :
    requirement before (later.or earlier) = requirement (requirement before earlier) later := by
  cases later with
  | none | some _ => rfl

theorem run_encryptionRequired (acts : List (Davey Session × Call))
    (handler final : DaveHandler Session)
    (reached : (handlerSystem Session).run handler acts = some final) :
    final.encryptionRequired =
      requirement handler.encryptionRequired (negotiations handler acts).getLast? := by
  induction acts generalizing handler with
  | nil =>
    cases reached
    rfl
  | cons act rest ih =>
    obtain ⟨next, stepped, tailRun⟩ := (handlerSystem Session).run_cons_some reached
    cases stepped
    have headEvent : (negotiated handler act.2).toList.getLast? =
        negotiated handler act.2 := by
      cases negotiated handler act.2 <;> rfl
    rw [ih _ tailRun, perform_encryptionRequired, negotiations, List.getLast?_append,
      headEvent, requirement_or]

theorem plaintextNegotiated_iff (events : List UInt16) :
    PlaintextNegotiated events ↔ requirement false events.getLast? = false := by
  unfold PlaintextNegotiated
  cases last : events.getLast? with
  | none =>
    have empty : events = [] := List.getLast?_eq_none_iff.mp last
    simp [empty, requirement]
  | some version =>
    have member : version ∈ events := List.mem_of_getLast? last
    constructor
    · rintro (allZero | lastZero)
      · simp [requirement, allZero version member]
      · simp [requirement, Option.some.inj lastZero]
    · intro off
      have zero : version = 0 := by simpa [requirement] using off
      exact Or.inr (by rw [zero])

theorem encryptOpus_required (packet : Bytes) (required : handler.encryptionRequired = true) :
    (∃ message, (handler.encryptOpus davey packet).2 = .error message) ∨
      ∃ session, handler.session = some session ∧ davey.isReady session = true ∧
        (handler.encryptOpus davey packet).2 = (davey.encryptOpus session packet).2 := by
  unfold DaveHandler.encryptOpus
  rw [if_neg (by simp [required])]
  by_cases blocked : handler.canSendMedia davey = false
  · rw [if_pos blocked]
    exact Or.inl ⟨_, rfl⟩
  · rw [if_neg blocked]
    cases present : handler.session with
    | none => exact Or.inl ⟨_, rfl⟩
    | some session =>
      -- The gate is open although encryption is required, so the session is ready.
      have ready : davey.isReady session = true := by
        simp only [DaveHandler.canSendMedia, required, present, Option.any_some,
          Bool.not_true, Bool.false_or, Bool.not_eq_false, Bool.and_eq_true] at blocked
        exact blocked.2
      exact Or.inr ⟨session, rfl, ready, rfl⟩

/-- For every history of calls and every behaviour of `davey`: the packet is
passed through exactly when plaintext is what was negotiated last, and otherwise
the result is an error or the ciphertext of a ready session. -/
theorem encryptOpus_plaintext_iff_negotiated (userId channelId : UInt64)
    (acts : List (Davey Session × Call)) (handler : DaveHandler Session)
    (reached : (handlerSystem Session).run (DaveHandler.new userId channelId) acts =
      some handler) (davey : Davey Session) (packet : Bytes) :
    (handler.encryptionRequired = false ↔
      PlaintextNegotiated
        (negotiations (DaveHandler.new userId channelId : DaveHandler Session) acts)) ∧
    (handler.encryptionRequired = false →
      (handler.encryptOpus davey packet).2 = .ok packet) ∧
    (handler.encryptionRequired = true →
      (∃ message, (handler.encryptOpus davey packet).2 = .error message) ∨
        ∃ session, handler.session = some session ∧ davey.isReady session = true ∧
          (handler.encryptOpus davey packet).2 = (davey.encryptOpus session packet).2) := by
  refine ⟨?_, ?_, encryptOpus_required davey handler packet⟩
  · rw [plaintextNegotiated_iff, run_encryptionRequired acts _ handler reached]
    rfl
  · intro off
    simp [DaveHandler.encryptOpus, off]

/-- A `davey` whose operations all succeed; its ciphertext is the reversed packet. -/
def acceptingDavey : Davey Unit where
  new _ _ _ := .ok ()
  reinit _ _ _ _ := ((), .ok ())
  reinitForTransition _ _ _ _ := ((), .ok ())
  createKeyPackage _ := ((), .ok [])
  discardTransition _ _ := ()
  executeTransition _ _ := ()
  setExternalSender _ _ := ((), .ok ())
  processProposals _ _ _ _ := ((), .ok none)
  processWelcome _ _ := ((), .ok ())
  processCommit _ _ := ((), .ok ())
  processWelcomeForTransition _ _ _ := ((), .ok ())
  processCommitForTransition _ _ _ := ((), .ok ())
  isReady _ := true
  encryptOpus _ packet := ((), .ok packet.reverse)

def acceptedCalls (calls : List Call) : List (Davey Unit × Call) :=
  calls.map fun call => (acceptingDavey, call)

def downgradeCalls : List (Davey Unit × Call) :=
  acceptedCalls [.setupSession 1, .prepareTransition 43 0, .executeTransition 43]

theorem encryptOpus_after_executed_downgrade :
    ∃ handler, (handlerSystem Unit).run (DaveHandler.new 1 1) downgradeCalls = some handler ∧
      PlaintextNegotiated
        (negotiations (DaveHandler.new 1 1 : DaveHandler Unit) downgradeCalls) ∧
      (handler.encryptOpus acceptingDavey [1, 2, 3]).2 = .ok [1, 2, 3] := by
  have law := encryptOpus_plaintext_iff_negotiated 1 1 downgradeCalls _ rfl acceptingDavey [1, 2, 3]
  exact ⟨_, rfl, law.1.mp rfl, law.2.1 rfl⟩

/-! ## The version in force and the requirement -/

namespace DaveHandler

def VersionForcesEncryption (handler : DaveHandler Session) : Prop :=
  handler.protocolVersion ≠ 0 → handler.encryptionRequired = true

/-- A handshake message for transition zero would now install a nonzero version
on a handler that sends plaintext. -/
def Downgraded (handler : DaveHandler Session) : Prop :=
  handler.session.isSome = true ∧ handler.preparedProtocolVersion ≠ 0 ∧
    handler.encryptionRequired = false

variable (davey : Davey Session) (handler : DaveHandler Session) (data : Bytes) (isWelcome : Bool)

theorem setupSession_versionForces (version : UInt16) :
    VersionForcesEncryption (handler.setupSession davey version).1 := by
  intro nonzero
  rw [setupSession_encryptionRequired]
  -- Asking for version zero resets the version in force.
  by_cases zero : version = 0
  · simp [setupSession, zero, reset] at nonzero
  · simp [zero]

theorem executeTransition_versionForces (transitionId : UInt16)
    (forces : VersionForcesEncryption handler) :
    VersionForcesEncryption (handler.executeTransition davey transitionId) := by
  unfold executeTransition
  cases handler.pendingTransitions transitionId with
  | none => exact forces
  | some nextVersion =>
    intro nonzero
    simpa using nonzero

theorem doProcessHandshake_versionForces (forces : VersionForcesEncryption handler)
    (safe : transitionIdOf data = 0 → ¬ handler.Downgraded) :
    VersionForcesEncryption (handler.doProcessHandshake davey data isWelcome).1 := by
  intro nonzero
  rw [(handler.doProcessHandshake_keeps davey data isWelcome).required]
  unfold doProcessHandshake at nonzero
  cases present : handler.session with
  | none =>
    rw [present] at nonzero
    exact forces nonzero
  | some session =>
    rw [present] at nonzero
    dsimp only at nonzero
    by_cases immediate : transitionIdOf data = 0
    · rw [if_pos immediate] at nonzero
      split at nonzero
      · exact forces nonzero
      · -- The message was accepted: the version in force is the prepared one.
        have prepared : handler.preparedProtocolVersion ≠ 0 := by
          simpa [transitionVersion, immediate] using nonzero
        by_contra off
        exact safe immediate ⟨by simp [present], prepared, by simpa using off⟩
    · rw [if_neg immediate] at nonzero
      split at nonzero
      · exact forces nonzero
      · exact forces nonzero

theorem doProcessHandshake_downgraded
    (after : (handler.doProcessHandshake davey data isWelcome).1.Downgraded) :
    handler.Downgraded := by
  have keeps := handler.doProcessHandshake_keeps davey data isWelcome
  rw [Downgraded, keeps.session, keeps.prepared, keeps.required] at after
  exact after

theorem replayHandshakes_versionForces (messages : List (Bytes × Bool))
    (handler : DaveHandler Session) (forces : VersionForcesEncryption handler)
    (safe : (∃ message ∈ messages, transitionIdOf message.1 = 0) → ¬ handler.Downgraded) :
    VersionForcesEncryption (replayHandshakes davey messages handler).1 := by
  induction messages generalizing handler with
  | nil => exact forces
  | cons message rest ih =>
    obtain ⟨data, isWelcome⟩ := message
    have forcesNext := doProcessHandshake_versionForces davey handler data isWelcome forces
      (fun immediate => safe ⟨(data, isWelcome), by simp, immediate⟩)
    have downgradedNext := doProcessHandshake_downgraded davey handler data isWelcome
    rw [replayHandshakes]
    cases processed : handler.doProcessHandshake davey data isWelcome with
    | mk next result =>
      rw [processed] at forcesNext downgradedNext
      cases result with
      | error text => exact forcesNext
      | ok _ =>
        refine ih next forcesNext ?_
        rintro ⟨later, member, immediate⟩ downgraded
        exact safe ⟨later, by simp [member], immediate⟩ (downgradedNext downgraded)

theorem processHandshakeMessage_versionForces (forces : VersionForcesEncryption handler)
    (safe : handler.externalSenderSet = true → transitionIdOf data = 0 → ¬ handler.Downgraded) :
    VersionForcesEncryption (handler.processHandshakeMessage davey data isWelcome).1 := by
  unfold processHandshakeMessage
  dsimp only
  split
  · exact forces
  · split
    · exact forces
    · split
      · split <;> exact forces
      · rename_i senderSet
        exact doProcessHandshake_versionForces davey handler data isWelcome forces
          (safe (by simpa using senderSet))

theorem processExternalSender_versionForces (forces : VersionForcesEncryption handler)
    (safe : (∃ message ∈ handler.pendingHandshake, transitionIdOf message.1 = 0) →
      ¬ handler.Downgraded) :
    VersionForcesEncryption (handler.processExternalSender davey data).1 := by
  unfold processExternalSender
  split
  · exact forces
  · split
    · exact forces
    · cases present : handler.session with
      | none => exact forces
      | some session =>
        dsimp only
        split
        · exact forces
        · split
          · exact forces
          · refine replayHandshakes_versionForces davey _ _ forces ?_
            intro immediate downgraded
            exact safe immediate ⟨by simp [present], downgraded.2⟩

end DaveHandler

open DaveHandler

/-- No welcome or commit for transition zero is processed, at once or from the
buffer, while the handler is downgraded. -/
def HandshakeRespectsDowngrade (handler : DaveHandler Session)
    (act : Davey Session × Call) : Prop :=
  match act.2 with
  | .processWelcome data | .processCommit data =>
    handler.externalSenderSet = true → transitionIdOf data = 0 →
      ¬ handler.Downgraded
  | .processExternalSender _ =>
    (∃ message ∈ handler.pendingHandshake, transitionIdOf message.1 = 0) →
      ¬ handler.Downgraded
  | _ => True

theorem perform_versionForces (call : Call) (forces : handler.VersionForcesEncryption)
    (safe : HandshakeRespectsDowngrade handler (davey, call)) :
    (perform davey handler call).VersionForcesEncryption := by
  cases call with
  | setupSession version => exact handler.setupSession_versionForces davey version
  | reset => exact fun nonzero => absurd rfl nonzero
  | prepareTransition transitionId version =>
    simp only [perform, prepareTransition]
    split
    · exact forces
    · split
      · exact executeTransition_versionForces davey _ 0 forces
      · exact forces
  | executeTransition transitionId =>
    exact handler.executeTransition_versionForces davey transitionId forces
  | prepareEpoch epoch version =>
    have setup := handler.setupSession_versionForces davey version
    simp only [perform, prepareEpoch]
    split
    · exact forces
    · split
      · cases setupRun : handler.setupSession davey version with
        | mk next result =>
          rw [setupRun] at setup
          cases result with
          | ok _ | error _ => exact setup
      · repeat' split
        all_goals exact forces
  | processExternalSender data =>
    exact handler.processExternalSender_versionForces davey data forces safe
  | processProposals data =>
    simp only [perform, processProposals]
    repeat' split
    all_goals exact forces
  | processWelcome data =>
    exact handler.processHandshakeMessage_versionForces davey data true forces safe
  | processCommit data =>
    exact handler.processHandshakeMessage_versionForces davey data false forces safe
  | addUsers uids => exact forces
  | removeUser uid =>
    simp only [perform, removeUser]
    split
    · exact forces
    · exact forces
  | encryptOpus packet =>
    simp only [perform, encryptOpus]
    repeat' split
    all_goals exact forces

/-- In every run in which no transition-zero handshake is processed on a
downgraded handler, a nonzero version in force implies the requirement, and
`encrypt_opus` answers with an error or the ciphertext of a ready session. -/
theorem protocolVersion_forces_encryption (userId channelId : UInt64)
    (acts : List (Davey Session × Call)) (handler : DaveHandler Session)
    (meets : (handlerSystem Session).Meets HandshakeRespectsDowngrade
      (DaveHandler.new userId channelId) acts)
    (reached : (handlerSystem Session).run (DaveHandler.new userId channelId) acts =
      some handler) (nonzero : handler.protocolVersion ≠ 0) :
    handler.encryptionRequired = true ∧
    ∀ (davey : Davey Session) (packet : Bytes),
      (∃ message, (handler.encryptOpus davey packet).2 = .error message) ∨
        ∃ session, handler.session = some session ∧ davey.isReady session = true ∧
          (handler.encryptOpus davey packet).2 = (davey.encryptOpus session packet).2 := by
  have forces : handler.VersionForcesEncryption := by
    refine (handlerSystem Session).run_invariant HandshakeRespectsDowngrade
      VersionForcesEncryption ?_ acts (fun nonzero => absurd rfl nonzero)
      meets reached
    intro before act after holds safe stepped
    cases stepped
    exact perform_versionForces act.1 before act.2 holds safe
  have required := forces nonzero
  exact ⟨required, fun davey packet => encryptOpus_required davey handler packet required⟩

def upgradeCalls : List (Davey Unit × Call) :=
  acceptedCalls [.setupSession 1, .processExternalSender [9], .processCommit [0, 0, 7]]

theorem protocolVersion_forces_encryption_after_commit :
    ∃ handler, (handlerSystem Unit).run (DaveHandler.new 1 1) upgradeCalls = some handler ∧
      handler.protocolVersion = 1 ∧ handler.encryptionRequired = true := by
  have meets : (handlerSystem Unit).Meets HandshakeRespectsDowngrade
      (DaveHandler.new 1 1) upgradeCalls := by
    refine ⟨trivial, fun s1 step1 => ?_⟩
    cases step1
    refine ⟨fun buffered => absurd buffered (by rintro ⟨_, member, _⟩; cases member),
      fun s2 step2 => ?_⟩
    cases step2
    exact ⟨fun _ _ downgraded => Bool.noConfusion downgraded.2.2, fun _ _ => trivial⟩
  exact ⟨_, rfl, rfl,
    (protocolVersion_forces_encryption 1 1 upgradeCalls _ meets rfl (by decide)).1⟩

/-- The failing history: negotiate version one, execute a downgrade, then accept
a late commit for transition zero. -/
def lateCommitCalls : List (Davey Unit × Call) :=
  acceptedCalls [.setupSession 1, .processExternalSender [9], .prepareTransition 5 0,
    .executeTransition 5, .processCommit [0, 0, 7]]

theorem late_commit_reports_version_without_encryption :
    ¬ ∀ (acts : List (Davey Unit × Call)) (handler : DaveHandler Unit),
      (handlerSystem Unit).run (DaveHandler.new 1 1) acts = some handler →
      handler.protocolVersion ≠ 0 →
      handler.encryptionRequired = true ∧
        (handler.encryptOpus acceptingDavey [1, 2, 3]).2 ≠ .ok [1, 2, 3] := by
  intro claim
  have both := claim lateCommitCalls _ rfl (by decide)
  exact Bool.noConfusion both.1

end KizunaLink.Dave
