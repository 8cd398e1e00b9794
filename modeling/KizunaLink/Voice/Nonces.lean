import KizunaLink.Lib.Counter
import KizunaLink.Voice.Gateway

/-!
# Nonce counters across a gateway run

The counters used with one key form a run of consecutive values as long as every
loop that takes a key over starts where the last one stopped.  The loop's own
counters live in its transport; a later loop sees only what was saved.  So the
run survives exactly the ends of a loop at which the saved state is the loop's
state, and that is the condition under which uniqueness is proved here.
-/

set_option autoImplicit false

namespace KizunaLink.Voice

open KizunaLink.Lib List Option

theorem Shared.used_append (shared : Shared) (packet : Packet) (key : Key) :
    Shared.used { shared with packets := shared.packets ++ [packet] } key =
      shared.used key ++ if packet.key = key then [packet.counter] else [] := by
  simp only [used, filter_append, map_append]
  congr 1
  by_cases same : packet.key = key <;> simp [same]

/-- A loop that starts now with this key continues its run of counters. -/
def Ready (shared : Shared) (key : Key) : Prop :=
  ∀ last ∈ (shared.used key).getLast?,
    ∃ rtp, shared.persistent.rtpState = some rtp ∧ rtp.nonce = last + 1

variable {shared : Shared}

theorem ready_of_unused {key : Key} (unused : shared.used key = []) : Ready shared key := by
  intro last member
  rw [unused] at member
  cases member

structure TaskSafe (shared : Shared) (task : SpeakTask) : Prop where
  unstarted : task.session = none → Ready shared task.config.key
  keyed : ∀ session, task.session = some session →
    session.transport.crypto.key = task.config.key
  continues : task.phase ≠ .failed → ∀ session, task.session = some session →
    Follows (shared.used task.config.key) session.transport.rtp.nonce

/-- The persisted key is the running loop's or unused; without a loop it is ready. -/
def PersistedSafe (shared : Shared) (loop : Option SpeakTask) : Prop :=
  ∀ key, shared.persistent.sessionKey = some key →
    match loop with
    | none => Ready shared key
    | some task => task.config.key = key ∨ shared.used key = []

structure LoopSafe (shared : Shared) (loop : Option SpeakTask) : Prop where
  consecutive : ∀ key, Consecutive (shared.used key)
  task : ∀ task, loop = some task → TaskSafe shared task
  persisted : PersistedSafe shared loop

theorem LoopSafe.of_unkeyed (consecutive : ∀ key, Consecutive (shared.used key))
    (unkeyed : shared.persistent.sessionKey = none) : LoopSafe shared none := by
  refine ⟨consecutive, ?_, ?_⟩
  · intro task running
    cases running
  · intro key persisted
    rw [unkeyed] at persisted
    cases persisted

theorem LoopSafe.congr {other : Shared} {loop : Option SpeakTask} (safe : LoopSafe shared loop)
    (samePackets : other.packets = shared.packets)
    (sameKey : other.persistent.sessionKey = shared.persistent.sessionKey)
    (sameRtp : other.persistent.rtpState = shared.persistent.rtpState) : LoopSafe other loop := by
  have sameUsed : other.used = shared.used := by
    funext key
    simp only [Shared.used, samePackets]
  have sameReady : Ready other = Ready shared := by
    funext key
    simp only [Ready, sameUsed, sameRtp]
  refine ⟨sameUsed ▸ safe.consecutive, ?_, ?_⟩
  · intro task running
    obtain ⟨unstarted, keyed, continues⟩ := safe.task task running
    exact ⟨sameReady ▸ unstarted, keyed, sameUsed ▸ continues⟩
  · intro key persisted
    rw [sameKey] at persisted
    simpa only [sameReady, sameUsed] using safe.persisted key persisted

theorem LoopSafe.speak {after : Shared} {task next : SpeakTask} (safe : LoopSafe shared (some task))
    (alive : task.phase ≠ .failed) (effect : SpeakEffect shared task after next) :
    LoopSafe after (some next) := by
  have taskSafe := safe.task task rfl
  cases effect with
  | started random session phase unstarted keyed read =>
    refine ⟨safe.consecutive, ?_, safe.persisted⟩
    intro other same
    cases same
    refine ⟨nofun, ?_, ?_⟩
    · intro current isCurrent
      cases isCurrent
      exact keyed
    · intro _ current isCurrent last member
      cases isCurrent
      obtain ⟨rtp, saved, nonce⟩ := taskSafe.unstarted unstarted last member
      rw [read, saved]
      exact nonce
  | failedUnstarted unstarted =>
    refine ⟨safe.consecutive, ?_, safe.persisted⟩
    intro other same
    cases same
    exact ⟨taskSafe.unstarted, taskSafe.keyed, fun alive => absurd rfl alive⟩
  | failed session ended current sameCrypto =>
    refine ⟨safe.consecutive, ?_, safe.persisted⟩
    intro other same
    cases same
    refine ⟨nofun, ?_, fun alive => absurd rfl alive⟩
    intro last isLast
    cases isLast
    rw [sameCrypto]
    exact taskSafe.keyed session current
  | quiet session resting counted phase current sameTransport samePackets samePersistent =>
    have counted : LoopSafe after (some task) :=
      safe.congr samePackets (by rw [samePersistent]) (by rw [samePersistent])
    have countedTask := counted.task task rfl
    refine ⟨counted.consecutive, ?_, counted.persisted⟩
    intro other same
    cases same
    refine ⟨nofun, ?_, ?_⟩
    · intro last isLast
      cases isLast
      rw [sameTransport]
      exact taskSafe.keyed session current
    · intro _ last isLast
      cases isLast
      rw [sameTransport]
      exact countedTask.continues alive session current
  | handed session advancedSession packet phase current sameCrypto packetCrypto counter advanced =>
    have follows := taskSafe.continues alive session current
    have packetKey : packet.key = task.config.key := by
      rw [Packet.key, packetCrypto]
      exact taskSafe.keyed session current
    have usedOwn : Shared.used { shared with packets := shared.packets ++ [packet] }
        task.config.key = shared.used task.config.key ++ [session.transport.rtp.nonce] := by
      rw [Shared.used_append, if_pos packetKey, counter]
    have usedOther : ∀ key, key ≠ task.config.key →
        Shared.used { shared with packets := shared.packets ++ [packet] } key =
          shared.used key := by
      intro key other
      have notOwn : packet.key ≠ key := fun same => other (same.symm.trans packetKey)
      rw [Shared.used_append, if_neg notOwn, append_nil]
    refine ⟨?_, ?_, ?_⟩
    · intro key
      by_cases own : key = task.config.key
      · rw [own, usedOwn]
        exact (safe.consecutive _).append follows
      · rw [usedOther key own]
        exact safe.consecutive key
    · intro other same
      cases same
      refine ⟨nofun, ?_, ?_⟩
      · intro last isLast
        cases isLast
        rw [sameCrypto]
        exact taskSafe.keyed session current
      · intro _ last isLast
        cases isLast
        rw [usedOwn, advanced]
        exact follows_append _ _
    · intro key persisted
      by_cases own : key = task.config.key
      · exact .inl own.symm
      · rcases safe.persisted key persisted with same | unused
        · exact .inl same
        · exact .inr ((usedOther key own).trans unused)
  | saved session phase current =>
    refine ⟨safe.consecutive, ?_, safe.persisted⟩
    intro other same
    cases same
    refine ⟨?_, taskSafe.keyed, fun _ => taskSafe.continues alive⟩
    intro unstarted
    rw [current] at unstarted
    cases unstarted

theorem SpeakEffect.sessionKey {after : Shared} {task next : SpeakTask}
    (effect : SpeakEffect shared task after next) :
    after.persistent.sessionKey = shared.persistent.sessionKey := by
  cases effect with
  | quiet session resting counted phase current sameTransport samePackets samePersistent =>
    rw [samePersistent]
  | _ => rfl

/-! ## The controller -/

/-- The loop has not failed and its counters are the saved ones, unless its key
was never used or is no longer the persisted one. -/
def Gateway.LoopSettled (gateway : Gateway) : Prop :=
  ∀ task ∈ gateway.conn.speakTask, ∀ session ∈ task.session,
    gateway.shared.persistent.sessionKey = some task.config.key →
    gateway.shared.used task.config.key ≠ [] →
    task.phase ≠ .failed ∧
      gateway.shared.persistent.rtpState = some session.transport.rtp

instance (gateway : Gateway) : Decidable gateway.LoopSettled := by
  unfold Gateway.LoopSettled
  infer_instance

/-- The condition on a step: a described key is new or the persisted one, a loop
that is ended for another loop or for a resume is settled, and no loop outlasts
its abort. -/
def LoopsSettle (gateway : Gateway) (act : Act) : Prop :=
  match gateway.control, act with
  | .describing _ key _, .locked =>
    gateway.shared.used key = [] ∨ gateway.shared.persistent.sessionKey = some key
  | .resuming, .locked =>
    (∀ task ∈ gateway.conn.speakTask, task.isFinished = true) → gateway.LoopSettled
  | .stoppingLoop _ _ _, .loopStopped => gateway.LoopSettled
  | .stoppingLoop _ _ _, .stopTimesOut => False
  | .ending .reconnect, .connectionClosed => gateway.LoopSettled
  | _, _ => True

instance (gateway : Gateway) (act : Act) : Decidable (LoopsSettle gateway act) := by
  unfold LoopsSettle
  split <;> infer_instance

structure Gateway.Safe (gateway : Gateway) : Prop where
  loop : LoopSafe gateway.shared gateway.conn.speakTask
  noOrphan : gateway.conn.orphan = none
  noOrphans : gateway.orphans = []

def Gateway.ControlSafe (gateway : Gateway) : Prop :=
  match gateway.control with
  | .dialing => gateway.conn.speakTask = none
  | .settingUpDave _ key _ | .stoppingLoop _ key _ =>
    gateway.shared.persistent.sessionKey = some key
  | _ => True

inductive NonceSafe (gateway : Gateway) : Prop where
  | running (safe : gateway.Safe) (control : gateway.ControlSafe)
  | stopped (isStopped : gateway.control = .stopped)
      (consecutive : ∀ key, Consecutive (gateway.shared.used key))
      (noLoop : gateway.conn.speakTask = none)
      (noOrphan : gateway.conn.orphan = none) (noOrphans : gateway.orphans = [])

namespace Gateway

variable {gateway : Gateway}

section

variable (safe : gateway.Safe)
include safe

theorem Safe.beginEnding (outcome : SessionOutcome) : NonceSafe (gateway.beginEnding outcome) :=
  .running { safe with } trivial

theorem Safe.handled (outcome : Option SessionOutcome) : NonceSafe (gateway.handled outcome) := by
  cases outcome with
  | some outcome => exact safe.beginEnding outcome
  | none =>
    simp only [Gateway.handled]
    split
    · exact .running { safe with } trivial
    · split
      · exact .running { safe with } trivial
      · exact safe.beginEnding .reconnect

theorem Safe.onHello (interval : Option Nat) : NonceSafe (gateway.onHello interval) := by
  simp only [Gateway.onHello]
  split
  · exact safe.handled _
  · split
    · exact safe.handled _
    · apply Safe.handled
      exact { safe with }

theorem Safe.onReady (payload : ReadyPayload) : NonceSafe (gateway.onReady payload) := by
  simp only [Gateway.onReady]
  repeat' split
  all_goals exact .running { safe with } trivial

theorem Safe.onSessionDescription (payload : DescriptionPayload) :
    NonceSafe (gateway.onSessionDescription payload) := by
  simp only [Gateway.onSessionDescription]
  split
  · exact safe.handled _
  · split
    · apply Safe.handled
      exact { safe with }
    · exact .running { safe with } trivial

theorem Safe.receive (message : Message) : NonceSafe (gateway.receive message) := by
  cases message with
  | hello interval => exact safe.onHello interval
  | ready payload => exact safe.onReady payload
  | sessionDescription payload => exact safe.onSessionDescription payload
  | resumed => exact .running { safe with } trivial
  | close code => exact safe.handled (some (classify code))
  | other => exact safe.handled none

theorem Safe.ready_of_settled (settled : gateway.LoopSettled) : LoopSafe gateway.shared none := by
  refine ⟨safe.loop.consecutive, fun task absent => ?_, ?_⟩
  · exact absurd absent.symm (some_ne_none task)
  intro key persisted
  have before := safe.loop.persisted key persisted
  cases running : gateway.conn.speakTask with
  | none =>
    rw [running] at before
    exact before
  | some task =>
    rw [running] at before
    rcases before with same | unused
    · subst same
      have taskSafe := safe.loop.task task running
      cases current : task.session with
      | none => exact taskSafe.unstarted current
      | some session =>
        intro last member
        have used : gateway.shared.used task.config.key ≠ [] := by
          intro unused
          rw [unused] at member
          cases member
        obtain ⟨alive, saved⟩ := settled task running session current persisted used
        exact ⟨_, saved, taskSafe.continues alive session current last member⟩
    · exact ready_of_unused unused

theorem Safe.spawnLoop (noLoop : gateway.conn.speakTask = none)
    (addr : SocketAddr) {key : Key} (persisted : gateway.shared.persistent.sessionKey = some key) :
    (gateway.spawnLoop addr key).Safe := by
  simp only [Gateway.spawnLoop]
  split
  · refine ⟨⟨safe.loop.consecutive, ?_, ?_⟩, safe.noOrphan, safe.noOrphans⟩
    · intro task same
      cases same
      have ready := safe.loop.persisted key persisted
      rw [noLoop] at ready
      exact ⟨fun _ => ready, nofun, fun _ => nofun⟩
    · intro other persistedOther
      rw [persisted] at persistedOther
      exact .inl (Option.some.inj persistedOther)
  · exact safe

theorem Safe.voiceStarted (described : Bool) : NonceSafe (gateway.voiceStarted described) := by
  cases described with
  | false => exact safe.handled none
  | true =>
    have reset : gateway.resetBackoff.Safe := { safe with }
    exact reset.handled none

theorem Safe.startVoice (addr : SocketAddr) {key : Key} (described : Bool)
    (persisted : gateway.shared.persistent.sessionKey = some key) :
    NonceSafe (gateway.startVoice addr key described) := by
  cases running : gateway.conn.speakTask with
  | none =>
    simp only [Gateway.startVoice, running]
    exact (safe.spawnLoop running addr persisted).voiceStarted described
  | some task =>
    simp only [Gateway.startVoice, running]
    exact .running { safe with } persisted

theorem Safe.persistDescription (addr : SocketAddr) (key : Key)
    (fresh : gateway.shared.used key = [] ∨ gateway.shared.persistent.sessionKey = some key) :
    (gateway.persistDescription addr key).Safe := by
  refine ⟨⟨safe.loop.consecutive, ?_, ?_⟩, safe.noOrphan, safe.noOrphans⟩
  · intro task running
    have taskSafe := safe.loop.task task running
    refine ⟨?_, taskSafe.keyed, taskSafe.continues⟩
    intro unstarted
    exact (taskSafe.unstarted unstarted)
  · intro other persisted
    cases persisted
    rcases fresh with unused | same
    · simp only [Gateway.persistDescription]
      cases gateway.conn.speakTask with
      | none => exact ready_of_unused unused
      | some task => exact .inr unused
    · have before := safe.loop.persisted key same
      simp only [Gateway.persistDescription]
      cases running : gateway.conn.speakTask with
      | none =>
        rw [running] at before
        exact before
      | some task =>
        rw [running] at before
        exact before

theorem Safe.describe (addr : SocketAddr) (key : Key) (payload : DescriptionPayload)
    (fresh : gateway.shared.used key = [] ∨ gateway.shared.persistent.sessionKey = some key) :
    NonceSafe (gateway.describe addr key payload) := by
  have persisted := safe.persistDescription addr key fresh
  simp only [Gateway.describe]
  split
  · split
    · exact persisted.handled _
    · exact .running { persisted with } rfl
  · exact persisted.startVoice addr true rfl

theorem Safe.setUpDave (addr : SocketAddr) {key : Key}
    (payload : DescriptionPayload) (requiresEncryption setUp : Bool)
    (persisted : gateway.shared.persistent.sessionKey = some key) :
    NonceSafe (gateway.setUpDave addr key payload requiresEncryption setUp) := by
  simp only [Gateway.setUpDave]
  split
  · exact safe.handled _
  · split
    · exact safe.startVoice addr true persisted
    · exact safe.handled _

theorem Safe.resume (settled : (∀ task ∈ gateway.conn.speakTask, task.isFinished = true) →
      gateway.LoopSettled) : NonceSafe gateway.resume := by
  simp only [Gateway.resume]
  split
  · rename_i addr key hasAddr persisted
    cases kept : gateway.conn.speakTask.filter fun task => !task.isFinished with
    | some task =>
      have same : gateway.conn.speakTask = some task := eq_some_of_filter_eq_some kept
      apply Safe.handled
      refine ⟨?_, safe.noOrphan, safe.noOrphans⟩
      rw [← same]
      exact safe.loop
    | none =>
      have finished : ∀ task ∈ gateway.conn.speakTask, task.isFinished = true := by
        intro task running
        rw [mem_def.mp running] at kept
        simpa using kept
      apply Safe.startVoice
      · exact ⟨safe.ready_of_settled (settled finished), safe.noOrphan, safe.noOrphans⟩
      · exact persisted
  · exact safe.handled _

end

theorem forgotten_safe (consecutive : ∀ key, Consecutive (shared.used key)) :
    LoopSafe { shared with persistent := {} } none :=
  .of_unkeyed consecutive rfl

theorem Safe.connectReturned (safe : gateway.Safe) (outcome : SessionOutcome)
    (settled : outcome = .reconnect → gateway.LoopSettled) :
    NonceSafe (gateway.connectReturned outcome) := by
  have noneLeft : gateway.conn.orphan.toList ++ gateway.orphans = [] := by
    simp [safe.noOrphan, safe.noOrphans]
  cases outcome with
  | shutdown => exact .stopped rfl safe.loop.consecutive rfl rfl noneLeft
  | reconnect =>
    simp only [Gateway.connectReturned]
    split
    · exact .stopped rfl safe.loop.consecutive rfl rfl noneLeft
    · exact .running ⟨safe.ready_of_settled (settled rfl), rfl, noneLeft⟩ rfl
  | identify =>
    simp only [Gateway.connectReturned]
    split
    · exact .stopped rfl safe.loop.consecutive rfl rfl noneLeft
    · exact .running ⟨forgotten_safe safe.loop.consecutive, rfl, noneLeft⟩ rfl

theorem Safe.connectFailed (safe : gateway.Safe) (noLoop : gateway.conn.speakTask = none) :
    NonceSafe gateway.connectFailed := by
  simp only [Gateway.connectFailed]
  split
  · exact .stopped rfl safe.loop.consecutive noLoop safe.noOrphan safe.noOrphans
  · refine .running ⟨?_, safe.noOrphan, safe.noOrphans⟩ noLoop
    have forgotten := forgotten_safe safe.loop.consecutive
    rw [← noLoop] at forgotten
    exact forgotten

theorem ControlSafe.congr {other : Gateway} (control : gateway.ControlSafe)
    (sameControl : other.control = gateway.control)
    (sameKey : other.shared.persistent.sessionKey = gateway.shared.persistent.sessionKey)
    (idle : gateway.conn.speakTask = none → other.conn.speakTask = none) :
    other.ControlSafe := by
  simp only [ControlSafe, sameControl, sameKey] at control ⊢
  cases at_ : gateway.control with
  | dialing =>
    rw [at_] at control
    exact idle control
  | settingUpDave _ _ _ | stoppingLoop _ _ _ =>
    rw [at_] at control
    exact control
  | _ => trivial

theorem Safe.speak {next : Gateway} {input : SpeakInput} (safe : gateway.Safe)
    (control : gateway.ControlSafe) (stepped : gateway.speak input = some next) :
    NonceSafe next := by
  simp only [Gateway.speak, bind_eq_bind, bind_eq_some_iff] at stepped
  obtain ⟨task, running, ⟨shared, after⟩, moved, rebuilt⟩ := stepped
  cases rebuilt
  obtain ⟨alive, effect⟩ := speakStep_effect moved
  have before : LoopSafe gateway.shared (some task) := running ▸ safe.loop
  refine .running ⟨before.speak alive effect, safe.noOrphan, safe.noOrphans⟩ ?_
  apply control.congr
  · rfl
  · exact effect.sessionKey
  · intro idle
    rw [idle] at running
    cases running

/-- One step: the cases are the transitions of the controller, then the steps that
may happen at any of its await points. -/
theorem Safe.step {next : Gateway} {act : Act} (safe : gateway.Safe)
    (control : gateway.ControlSafe) (settles : LoopsSettle gateway act)
    (stepped : gateway.step act = some next) : NonceSafe next := by
  simp only [Gateway.step] at stepped
  split at stepped
  case h_1 success dialing =>
    have noLoop : gateway.conn.speakTask = none := by
      simpa only [ControlSafe, dialing] using control
    cases success with
    | false =>
      cases stepped
      exact safe.connectFailed noLoop
    | true =>
      cases stepped
      exact .running ⟨noLoop ▸ safe.loop, rfl, safe.noOrphans⟩ trivial
  case h_2 dialing =>
    cases stepped
    have noLoop : gateway.conn.speakTask = none := by
      simpa only [ControlSafe, dialing] using control
    exact .stopped rfl safe.loop.consecutive noLoop safe.noOrphan safe.noOrphans
  case h_3 message _ =>
    cases stepped
    exact safe.receive message
  case h_4 =>
    cases stepped
    exact safe.beginEnding .reconnect
  case h_5 success _ =>
    cases success with
    | false =>
      cases stepped
      exact safe.beginEnding .reconnect
    | true =>
      cases stepped
      exact .running { safe with } trivial
  case h_6 =>
    cases stepped
    exact safe.beginEnding .shutdown
  case h_7 =>
    split at stepped
    · cases stepped
      exact safe.beginEnding _
    · cases stepped
  case h_8 message _ =>
    split at stepped
    · cases stepped
    · cases stepped
      exact safe.receive message
  case h_9 =>
    split at stepped
    · cases stepped
    · cases stepped
      exact safe.beginEnding .reconnect
  case h_10 =>
    cases stepped
    exact .running ⟨safe.loop.congr rfl rfl rfl, safe.noOrphan, safe.noOrphans⟩ trivial
  case h_11 success _ =>
    cases success with
    | false =>
      cases stepped
      exact safe.handled (some .reconnect)
    | true =>
      cases stepped
      have reset : gateway.resetBackoff.Safe := { safe with }
      exact reset.handled none
  case h_12 addr key payload describing =>
    cases stepped
    simp only [LoopsSettle, describing] at settles
    exact safe.describe addr key payload settles
  case h_13 addr key payload requiresEncryption setUp settingUp =>
    cases stepped
    simp only [ControlSafe, settingUp] at control
    exact safe.setUpDave addr payload requiresEncryption setUp control
  case h_14 resuming =>
    cases stepped
    simp only [LoopsSettle, resuming] at settles
    exact safe.resume settles
  case h_15 addr key described stopping =>
    cases stepped
    simp only [LoopsSettle, stopping] at settles
    simp only [ControlSafe, stopping] at control
    apply Safe.voiceStarted
    apply Safe.spawnLoop
    · exact ⟨safe.ready_of_settled settles, safe.noOrphan, safe.noOrphans⟩
    · rfl
    · exact control
  case h_16 addr key described stopping =>
    simp only [LoopsSettle, stopping] at settles
  case h_17 outcome ending =>
    cases stepped
    apply safe.connectReturned outcome
    intro isReconnect
    simpa only [LoopsSettle, ending, isReconnect] using settles
  case h_18 =>
    split at stepped
    · cases stepped
      exact .running { safe with } control
    · cases stepped
  case h_19 =>
    cases stepped
    exact .running ⟨safe.loop.congr rfl rfl rfl, safe.noOrphan, safe.noOrphans⟩ control
  case h_20 input => exact safe.speak control stepped
  case h_21 input => simp [orphanSection, safe.noOrphan, safe.noOrphans] at stepped
  case h_22 => cases stepped

end Gateway

theorem NonceSafe.step {gateway next : Gateway} {act : Act} (safe : NonceSafe gateway)
    (settles : LoopsSettle gateway act) (stepped : gateway.step act = some next) :
    NonceSafe next := by
  cases safe with
  | running safe control => exact safe.step control settles stepped
  | stopped isStopped consecutive noLoop noOrphan noOrphans =>
    cases act with
    | heartbeatGivesUp =>
      simp only [Gateway.step, isStopped] at stepped
      obtain ⟨-, rfl⟩ := ite_some_none_eq_some.mp stepped
      exact .stopped rfl consecutive noLoop noOrphan noOrphans
    | framesSwapped =>
      simp only [Gateway.step, isStopped] at stepped
      cases stepped
      exact .stopped rfl consecutive noLoop noOrphan noOrphans
    | speak input => simp [Gateway.step, isStopped, Gateway.speak, noLoop] at stepped
    | orphanSection input =>
      simp [Gateway.step, isStopped, Gateway.orphanSection, noOrphan, noOrphans] at stepped
    | _ =>
      simp only [Gateway.step, isStopped] at stepped
      cases stepped

/-- A gateway as `VoiceGateway::new` builds it, with the player's frame counter. -/
def Gateway.new (channelId framesSent framesNulled : UInt64) : Gateway :=
  { shared := { framesSent, framesNulled }, channelId }

theorem Gateway.new_nonceSafe (channelId framesSent framesNulled : UInt64) :
    NonceSafe (Gateway.new channelId framesSent framesNulled) :=
  .running ⟨.of_unkeyed (fun _ => consecutive_nil) rfl, rfl, rfl⟩ rfl

/-- In a run whose loops settle, no counter is used twice with one key, and a loop
that is about to read the saved state finds it past every counter of its key. -/
theorem counters_unique_of_loopsSettle (channelId framesSent framesNulled : UInt64)
    (acts : List Act) (gateway : Gateway)
    (meets : gatewaySystem.Meets LoopsSettle (Gateway.new channelId framesSent framesNulled)
      acts) (reached : gatewaySystem.run (Gateway.new channelId framesSent framesNulled) acts =
      some gateway) :
    (∀ key, (gateway.shared.used key).length ≤ 2 ^ 32 → (gateway.shared.used key).Nodup) ∧
      ∀ task, gateway.conn.speakTask = some task → task.session = none →
        ∀ last ∈ (gateway.shared.used task.config.key).getLast?,
          ∃ rtp, gateway.shared.persistent.rtpState = some rtp ∧ rtp.nonce = last + 1 := by
  have safe : NonceSafe gateway :=
    gatewaySystem.run_invariant LoopsSettle NonceSafe (fun safe => safe.step) acts
      (Gateway.new_nonceSafe channelId framesSent framesNulled) meets reached
  cases safe with
  | running safe control =>
    refine ⟨fun key short => (safe.loop.consecutive key).nodup short, ?_⟩
    intro task running unstarted
    exact (safe.loop.task task running).unstarted unstarted
  | stopped isStopped consecutive noLoop noOrphan noOrphans =>
    refine ⟨fun key short => (consecutive key).nodup short, ?_⟩
    intro task running
    rw [noLoop] at running
    cases running

def sampleKey : Key := Vector.replicate 32 0

/-- Dial, HELLO, identify, READY, SESSION_DESCRIPTION, and the loop's start with
nonce 7. -/
def establish : List Act :=
  [.dial true, .receive (.hello (some 41250)), .handshakeSent true,
    .receive (.ready
      { ssrc := some 1, ip := some "192.0.2.1".toList, port := some 5000,
        modes := some ["aead_aes256_gcm_rtpsize"] }),
    .locked, .discovered true,
    .receive (.sessionDescription
      { secretKey := some (List.replicate 32 (some 0)), daveProtocolVersion := some (some 0) }),
    .locked, .daveAnswers false true, .speak (.start ⟨0, 0, 7⟩ true)]

def opusTick : Act :=
  .speak (.tick (.frames fun _ => ⟨false, .opusFrame, false, false, false, true⟩))

def twoPackets : List Act :=
  [.speak (.encrypt (.ok [0xf8, 0xff, 0xfe]) true), .speak (.sent true),
    .speak (.encrypt (.ok [1]) true), .speak (.sent true)]

/-- The socket ends, the connection is dialled again, and RESUMED restarts the loop. -/
def reconnect : List Act :=
  [.readEnds, .connectionClosed, .dial true, .receive (.hello (some 41250)), .handshakeSent true,
    .receive .resumed, .locked, .speak (.start ⟨0, 0, 7⟩ true)]

/-- An idle tick saves the counters, a frame is sent, and the connection is lost
before the next save. -/
def staleResume : List Act :=
  establish ++ [.speak (.tick (.daveWaiting false)), .speak .save, opusTick] ++ twoPackets ++
    reconnect ++ [opusTick] ++ twoPackets

/-- The hundredth frame is sent and saved before the connection is lost. -/
def savedResume : List Act :=
  establish ++ [opusTick] ++ twoPackets ++ [.speak .save] ++ reconnect ++ [opusTick] ++ twoPackets

theorem counters_unique_after_saved_resume :
    ∃ gateway, gatewaySystem.run (Gateway.new 1 99 0) savedResume = some gateway ∧
      gateway.shared.used sampleKey = [7, 8, 9, 10] ∧ (gateway.shared.used sampleKey).Nodup := by
  have used : (gatewaySystem.run (Gateway.new 1 99 0) savedResume).map
      (fun gateway => gateway.shared.used sampleKey) = some [7, 8, 9, 10] := by decide
  obtain ⟨gateway, reached, used⟩ := map_eq_some_iff.mp used
  have unique := (counters_unique_of_loopsSettle 1 99 0 savedResume gateway (by decide) reached).1
  exact ⟨gateway, reached, used, unique sampleKey (by rw [used]; decide)⟩

theorem staleResume_used :
    (gatewaySystem.run (Gateway.new 1 0 0) staleResume).map
      (fun gateway => gateway.shared.used sampleKey) = some [7, 8, 7, 8] := by
  decide

theorem resumed_loop_reuses_counters :
    ¬ ∀ (acts : List Act) (gateway : Gateway),
      gatewaySystem.run (Gateway.new 1 0 0) acts = some gateway →
      ∀ key, (gateway.shared.used key).length < 2 ^ 32 → (gateway.shared.used key).Nodup := by
  intro claim
  obtain ⟨gateway, reached, used⟩ := map_eq_some_iff.mp staleResume_used
  have unique := claim staleResume gateway reached sampleKey
  rw [used] at unique
  exact absurd (unique (by decide)) (by decide)

end KizunaLink.Voice
