import KizunaLink.Voice.Nonces

/-!
# How often a voice connection is retried

`run` gives up when `Backoff` has counted fifteen retries.  The count is set back
when SESSION_DESCRIPTION has been handled, and already when READY has been: a
server that answers READY and then drops every connection is dialled for ever.

A watch goes along with the gateway.  It knows whether the current attempt has
handled READY and whether it has established a session, and how many attempts in
a row have ended in a retry without one.
-/

set_option autoImplicit false

namespace KizunaLink.Voice

open KizunaLink.Lib Option

structure Watch where
  readied : Bool := false
  established : Bool := false
  barren : Nat := 0
  deriving DecidableEq, Repr

namespace Gateway

variable (gateway : Gateway)

def isStopped : Bool :=
  match gateway.control with
  | .stopped => true
  | .dialing | .awaitingHello | .handshaking | .selecting | .readyPersisting | .discovering
  | .describing _ _ _ | .settingUpDave _ _ _ | .resuming | .stoppingLoop _ _ _ | .ending _ =>
    false

def readies (act : Act) : Bool :=
  match gateway.control, act with
  | .discovering, .discovered success => success
  | _, _ => false

def establishes (act : Act) : Bool :=
  match gateway.control, act with
  | .describing _ _ _, .locked => gateway.channelId == 0 && gateway.conn.speakTask.isNone
  | .settingUpDave _ _ payload, .daveAnswers requiresEncryption setUp =>
    !(payload.daveProtocolVersion.isNone && requiresEncryption) && setUp &&
      gateway.conn.speakTask.isNone
  | .resuming, .locked =>
    gateway.shared.persistent.udpAddr.isSome && gateway.shared.persistent.sessionKey.isSome
  | .stoppingLoop _ _ _, .loopStopped | .stoppingLoop _ _ _, .stopTimesOut => true
  | _, _ => false

/-- `connect` returns with an error, or with an outcome that is retried. -/
def retryEnds (act : Act) : Bool :=
  match gateway.control, act with
  | .dialing, .dial success => !success
  | .ending outcome, .connectionClosed => outcome != .shutdown
  | _, _ => false

end Gateway

def Watch.observe (watch : Watch) (gateway : Gateway) (act : Act) : Watch :=
  if gateway.retryEnds act then
    { barren := if watch.established then 0 else watch.barren + 1 }
  else
    { watch with
      readied := watch.readied || gateway.readies act
      established := watch.established || gateway.establishes act }

def watchedSystem : System (Gateway × Watch) Act := gatewaySystem.observed Watch.observe

/-- An attempt that has handled READY establishes a session before it is retried, unless
it is the first in a row. -/
def ReadyEstablishes (watched : Gateway × Watch) (act : Act) : Prop :=
  watched.1.retryEnds act = true → watched.2.readied = true →
    watched.2.established = true ∨ watched.2.barren = 0

instance (watched : Gateway × Watch) (act : Act) : Decidable (ReadyEstablishes watched act) :=
  inferInstanceAs (Decidable (_ → _ → _ ∨ _))

/-! ## The count of the backoff -/

namespace Gateway

variable {gateway : Gateway}

/-- The step leaves the count alone, or `run` has returned. -/
def KeepsAttempt (gateway next : Gateway) : Prop :=
  next.attempt = gateway.attempt ∨ next.isStopped = true

variable {act : Act} (addr : SocketAddr) (key : Key) (payload : DescriptionPayload) {next : Gateway}

theorem handled_attempt (gateway : Gateway) (outcome : Option SessionOutcome) :
    (gateway.handled outcome).attempt = gateway.attempt := by
  unfold handled beginEnding
  split
  · rfl
  · split
    · rfl
    · split <;> rfl

theorem onHello_attempt (gateway : Gateway) (interval : Option Nat) :
    (gateway.onHello interval).attempt = gateway.attempt := by
  unfold onHello
  split
  · exact handled_attempt _ _
  · split <;> exact handled_attempt _ _

theorem onReady_attempt (gateway : Gateway) (payload : ReadyPayload) :
    (gateway.onReady payload).attempt = gateway.attempt := by
  unfold onReady
  repeat' split
  all_goals rfl

theorem onSessionDescription_attempt (gateway : Gateway) (payload : DescriptionPayload) :
    (gateway.onSessionDescription payload).attempt = gateway.attempt := by
  unfold onSessionDescription
  split
  · exact handled_attempt _ _
  · dsimp only
    split
    · exact handled_attempt _ _
    · rfl

theorem receive_attempt (gateway : Gateway) (message : Message) :
    (gateway.receive message).attempt = gateway.attempt := by
  cases message with
  | hello interval => exact onHello_attempt gateway interval
  | ready payload => exact onReady_attempt gateway payload
  | sessionDescription payload => exact onSessionDescription_attempt gateway payload
  | resumed => rfl
  | close _ | other => exact handled_attempt gateway _

theorem startVoice_attempt (described : Bool) (running : gateway.conn.speakTask.isNone = false) :
    (gateway.startVoice addr key described).attempt = gateway.attempt := by
  obtain ⟨task, found⟩ := isSome_iff_exists.mp (isNone_eq_false_iff.mp running)
  simp [startVoice, found]

theorem describe_attempt
    (unestablished : (gateway.channelId == 0 && gateway.conn.speakTask.isNone) = false) :
    (gateway.describe addr key payload).attempt = gateway.attempt := by
  unfold describe
  dsimp only
  split
  · split
    · exact handled_attempt _ _
    · rfl
  · next zero =>
      have channel : gateway.channelId = 0 := by
        have none : ¬ 0 < gateway.channelId := zero
        rcases eq_or_ne gateway.channelId 0 with same | other
        · exact same
        · exact absurd (UInt64.pos_iff_ne_zero.mpr other) none
      rw [channel] at unestablished
      exact startVoice_attempt addr key true unestablished

theorem setUpDave_attempt (requiresEncryption setUp : Bool)
    (unestablished : (!(payload.daveProtocolVersion.isNone && requiresEncryption) && setUp &&
      gateway.conn.speakTask.isNone) = false) :
    (gateway.setUpDave addr key payload requiresEncryption setUp).attempt = gateway.attempt := by
  unfold setUpDave
  split
  · exact handled_attempt _ _
  · next required =>
      split
      · next set =>
          refine startVoice_attempt addr key true ?_
          simpa [required, set] using unestablished
      · exact handled_attempt _ _

theorem resume_attempt (unestablished : (gateway.shared.persistent.udpAddr.isSome &&
      gateway.shared.persistent.sessionKey.isSome) = false) :
    gateway.resume.attempt = gateway.attempt := by
  unfold resume
  split
  · next addr key savedAddr savedKey => simp [savedAddr, savedKey] at unestablished
  · exact handled_attempt _ _

theorem speak_frame {input : SpeakInput} (stepped : gateway.speak input = some next) :
    next.attempt = gateway.attempt ∧ next.control = gateway.control := by
  unfold speak at stepped
  obtain ⟨task, -, stepped⟩ := bind_eq_some_iff.mp stepped
  obtain ⟨after, -, stepped⟩ := bind_eq_some_iff.mp stepped
  cases stepped
  exact ⟨rfl, rfl⟩

theorem orphanSection_frame {input : SpeakInput}
    (stepped : gateway.orphanSection input = some next) :
    next.attempt = gateway.attempt ∧ next.control = gateway.control := by
  unfold orphanSection at stepped
  split at stepped
  · obtain ⟨after, -, stepped⟩ := bind_eq_some_iff.mp stepped
    cases stepped
    exact ⟨rfl, rfl⟩
  · obtain ⟨after, -, stepped⟩ := bind_eq_some_iff.mp stepped
    cases stepped
    exact ⟨rfl, rfl⟩
  · cases stepped

theorem step_isStopped (stopped : gateway.isStopped = true)
    (stepped : gateway.step act = some next) : next.isStopped = true := by
  have control : gateway.control = .stopped := by
    unfold isStopped at stopped
    split at stopped
    · assumption
    all_goals cases stopped
  have same : next.control = gateway.control := by
    cases act with
    | heartbeatGivesUp =>
      simp only [step, control] at stepped
      obtain ⟨-, rfl⟩ := ite_some_none_eq_some.mp stepped
      exact control.symm
    | framesSwapped =>
      simp only [step, control] at stepped
      cases stepped
      exact control.symm
    | speak input =>
      simp only [step, control] at stepped
      exact (speak_frame stepped).2
    | orphanSection input =>
      simp only [step, control] at stepped
      exact (orphanSection_frame stepped).2
    | _ => simp [step, control] at stepped
  rw [isStopped, same, control]

theorem step_of_retryEnds (retry : gateway.retryEnds act = true)
    (stepped : gateway.step act = some next) :
    next.isStopped = true ∨
      gateway.attempt < maxReconnectAttempts ∧ next.attempt = gateway.attempt + 1 := by
  unfold retryEnds at retry
  split at retry
  · next success dialing =>
      cases success with
      | true => cases retry
      | false =>
        simp only [step, dialing, Bool.false_eq_true, if_false] at stepped
        cases stepped
        unfold connectFailed
        split
        · exact .inl rfl
        · next left => exact .inr ⟨Nat.lt_of_not_le left, rfl⟩
  · next outcome ending =>
      simp only [step, ending] at stepped
      cases stepped
      cases outcome with
      | shutdown => cases retry
      | reconnect | identify =>
        simp only [connectReturned]
        split
        · exact .inl rfl
        · next left => exact .inr ⟨Nat.lt_of_not_le left, rfl⟩
  · cases retry

theorem step_keepsAttempt (noRetry : gateway.retryEnds act = false)
    (notReady : gateway.readies act = false) (notEstablished : gateway.establishes act = false)
    (stepped : gateway.step act = some next) : gateway.KeepsAttempt next := by
  simp only [Gateway.step] at stepped
  split at stepped
  case h_1 success dialing =>
    cases success with
    | false => simp [retryEnds, dialing] at noRetry
    | true =>
      cases stepped
      exact .inl rfl
  case h_2 =>
    cases stepped
    exact .inr rfl
  case h_3 message _ =>
    cases stepped
    exact .inl (receive_attempt gateway message)
  case h_4 =>
    cases stepped
    exact .inl rfl
  case h_5 success _ =>
    cases success <;> cases stepped <;> exact .inl rfl
  case h_6 =>
    cases stepped
    exact .inl rfl
  case h_7 =>
    obtain ⟨-, rfl⟩ := ite_some_none_eq_some.mp stepped
    exact .inl rfl
  case h_8 message _ =>
    split at stepped
    · cases stepped
    · cases stepped
      exact .inl (receive_attempt gateway message)
  case h_9 =>
    split at stepped
    · cases stepped
    · cases stepped
      exact .inl rfl
  case h_10 =>
    cases stepped
    exact .inl rfl
  case h_11 success discovering =>
    cases success with
    | true => simp [readies, discovering] at notReady
    | false =>
      simp only [Bool.false_eq_true, if_false] at stepped
      cases stepped
      exact .inl (handled_attempt gateway _)
  case h_12 addr key payload describing =>
    cases stepped
    simp only [establishes, describing] at notEstablished
    exact .inl (describe_attempt addr key payload notEstablished)
  case h_13 addr key payload requiresEncryption setUp setting =>
    cases stepped
    simp only [establishes, setting] at notEstablished
    exact .inl (setUpDave_attempt addr key payload requiresEncryption setUp notEstablished)
  case h_14 resuming =>
    cases stepped
    simp only [establishes, resuming] at notEstablished
    exact .inl (resume_attempt notEstablished)
  case h_15 stopping => simp [establishes, stopping] at notEstablished
  case h_16 stopping => simp [establishes, stopping] at notEstablished
  case h_17 outcome ending =>
    cases outcome with
    | shutdown =>
      cases stepped
      exact .inr rfl
    | reconnect | identify => simp [retryEnds, ending] at noRetry
  case h_18 =>
    obtain ⟨-, rfl⟩ := ite_some_none_eq_some.mp stepped
    exact .inl rfl
  case h_19 =>
    cases stepped
    exact .inl rfl
  case h_20 input => exact .inl (speak_frame stepped).1
  case h_21 input => exact .inl (orphanSection_frame stepped).1
  case h_22 => cases stepped

end Gateway

/-- While `run` goes on, an attempt without READY has its predecessors counted. -/
def Counted (watched : Gateway × Watch) : Prop :=
  watched.1.isStopped = true ∨
    watched.2.barren ≤ maxReconnectAttempts ∧
      (watched.2.readied = false → watched.2.established = false →
        watched.2.barren ≤ watched.1.attempt)

theorem Counted.step {watched next : Gateway × Watch} {act : Act} (counted : Counted watched)
    (condition : ReadyEstablishes watched act)
    (stepped : watchedSystem.step watched act = some next) : Counted next := by
  obtain ⟨moved, seen⟩ := gatewaySystem.observed_step_some Watch.observe stepped
  rcases counted with stopped | ⟨bounded, behind⟩
  · exact .inl (Gateway.step_isStopped stopped moved)
  cases retry : watched.1.retryEnds act with
  | true =>
    rcases Gateway.step_of_retryEnds retry moved with stopped | ⟨left, counted⟩
    · exact .inl stopped
    · have few : next.2.barren ≤ next.1.attempt ∧ next.2.barren ≤ maxReconnectAttempts := by
        rw [seen, counted]
        simp only [Watch.observe, retry, if_true]
        split
        · exact ⟨Nat.zero_le _, Nat.zero_le _⟩
        · next notEstablished =>
            rw [Bool.not_eq_true] at notEstablished
            cases ready : watched.2.readied with
            | false =>
              have := behind ready notEstablished
              omega
            | true =>
              have first := (condition retry ready).resolve_left (by simp [notEstablished])
              omega
      exact .inr ⟨few.2, fun _ _ => few.1⟩
  | false =>
    have same : next.2.barren = watched.2.barren := by
      rw [seen, Watch.observe, retry]
      rfl
    by_cases stopped : next.1.isStopped = true
    · exact .inl stopped
    refine .inr ⟨same ▸ bounded, ?_⟩
    intro notReady notEstablished
    rw [seen] at notReady notEstablished
    simp only [Watch.observe, retry, Bool.false_eq_true, if_false, Bool.or_eq_false_iff]
      at notReady notEstablished
    have kept := (Gateway.step_keepsAttempt retry notReady.2 notEstablished.2 moved).resolve_right
      stopped
    rw [same, kept]
    exact behind notReady.1 notEstablished.1

/-- If every attempt that handles READY establishes a session, or is the first of a row,
then in every run of the gateway `run` has returned when more than
`MAX_RECONNECT_ATTEMPTS` attempts in a row have ended in a retry without a session. -/
theorem reconnects_bounded (channelId framesSent framesNulled : UInt64) (acts : List Act)
    (gateway : Gateway) (meets : watchedSystem.Meets ReadyEstablishes
      (Gateway.new channelId framesSent framesNulled, {}) acts)
    (reached : gatewaySystem.run (Gateway.new channelId framesSent framesNulled) acts =
      some gateway) :
    ∃ watch, watchedSystem.run (Gateway.new channelId framesSent framesNulled, {}) acts =
        some (gateway, watch) ∧
      (maxReconnectAttempts < watch.barren → gateway.isStopped = true) := by
  obtain ⟨watch, watched⟩ :=
    (gatewaySystem.run_observed_iff Watch.observe acts _ gateway {}).mp reached
  have counted : Counted (gateway, watch) :=
    watchedSystem.run_invariant ReadyEstablishes Counted (fun counted => counted.step) acts
      (.inr ⟨Nat.zero_le _, fun _ _ => Nat.zero_le _⟩) meets watched
  refine ⟨watch, watched, fun many => ?_⟩
  rcases counted with stopped | ⟨bounded, -⟩
  · exact stopped
  · exact absurd many (Nat.not_lt.mpr bounded)

theorem sixteen_refused_dials :
    ∃ gateway watch,
      watchedSystem.run (Gateway.new 1 0 0, {}) (List.replicate 16 (.dial false)) =
        some (gateway, watch) ∧
      watch.barren = 16 ∧ gateway.isStopped = true := by
  have outcome : (watchedSystem.run (Gateway.new 1 0 0, {}) (List.replicate 16 (.dial false))).map
      (fun watched => watched.2.barren) = some 16 := by decide
  obtain ⟨⟨gateway, seen⟩, reached, barren⟩ := map_eq_some_iff.mp outcome
  have plain := (gatewaySystem.run_observed_iff Watch.observe _ _ gateway {}).mpr ⟨seen, reached⟩
  obtain ⟨watch, watched, bound⟩ :=
    reconnects_bounded 1 0 0 (List.replicate 16 (.dial false)) gateway (by decide) plain
  cases Option.some.inj (reached.symm.trans watched)
  exact ⟨gateway, seen, reached, barren, bound (by rw [barren]; decide)⟩

def readyThenDropped : List Act :=
  [.dial true, .receive (.hello (some 41250)), .handshakeSent true,
    .receive (.ready
      { ssrc := some 1, ip := some "192.0.2.1".toList, port := some 5000,
        modes := some ["aead_aes256_gcm_rtpsize"] }),
    .locked, .discovered true, .readEnds, .connectionClosed]

theorem run_readyThenDropped (gateway : Gateway) (barren : Nat)
    (dialing : gateway.control = .dialing) :
    ∃ next, watchedSystem.run (gateway, { barren }) readyThenDropped =
        some (next, { barren := barren + 1 }) ∧
      next.control = .dialing := by
  obtain ⟨shared, channelId, attempt, isResume, control, conn, orphans⟩ := gateway
  cases dialing
  exact ⟨_, rfl, rfl⟩

theorem run_readyThenDropped_repeated (count : Nat) (gateway : Gateway) (barren : Nat)
    (dialing : gateway.control = .dialing) :
    ∃ next, watchedSystem.run (gateway, { barren })
        (List.replicate count readyThenDropped).flatten =
          some (next, { barren := barren + count }) ∧
      next.control = .dialing := by
  induction count generalizing gateway barren with
  | zero => exact ⟨gateway, rfl, dialing⟩
  | succ count ih =>
    obtain ⟨middle, first, dialsAgain⟩ := run_readyThenDropped gateway barren dialing
    obtain ⟨next, rest, dialsLast⟩ := ih middle (barren + 1) dialsAgain
    refine ⟨next, ?_, dialsLast⟩
    rw [List.replicate_succ, List.flatten_cons, watchedSystem.run_append _ _ _ _ first, rest,
      Nat.add_assoc, Nat.add_comm 1 count]

theorem retries_unbounded (count : Nat) :
    ∃ gateway, watchedSystem.run (Gateway.new 1 0 0, {})
        (List.replicate count readyThenDropped).flatten = some (gateway, { barren := count }) ∧
      gateway.isStopped = false := by
  obtain ⟨gateway, reached, dialing⟩ :=
    run_readyThenDropped_repeated count (Gateway.new 1 0 0) 0 rfl
  rw [Nat.zero_add] at reached
  refine ⟨gateway, reached, ?_⟩
  rw [Gateway.isStopped, dialing]

theorem dials_after_sixteen_drops :
    ∃ gateway watch,
      watchedSystem.run (Gateway.new 1 0 0, {}) (List.replicate 16 readyThenDropped).flatten =
        some (gateway, watch) ∧
      maxReconnectAttempts < watch.barren ∧ gateway.isStopped = false := by
  obtain ⟨gateway, reached, goesOn⟩ := retries_unbounded 16
  exact ⟨gateway, _, reached, by decide, goesOn⟩

end KizunaLink.Voice
