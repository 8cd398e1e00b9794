import KizunaLink.Lib.System

/-!
# Heartbeats of a voice connection

Model of `HeartbeatTracker` (discord/gateway/session/heartbeat.rs) and of
`on_heartbeat_ack` (session/handler.rs).  A tracker has one task, whose accesses are one
step each; an acknowledgement is processed between two of them.
-/

set_option autoImplicit false

namespace KizunaLink.Voice

open KizunaLink.Lib

/-- Where the task stands; a full or closed channel ends it like a timeout does. -/
inductive HeartbeatPoint where
  | ticking
  | storingNonce
  | storingSentAt (nonce : Nat)
  | sending (nonce : Nat)
  | timedOut
  | refused
  deriving DecidableEq

structure Heartbeat where
  nonce : Nat
  acked : Bool := false
  deriving DecidableEq

/-- `sent` are the heartbeats in the channel, the last one first, with whether an
acknowledgement of them was received. -/
structure HeartbeatTracker where
  lastNonce : Nat := 0
  sentAt : Nat := 0
  missedAcks : Nat := 0
  ping : Option Nat := none
  point : HeartbeatPoint := .ticking
  sent : List Heartbeat := []
  deriving DecidableEq

inductive HeartbeatAct where
  | tick
  | storeNonce (now : Nat)
  | storeSentAt
  | trySend (refused : Bool)
  | ack (nonce now : Nat)
  deriving DecidableEq

namespace HeartbeatTracker

variable (tracker : HeartbeatTracker)

def tick : HeartbeatTracker :=
  { tracker with
    missedAcks := tracker.missedAcks + 1
    point := if 2 ≤ tracker.missedAcks then .timedOut else .storingNonce }

def onHeartbeatAck (nonce now : Nat) : HeartbeatTracker :=
  let tracker := { tracker with
    sent := tracker.sent.map fun heartbeat =>
      if heartbeat.nonce = nonce then { heartbeat with acked := true } else heartbeat }
  if tracker.lastNonce = nonce then
    { tracker with missedAcks := 0, ping := some (now - tracker.sentAt) }
  else tracker

def step : HeartbeatAct → Option HeartbeatTracker
  | .tick => if tracker.point = .ticking then some tracker.tick else none
  | .storeNonce now =>
    if tracker.point = .storingNonce then
      some { tracker with lastNonce := now, point := .storingSentAt now }
    else none
  | .storeSentAt =>
    match tracker.point with
    | .storingSentAt nonce => some { tracker with sentAt := nonce, point := .sending nonce }
    | .ticking | .storingNonce | .sending _ | .timedOut | .refused => none
  | .trySend refused =>
    match tracker.point with
    | .sending nonce =>
      some (if refused then { tracker with point := .refused }
        else { tracker with point := .ticking, sent := { nonce } :: tracker.sent })
    | .ticking | .storingNonce | .storingSentAt _ | .timedOut | .refused => none
  | .ack nonce now => some (tracker.onHeartbeatAck nonce now)

end HeartbeatTracker

def heartbeatSystem : System HeartbeatTracker HeartbeatAct := ⟨HeartbeatTracker.step⟩

namespace HeartbeatTracker

/-- An acknowledgement of one of the two last heartbeats comes while its nonce is the one
that is stored. -/
def InTime (tracker : HeartbeatTracker) : HeartbeatAct → Prop
  | .ack nonce _ => ∀ heartbeat ∈ tracker.sent.take 2, heartbeat.nonce = nonce →
      tracker.lastNonce = nonce
  | .tick | .storeNonce _ | .storeSentAt | .trySend _ => True

instance (tracker : HeartbeatTracker) : (act : HeartbeatAct) → Decidable (tracker.InTime act)
  | .ack nonce _ => inferInstanceAs (Decidable (∀ heartbeat ∈ tracker.sent.take 2,
      heartbeat.nonce = nonce → tracker.lastNonce = nonce))
  | .tick | .storeNonce _ | .storeSentAt | .trySend _ => isTrue trivial

/-- The misses of heartbeats that were sent. -/
def misses (tracker : HeartbeatTracker) : Nat :=
  if tracker.point = .ticking then tracker.missedAcks else tracker.missedAcks - 1

/-- As many of the last heartbeats as were missed have no acknowledgement. -/
def Justified (tracker : HeartbeatTracker) : Prop :=
  ∀ heartbeat ∈ tracker.sent.take (min 2 tracker.misses), heartbeat.acked = false

variable {tracker next : HeartbeatTracker}

theorem Justified.onHeartbeatAck (justified : tracker.Justified) {nonce now : Nat}
    (inTime : tracker.InTime (.ack nonce now)) : (tracker.onHeartbeatAck nonce now).Justified := by
  by_cases matching : tracker.lastNonce = nonce
  · simp [HeartbeatTracker.onHeartbeatAck, matching, Justified, misses]
  · intro heartbeat found
    simp only [HeartbeatTracker.onHeartbeatAck, if_neg matching, ← List.map_take] at found
    obtain ⟨before, earlier, rfl⟩ := List.mem_map.mp found
    have other : before.nonce ≠ nonce := fun same => matching <|
      inTime before (List.take_subset_take_left _ (min_le_left _ _) earlier) same
    rw [if_neg other]
    exact justified before earlier

theorem Justified.mono (justified : tracker.Justified) (same : next.sent = tracker.sent)
    (fewer : next.misses ≤ tracker.misses) : next.Justified := by
  intro heartbeat found
  rw [same] at found
  exact justified heartbeat (List.take_subset_take_left _ (min_le_min_left 2 fewer) found)

theorem Justified.step (justified : tracker.Justified) {act : HeartbeatAct}
    (inTime : tracker.InTime act) (stepped : tracker.step act = some next) : next.Justified := by
  cases act with
  | tick =>
    obtain ⟨point, same⟩ := Option.ite_none_right_eq_some.mp stepped
    cases same
    refine justified.mono rfl ?_
    simp only [misses, HeartbeatTracker.tick, point, if_true]
    split <;> simp
  | storeNonce now =>
    obtain ⟨point, same⟩ := Option.ite_none_right_eq_some.mp stepped
    cases same
    exact justified.mono rfl (by simp [misses, point])
  | storeSentAt =>
    simp only [HeartbeatTracker.step] at stepped
    split at stepped
    · cases stepped
      exact justified.mono rfl (by simp [misses, *])
    all_goals cases stepped
  | trySend refused =>
    simp only [HeartbeatTracker.step] at stepped
    split at stepped
    case h_1 nonce point =>
      cases stepped
      cases refused with
      | true => exact justified.mono rfl (by simp [misses, point])
      | false =>
        have missed : tracker.misses = tracker.missedAcks - 1 := by simp [misses, point]
        intro heartbeat found
        simp only [misses, Bool.false_eq_true, if_false, if_true] at found
        cases count : tracker.missedAcks with
        | zero => simp [count] at found
        | succ fewer =>
          rw [count, show min 2 (fewer + 1) = min 1 fewer + 1 by omega,
            List.take_succ_cons] at found
          obtain rfl | found := List.mem_cons.mp found
          · rfl
          · refine justified heartbeat (List.take_subset_take_left _ ?_ found)
            omega
    all_goals cases stepped
  | ack nonce now =>
    cases stepped
    exact justified.onHeartbeatAck inTime

end HeartbeatTracker

theorem timeout_justified (acts : List HeartbeatAct) (final next : HeartbeatTracker)
    (inTime : heartbeatSystem.Meets HeartbeatTracker.InTime {} acts)
    (reached : heartbeatSystem.run {} acts = some final)
    (stepped : final.step .tick = some next) (timeout : next.point = .timedOut) :
    ∀ heartbeat ∈ final.sent.take 2, heartbeat.acked = false := by
  have justified : final.Justified :=
    heartbeatSystem.run_invariant _ _ (fun justified => justified.step) acts
      (by simp [HeartbeatTracker.Justified]) inTime reached
  obtain ⟨point, same⟩ := Option.ite_none_right_eq_some.mp stepped
  cases same
  have missed : 2 ≤ final.missedAcks := by
    by_contra few
    simp [HeartbeatTracker.tick, few] at timeout
  simpa [HeartbeatTracker.Justified, HeartbeatTracker.misses, point, missed] using justified

/-- A heartbeat with everything the task does for it. -/
def beat (now : Nat) : List HeartbeatAct := [.tick, .storeNonce now, .storeSentAt, .trySend false]

theorem silent_gateway_times_out :
    ∃ final next, heartbeatSystem.run {} (beat 1 ++ [.ack 1 2] ++ beat 3 ++ beat 5) = some final ∧
      final.step .tick = some next ∧ next.point = .timedOut ∧
      ∀ heartbeat ∈ final.sent.take 2, heartbeat.acked = false :=
  ⟨_, _, rfl, rfl, by decide, timeout_justified (beat 1 ++ [.ack 1 2] ++ beat 3 ++ beat 5) _ _
    (by decide) rfl rfl (by decide)⟩

/-- The acknowledgement of the first heartbeat comes after the second one was sent. -/
theorem late_ack_times_out :
    ∃ final next, heartbeatSystem.run {} (beat 1 ++ beat 3 ++ [.ack 1 4]) = some final ∧
      final.step .tick = some next ∧ next.point = .timedOut ∧
      final.sent.take 2 = [⟨3, false⟩, ⟨1, true⟩] :=
  ⟨_, _, rfl, rfl, by decide, by decide⟩

namespace HeartbeatTracker

/-- Only an acknowledgement of the stored nonce answers. -/
def answers (tracker : HeartbeatTracker) : HeartbeatAct → Bool
  | .ack nonce _ => tracker.lastNonce = nonce
  | .tick | .storeNonce _ | .storeSentAt | .trySend _ => false

def Limited (tracker : HeartbeatTracker) : Prop :=
  tracker.missedAcks ≤ 3 ∧ (tracker.missedAcks = 3 → tracker.point = .timedOut)

variable {tracker next : HeartbeatTracker} {act : HeartbeatAct}

theorem Limited.step (limited : tracker.Limited) (unanswered : tracker.answers act = false)
    (stepped : tracker.step act = some next) :
    next.Limited ∧ next.missedAcks = tracker.missedAcks + [act].count .tick := by
  have running (point : tracker.point ≠ .timedOut) : tracker.missedAcks < 3 :=
    lt_of_le_of_ne limited.1 fun full => point (limited.2 full)
  cases act with
  | tick =>
    obtain ⟨point, same⟩ := Option.ite_none_right_eq_some.mp stepped
    cases same
    refine ⟨⟨running (by simp [point]), fun full => if_pos ?_⟩, rfl⟩
    exact (Nat.succ.inj full).ge
  | storeNonce now =>
    obtain ⟨point, same⟩ := Option.ite_none_right_eq_some.mp stepped
    cases same
    exact ⟨⟨limited.1, fun full => absurd full (running (by simp [point])).ne⟩, rfl⟩
  | storeSentAt =>
    simp only [HeartbeatTracker.step] at stepped
    split at stepped
    case h_1 nonce point =>
      cases stepped
      exact ⟨⟨limited.1, fun full => absurd full (running (by simp [point])).ne⟩, rfl⟩
    all_goals cases stepped
  | trySend refused =>
    simp only [HeartbeatTracker.step] at stepped
    split at stepped
    case h_1 nonce point =>
      have few := running (by simp [point])
      cases stepped
      cases refused <;> exact ⟨⟨limited.1, fun full => absurd full few.ne⟩, rfl⟩
    all_goals cases stepped
  | ack nonce now =>
    cases stepped
    rw [onHeartbeatAck, if_neg (of_decide_eq_false unanswered)]
    exact ⟨limited, rfl⟩

end HeartbeatTracker

/-- From any state before a timeout: while no acknowledgement of the stored nonce comes, the
misses count the ticks, and the third one ends the task. -/
theorem silence_detected (tracker final : HeartbeatTracker) (acts : List HeartbeatAct)
    (few : tracker.missedAcks ≤ 2)
    (silent : heartbeatSystem.Meets (fun tracker act => tracker.answers act = false) tracker acts)
    (reached : heartbeatSystem.run tracker acts = some final) :
    final.missedAcks = tracker.missedAcks + acts.count .tick ∧ final.missedAcks ≤ 3 ∧
      (final.missedAcks = 3 → final.point = .timedOut) := by
  have limited : tracker.Limited := ⟨by omega, by omega⟩
  clear few
  induction acts generalizing tracker with
  | nil =>
    cases reached
    exact ⟨rfl, limited⟩
  | cons act rest ih =>
    obtain ⟨next, stepped, tailRun⟩ := heartbeatSystem.run_cons_some reached
    obtain ⟨stays, counted⟩ := limited.step silent.1 stepped
    obtain ⟨total, within⟩ := ih next (silent.2 next stepped) tailRun stays
    refine ⟨?_, within⟩
    rw [total, counted, Nat.add_assoc, ← List.count_append, List.singleton_append]

theorem late_acks_time_out :
    ∃ final, heartbeatSystem.run {} (beat 1 ++ beat 3 ++ [.ack 1 4, .tick]) = some final ∧
      final.point = .timedOut :=
  ⟨_, rfl, (silence_detected {} _ (beat 1 ++ beat 3 ++ [.ack 1 4, .tick]) (by decide) (by decide)
    rfl).2.2 (by decide)⟩

end KizunaLink.Voice
