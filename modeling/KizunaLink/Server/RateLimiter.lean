import KizunaLink.Lib.Ip
import Mathlib.Algebra.Order.Field.Rat
import Mathlib.Algebra.Order.Floor.Semiring
import Mathlib.Data.Rat.Floor
import Mathlib.Logic.Function.Basic
import Mathlib.Tactic.Linarith

/-!
# The rate limiter

Model of `RateLimiter` (api/rate_limit.rs) with rational numbers in place of
floats.  A check and a cleanup hold the lock of a bucket for their whole effect
on it, so a history is a list of calls; instants are seconds, taken by the caller.

What decides about a request is the level of its bucket: the tokens it would have
after a refill.  A bucket that is not there counts as full, and one that was idle
for a minute is.
-/

set_option autoImplicit false

namespace KizunaLink.Server

open List

open KizunaLink.Lib (IpAddr)

structure Bucket where
  tokens : ℚ
  updatedAt : ℚ
  deriving DecidableEq

def saturatingSince (now earlier : ℚ) : ℚ := max 0 (now - earlier)

def refillRate (limit : Nat) : ℚ := limit / 60

namespace Bucket

variable (limit : Nat) (bucket : Bucket)

def refill (now : ℚ) : Bucket where
  tokens := min (bucket.tokens + saturatingSince now bucket.updatedAt * refillRate limit) limit
  updatedAt := now

/-- One token, or the time to wait for it. -/
def take : Option ℚ × Bucket :=
  if 1 ≤ bucket.tokens then (none, { bucket with tokens := bucket.tokens - 1 })
  else (some (max ((1 - bucket.tokens) / refillRate limit) 1), bucket)

end Bucket

structure RateLimiter where
  limitPerMinute : Nat
  buckets : IpAddr → Option Bucket

inductive LimiterCall where
  | check (ip : IpAddr) (now : ℚ)
  | cleanup (now idleTtl : ℚ)
  deriving DecidableEq

def LimiterCall.now : LimiterCall → ℚ
  | .check _ now | .cleanup now _ => now

def LimiterCall.isCheck : LimiterCall → Bool
  | .check _ _ => true
  | .cleanup _ _ => false

/-- A cleanup keeps buckets for a minute at least. -/
def LimiterCall.Patient : LimiterCall → Prop
  | .check _ _ => True
  | .cleanup _ idleTtl => 60 ≤ idleTtl

structure Decision where
  ip : IpAddr
  now : ℚ
  admitted : Bool
  deriving DecidableEq

def Decision.countsFor (ip : IpAddr) (start stop : ℚ) (decision : Decision) : Bool :=
  decision.ip = ip ∧ decision.admitted ∧ start ≤ decision.now ∧ decision.now ≤ stop

namespace RateLimiter

def new (limitPerMinute : Nat) : RateLimiter := ⟨limitPerMinute, fun _ => none⟩

variable (limiter : RateLimiter)

def disabled : Bool := limiter.limitPerMinute = 0

def check (ip : IpAddr) (now : ℚ) : Option ℚ × RateLimiter :=
  if limiter.disabled then (none, limiter)
  else
    let entry := (limiter.buckets ip).getD ⟨limiter.limitPerMinute, now⟩
    let (retryAfter, after) := (entry.refill limiter.limitPerMinute now).take limiter.limitPerMinute
    (retryAfter, { limiter with buckets := Function.update limiter.buckets ip (some after) })

def cleanup (now idleTtl : ℚ) : RateLimiter :=
  { limiter with
    buckets := fun ip => (limiter.buckets ip).filter fun bucket =>
      saturatingSince now bucket.updatedAt ≤ idleTtl }

def advance : LimiterCall → RateLimiter
  | .check ip now => (limiter.check ip now).2
  | .cleanup now idleTtl => limiter.cleanup now idleTtl

def decided : LimiterCall → List Decision
  | .check ip now => [⟨ip, now, (limiter.check ip now).1.isNone⟩]
  | .cleanup _ _ => []

def decisions (limiter : RateLimiter) : List LimiterCall → List Decision
  | [] => []
  | call :: rest => limiter.decided call ++ (limiter.advance call).decisions rest

/-! ## Levels -/

def level (ip : IpAddr) (now : ℚ) : ℚ :=
  match limiter.buckets ip with
  | none => limiter.limitPerMinute
  | some bucket => (bucket.refill limiter.limitPerMinute now).tokens

def spent (ip : IpAddr) (now : ℚ) : ℚ := if 1 ≤ limiter.level ip now then 1 else 0

/-- No bucket is overdrawn or of a later time. -/
def Sound (now : ℚ) : Prop :=
  ∀ ip bucket, limiter.buckets ip = some bucket → 0 ≤ bucket.tokens ∧ bucket.updatedAt ≤ now

variable {limiter} {now later : ℚ} {ip : IpAddr}

theorem refillRate_nonneg (limit : Nat) : 0 ≤ refillRate limit :=
  div_nonneg (Nat.cast_nonneg _) (by norm_num)

section

variable (sound : limiter.Sound now)
include sound

theorem Sound.mono (after : now ≤ later) : limiter.Sound later :=
  fun ip bucket found =>
    ⟨(sound ip bucket found).1, (sound ip bucket found).2.trans after⟩

theorem Sound.level_nonneg : 0 ≤ limiter.level ip later := by
  unfold level
  split
  · exact Nat.cast_nonneg _
  · rename_i bucket found
    have credit : 0 ≤ saturatingSince later bucket.updatedAt * refillRate limiter.limitPerMinute :=
      mul_nonneg (le_max_left _ _) (refillRate_nonneg _)
    exact le_min (add_nonneg (sound ip bucket found).1 credit) (Nat.cast_nonneg _)

/-- A level grows with the time, up to the limit. -/
theorem Sound.level_later (ip : IpAddr) (after : now ≤ later) :
    limiter.level ip later =
      min (limiter.level ip now + (later - now) * refillRate limiter.limitPerMinute)
        limiter.limitPerMinute := by
  have rate := refillRate_nonneg limiter.limitPerMinute
  have credit : 0 ≤ (later - now) * refillRate limiter.limitPerMinute :=
    mul_nonneg (by linarith) rate
  unfold level
  cases found : limiter.buckets ip with
  | none =>
    rw [min_eq_right]
    linarith
  | some bucket =>
    have before := (sound ip bucket found).2
    simp only [Bucket.refill, saturatingSince, max_eq_right (sub_nonneg.mpr before),
      max_eq_right (sub_nonneg.mpr (before.trans after))]
    rcases le_total (bucket.tokens + (now - bucket.updatedAt) * refillRate limiter.limitPerMinute)
      limiter.limitPerMinute with low | full
    · rw [min_eq_left low]
      ring_nf
    · rw [min_eq_right full, min_eq_right, min_eq_right]
      · linarith
      · linarith

theorem level_cleanup {idleTtl : ℚ} (long : 60 ≤ idleTtl) (after : now ≤ later) (ip : IpAddr) :
    (limiter.cleanup now idleTtl).level ip later = limiter.level ip later := by
  simp only [level, cleanup]
  cases found : limiter.buckets ip with
  | none => rfl
  | some bucket =>
    obtain ⟨filled, before⟩ := sound ip bucket found
    by_cases fresh : saturatingSince now bucket.updatedAt ≤ idleTtl
    · simp [Option.filter, fresh]
    · -- an idle minute fills the bucket, so it may as well be forgotten
      have idle : 60 ≤ saturatingSince later bucket.updatedAt := by
        rw [not_le, saturatingSince, max_eq_right (sub_nonneg.mpr before)] at fresh
        exact le_max_of_le_right (by linarith)
      have credit := mul_le_mul_of_nonneg_right idle (refillRate_nonneg limiter.limitPerMinute)
      have whole : 60 * refillRate limiter.limitPerMinute = limiter.limitPerMinute := by
        rw [refillRate]
        ring
      simp only [Option.filter, fresh, decide_false, Bool.false_eq_true, if_false, Bucket.refill]
      exact (min_eq_right (by linarith)).symm

theorem spent_le : limiter.spent ip later ≤ limiter.level ip later := by
  unfold spent
  split
  · assumption
  · exact sound.level_nonneg

end

theorem refill_entry (limiter : RateLimiter) (ip : IpAddr) (now : ℚ) :
    ((limiter.buckets ip).getD ⟨limiter.limitPerMinute, now⟩).refill limiter.limitPerMinute now =
      ⟨limiter.level ip now, now⟩ := by
  unfold level
  cases limiter.buckets ip with
  | none => simp [Bucket.refill, saturatingSince]
  | some bucket => rfl

theorem check_spec (enabled : limiter.disabled = false) (ip : IpAddr) (now : ℚ) :
    (limiter.check ip now).1.isNone = decide (1 ≤ limiter.level ip now) ∧
      (limiter.check ip now).2 =
        { limiter with
          buckets := Function.update limiter.buckets ip
            (some ⟨limiter.level ip now - limiter.spent ip now, now⟩) } := by
  simp only [check, enabled, refill_entry, Bucket.take, spent]
  by_cases enough : 1 ≤ limiter.level ip now
  · simp [enough]
  · simp [enough]

theorem level_check (enabled : limiter.disabled = false) (ip other : IpAddr) (after : now ≤ later) :
    (limiter.check ip now).2.level other later =
      if other = ip then
        min (limiter.level ip now - limiter.spent ip now +
          (later - now) * refillRate limiter.limitPerMinute) limiter.limitPerMinute
      else limiter.level other later := by
  rw [(check_spec enabled ip now).2, level]
  by_cases same : other = ip
  · subst same
    simp [Bucket.refill, saturatingSince, after]
  · simp [same, level]

theorem spent_nonneg (limiter : RateLimiter) (ip : IpAddr) (now : ℚ) :
    0 ≤ limiter.spent ip now := by
  unfold spent
  split <;> norm_num

variable {call : LimiterCall} {calls : List LimiterCall}

theorem advance_limit : (limiter.advance call).limitPerMinute = limiter.limitPerMinute := by
  cases call with
  | check ip time =>
    simp only [advance, check]
    split <;> rfl
  | cleanup time idleTtl => rfl

/-- The calls come in the order of their instants, none before `now`. -/
def Ordered (now : ℚ) : List LimiterCall → Prop
  | [] => True
  | call :: rest => now ≤ call.now ∧ Ordered call.now rest

theorem decisions_after (ordered : Ordered now calls) :
    ∀ decision ∈ limiter.decisions calls, now ≤ decision.now := by
  induction calls generalizing limiter now with
  | nil => simp [decisions]
  | cons call rest ih =>
    intro decision member
    rcases mem_append.mp member with made | follows
    · cases call with
      | check ip time =>
        cases mem_singleton.mp made
        exact ordered.1
      | cleanup time idleTtl => cases made
    · exact ordered.1.trans (ih ordered.2 decision follows)

section

variable (sound : limiter.Sound now) (enabled : limiter.disabled = false)
include sound enabled

theorem Sound.advance (after : now ≤ call.now) : (limiter.advance call).Sound call.now := by
  cases call with
  | check ip time =>
    intro other bucket found
    rw [advance, (check_spec enabled ip time).2] at found
    simp only [Function.update_apply] at found
    split at found
    · cases found
      exact ⟨sub_nonneg.mpr (spent_le sound), le_refl _⟩
    · exact sound.mono after other bucket found
  | cleanup time idleTtl =>
    intro other bucket found
    exact sound.mono after other bucket (Option.filter_eq_some_iff.mp found).1

/-- A request that is counted takes its token at that moment; the other calls take none. -/
theorem Sound.level_advance (after : now ≤ call.now) (patient : call.Patient) (ip : IpAddr)
    (start stop : ℚ) : ((limiter.decided call).countP (Decision.countsFor ip start stop) : ℚ) +
      (limiter.advance call).level ip (max call.now start) ≤
        limiter.level ip (max call.now start) := by
  have reached : call.now ≤ max call.now start := le_max_left _ _
  cases call with
  | cleanup time idleTtl =>
    dsimp only [LimiterCall.now] at after reached ⊢
    rw [RateLimiter.advance, level_cleanup (sound.mono after) patient reached]
    simp [decided]
  | check other time =>
    dsimp only [LimiterCall.now] at after reached ⊢
    rw [RateLimiter.advance, level_check enabled other ip reached]
    by_cases same : ip = other
    · subst same
      have level : ∀ credit, min (limiter.level ip time - limiter.spent ip time + credit)
          (limiter.limitPerMinute : ℚ) ≤ min (limiter.level ip time + credit)
            limiter.limitPerMinute := fun credit =>
        min_le_min_right _ (by linarith [limiter.spent_nonneg ip time])
      simp only [decided, (check_spec enabled ip time).1, countP_singleton, Decision.countsFor,
        decide_eq_true_eq, if_true, true_and]
      split
      · rename_i counted
        obtain ⟨enough, inside, -⟩ := counted
        simp only [max_eq_left inside, spent, if_pos enough, sub_self, zero_mul,
          add_zero, Nat.cast_one]
        linarith [min_le_left (limiter.level ip time - 1) (limiter.limitPerMinute : ℚ)]
      · rw [Nat.cast_zero, zero_add, (sound.mono after).level_later ip reached]
        exact level _
    · simp [decided, Decision.countsFor, same, Ne.symm same]

/-- By induction on the calls; what is left of a window allows for the level at its next moment
and what is credited from there on. -/
theorem Sound.countP_le (ordered : Ordered now calls) (patient : ∀ call ∈ calls, call.Patient)
    (ip : IpAddr) {start stop : ℚ} (inside : max now start ≤ stop) :
    ((limiter.decisions calls).countP (Decision.countsFor ip start stop) : ℚ) ≤
      limiter.level ip (max now start) +
        (stop - max now start) * refillRate limiter.limitPerMinute := by
  induction calls generalizing limiter now with
  | nil =>
    have credit := mul_nonneg (sub_nonneg.mpr inside) (refillRate_nonneg limiter.limitPerMinute)
    simpa [decisions] using add_nonneg sound.level_nonneg credit
  | cons call rest ih =>
    obtain ⟨after, ordered⟩ := ordered
    have step : max now start ≤ max call.now start := max_le_max_right start after
    have grows := ((sound.mono (le_max_left now start)).level_later ip step).trans_le
      (min_le_left _ _)
    rcases le_or_gt (max call.now start) stop with still | past
    · have one := sound.level_advance enabled after (patient call mem_cons_self) ip start stop
      have others := ih (sound.advance enabled after)
        (by simpa [disabled, advance_limit] using enabled) ordered
        (fun later member => patient later (mem_cons_of_mem call member)) still
      rw [advance_limit] at others
      rw [decisions, countP_append, Nat.cast_add]
      linarith
    · have late : stop < call.now := (lt_max_iff.mp past).resolve_right
        (not_lt.mpr ((le_max_right now start).trans inside))
      have fromHere : Ordered call.now (call :: rest) := ⟨le_refl _, ordered⟩
      have none : (limiter.decisions (call :: rest)).countP
          (Decision.countsFor ip start stop) = 0 := by
        refine countP_eq_zero.mpr fun decision member counted => ?_
        have begun := decisions_after fromHere decision member
        simp only [Decision.countsFor, decide_eq_true_eq] at counted
        linarith [counted.2.2.2]
      have credit := mul_nonneg (sub_nonneg.mpr inside) (refillRate_nonneg limiter.limitPerMinute)
      rw [none, Nat.cast_zero]
      exact add_nonneg sound.level_nonneg credit

end

/-- By induction on the calls, for two limiters that agree from `now` on. -/
theorem decisions_isCheck {other : RateLimiter} (enabled : limiter.disabled = false)
    (limits : other.limitPerMinute = limiter.limitPerMinute) (sound : limiter.Sound now)
    (levels : ∀ ip later, now ≤ later → limiter.level ip later = other.level ip later)
    (ordered : Ordered now calls) (patient : ∀ call ∈ calls, call.Patient) :
    limiter.decisions calls = other.decisions (calls.filter LimiterCall.isCheck) := by
  induction calls generalizing limiter other now with
  | nil => rfl
  | cons call rest ih =>
    obtain ⟨after, ordered⟩ := ordered
    have others := fun later member => patient later (mem_cons_of_mem call member)
    have enabledNext : (limiter.advance call).disabled = false := by
      simpa [disabled, advance_limit] using enabled
    have soundNext := sound.advance enabled after
    cases call with
    | cleanup time idleTtl =>
      refine ih enabledNext limits soundNext (fun ip later follows => ?_) ordered others
      rw [← levels ip later (after.trans follows)]
      exact level_cleanup (sound.mono after) (patient _ mem_cons_self) follows ip
    | check ip time =>
      have otherEnabled : other.disabled = false := by simpa [disabled, limits] using enabled
      have same := levels ip time after
      have next : ∀ asked later, time ≤ later →
          (limiter.advance (.check ip time)).level asked later =
            (other.advance (.check ip time)).level asked later := by
        intro asked later follows
        simp only [advance, level_check enabled ip asked follows,
          level_check otherEnabled ip asked follows, spent, same, limits,
          levels asked later (le_trans after follows)]
      rw [filter_cons_of_pos rfl, decisions, decisions, decided, decided,
        (check_spec enabled ip time).1, (check_spec otherEnabled ip time).1, same,
        ih enabledNext (by rw [advance_limit, advance_limit, limits]) soundNext next ordered others]

end RateLimiter

/-- For calls in the order of their instants, from any moment on. -/
theorem rate_limiter_bound (limit : Nat) (positive : 0 < limit) (calls : List LimiterCall) (now : ℚ)
    (ordered : RateLimiter.Ordered now calls) (patient : ∀ call ∈ calls, call.Patient) (ip : IpAddr)
    (start length : ℚ) (nonneg : 0 ≤ length) :
    (((RateLimiter.new limit).decisions calls).countP
        (Decision.countsFor ip start (start + length)) : ℚ) ≤ limit + limit * length / 60 ∧
      (RateLimiter.new limit).decisions calls =
        (RateLimiter.new limit).decisions (calls.filter LimiterCall.isCheck) := by
  have enabled : (RateLimiter.new limit).disabled = false := decide_eq_false positive.ne'
  have sound : ∀ now, (RateLimiter.new limit).Sound now := fun _ _ _ found => by cases found
  refine ⟨?_, RateLimiter.decisions_isCheck enabled rfl (sound now) (fun _ _ _ => rfl) ordered
    patient⟩
  have earlier : RateLimiter.Ordered (min now start) calls := by
    cases calls with
    | nil => trivial
    | cons call rest => exact ⟨(min_le_left _ _).trans ordered.1, ordered.2⟩
  have window : max (min now start) start = start := max_eq_right (min_le_right _ _)
  have inside : max (min now start) start ≤ start + length := by linarith
  have counted := (sound (min now start)).countP_le enabled earlier patient ip inside
  have full : (RateLimiter.new limit).level ip start = limit := rfl
  have rate : refillRate (RateLimiter.new limit).limitPerMinute = limit / 60 := rfl
  rw [window, full, rate] at counted
  linarith

def localhost : IpAddr := .v4 ⟨127, 0, 0, 1⟩

/-- The cleanup drops the bucket of the two checks before it. -/
theorem two_per_minute_bound :
    (((RateLimiter.new 2).decisions [.check localhost 0, .check localhost 1, .cleanup 62 60,
      .check localhost 63]).countP (Decision.countsFor localhost 1 61) : ℚ) ≤ 4 := by
  have bound := (rate_limiter_bound 2 (by decide) [.check localhost 0, .check localhost 1,
    .cleanup 62 60, .check localhost 63] 0
    (by norm_num [RateLimiter.Ordered, LimiterCall.now])
    (by simp [LimiterCall.Patient]) localhost 1 60 (by norm_num)).1
  norm_num at bound ⊢
  exact bound

/-- A limit of zero switches the limiter off. -/
theorem zero_limit_unbounded :
    ¬ (((RateLimiter.new 0).decisions [.check localhost 0]).countP
      (Decision.countsFor localhost 0 0) : ℚ) ≤ 0 + 0 * 0 / 60 := by
  decide +kernel

namespace RateLimiter

/-- What each check of the address credits: the time from the stored instant to its own. -/
def spans (limiter : RateLimiter) (ip : IpAddr) : List ℚ → List (ℚ × ℚ)
  | [] => []
  | now :: rest =>
    ((limiter.buckets ip).elim now Bucket.updatedAt, now) :: (limiter.check ip now).2.spans ip rest

/-- The tokens that the checks add to the bucket of the address. -/
def creditedTo (limiter : RateLimiter) (ip : IpAddr) : List ℚ → ℚ
  | [] => 0
  | now :: rest =>
    limiter.level ip now - (limiter.buckets ip).elim 0 Bucket.tokens +
      (limiter.check ip now).2.creditedTo ip rest

end RateLimiter

open RateLimiter in
/-- Time is credited once, and `updated_at` never moves back, exactly for instants that reach the
bucket in their order. -/
theorem ordered_instants_credited_once (limiter : RateLimiter)
    (enabled : limiter.disabled = false) (ip : IpAddr) (bucket : Bucket)
    (found : limiter.buckets ip = some bucket) (instants : List ℚ) :
    ((∀ span ∈ limiter.spans ip instants, bucket.updatedAt ≤ span.1 ∧ span.1 ≤ span.2) ∧
        (limiter.spans ip instants).Pairwise (fun earlier later => earlier.2 ≤ later.1) ↔
      (bucket.updatedAt :: instants).Pairwise (· ≤ ·)) ∧
    ((bucket.updatedAt :: instants).Pairwise (· ≤ ·) →
      limiter.creditedTo ip instants ≤
        (instants.getLastD bucket.updatedAt - bucket.updatedAt) *
          refillRate limiter.limitPerMinute) := by
  induction instants generalizing limiter bucket with
  | nil => simp [spans, creditedTo]
  | cons now rest ih =>
    have checked := (check_spec enabled ip now).2
    obtain ⟨once, credit⟩ := ih (limiter.check ip now).2
      (by simpa [checked, disabled] using enabled)
      ⟨limiter.level ip now - limiter.spent ip now, now⟩ (by simp [checked])
    have span : limiter.spans ip (now :: rest) =
        (bucket.updatedAt, now) :: (limiter.check ip now).2.spans ip rest := by simp [spans, found]
    refine ⟨?_, fun ordered => ?_⟩
    · rw [span, forall_mem_cons, pairwise_cons, pairwise_cons, ← once]
      constructor
      · rintro ⟨⟨⟨-, begun⟩, forward⟩, later, apart⟩
        have ordered := once.mp
          ⟨fun span member => ⟨later span member, (forward span member).2⟩, apart⟩
        refine ⟨fun instant member => ?_, once.mpr ordered⟩
        rcases mem_cons.mp member with rfl | member
        · exact begun
        · exact begun.trans ((pairwise_cons.mp ordered).1 instant member)
      · rintro ⟨first, forward, apart⟩
        have begun := first now mem_cons_self
        exact ⟨⟨⟨le_rfl, begun⟩, fun span member =>
          ⟨begun.trans (forward span member).1, (forward span member).2⟩⟩,
          fun span member => (forward span member).1, apart⟩
    · obtain ⟨first, ordered⟩ := pairwise_cons.mp ordered
      have begun : bucket.updatedAt ≤ now := first now mem_cons_self
      have credit := credit ordered
      have gained : limiter.level ip now ≤
          bucket.tokens + (now - bucket.updatedAt) * refillRate limiter.limitPerMinute := by
        simp only [level, found, Bucket.refill, saturatingSince,
          max_eq_right (sub_nonneg.mpr begun)]
        exact min_le_left _ _
      simp only [checked] at credit
      simp only [creditedTo, found, checked, Option.elim_some, getLastD_cons]
      linarith

def emptied : RateLimiter where
  limitPerMinute := 60
  buckets ip := if ip = localhost then some ⟨0, 0⟩ else none

theorem ten_seconds_credited_once : emptied.creditedTo localhost [4, 10] ≤ 10 := by
  have credit := (ordered_instants_credited_once emptied (by decide) localhost ⟨0, 0⟩
    (by simp [emptied]) [4, 10]).2 (by norm_num)
  norm_num [refillRate, emptied] at credit ⊢
  exact credit

/-- A check that was taken over by one ten seconds younger moves the bucket back. -/
theorem late_check_credits_again :
    emptied.spans localhost [10, 0, 10] = [(0, 10), (10, 0), (0, 10)] ∧
      emptied.creditedTo localhost [10, 0, 10] = 20 := by
  decide +kernel

/-- The whole seconds of the time to wait. -/
def retryAfterSecs (retryAfter : ℚ) : Nat := ⌊retryAfter⌋₊

theorem RateLimiter.check_rejected {limiter : RateLimiter} {ip : IpAddr} {now wait : ℚ}
    (rejected : (limiter.check ip now).1 = some wait) :
    limiter.disabled = false ∧ limiter.spent ip now = 0 ∧
      wait = max ((1 - limiter.level ip now) / refillRate limiter.limitPerMinute) 1 := by
  cases enabled : limiter.disabled with
  | true => simp [check, enabled] at rejected
  | false =>
    simp only [check, enabled, refill_entry, Bucket.take] at rejected
    by_cases enough : 1 ≤ limiter.level ip now
    · simp [enough] at rejected
    · refine ⟨rfl, if_neg enough, ?_⟩
      simpa [enough] using rejected.symm

open RateLimiter in
/-- A request after the advertised time is admitted exactly when the missing part of a token
takes a whole number of seconds, or at most one, so that no fraction is cut off. -/
theorem retry_after_sufficient_iff (limiter : RateLimiter) (ip : IpAddr) (now wait : ℚ)
    (rejected : (limiter.check ip now).1 = some wait) :
    ((limiter.check ip now).2.check ip (now + retryAfterSecs wait)).1 = none ↔
      (1 - limiter.level ip now) / refillRate limiter.limitPerMinute ≤ 1 ∨
        ∃ seconds : Nat, (1 - limiter.level ip now) / refillRate limiter.limitPerMinute =
          seconds := by
  obtain ⟨enabled, unspent, isWait⟩ := check_rejected rejected
  have still : (limiter.check ip now).2.disabled = false := by
    rw [(check_spec enabled ip now).2]
    exact enabled
  have positive : 1 ≤ limiter.limitPerMinute := by
    simpa [disabled, Nat.one_le_iff_ne_zero] using enabled
  have limit : (1 : ℚ) ≤ limiter.limitPerMinute := by exact_mod_cast positive
  have rate : 0 < refillRate limiter.limitPerMinute := by
    rw [refillRate]
    linarith
  have whole : (1 : ℚ) ≤ retryAfterSecs wait := by
    exact_mod_cast Nat.le_floor (by simp [isWait] : ((1 : Nat) : ℚ) ≤ wait)
  have below : (retryAfterSecs wait : ℚ) ≤ wait :=
    Nat.floor_le (by rw [isWait]; exact zero_le_one.trans (le_max_right _ _))
  rw [← Option.isNone_iff_eq_none, (check_spec still ip _).1, decide_eq_true_eq,
    level_check enabled ip ip (by linarith), if_pos rfl, unspent, sub_zero, add_sub_cancel_left,
    le_min_iff, and_iff_left limit, ← sub_le_iff_le_add', ← div_le_iff₀ rate]
  constructor
  · intro enough
    have exactly := le_antisymm (isWait.trans_le (max_le enough whole)) below
    refine or_iff_not_imp_left.mpr fun long => ⟨retryAfterSecs wait, ?_⟩
    rw [← exactly, isWait, max_eq_left (not_le.mp long).le]
  · rintro (short | ⟨seconds, exactly⟩)
    · exact short.trans whole
    · rw [exactly, Nat.cast_le, retryAfterSecs]
      exact Nat.le_floor (by rw [isWait, exactly]; exact le_max_left _ _)

theorem one_second_suffices :
    ((emptied.check localhost 0).2.check localhost (0 + retryAfterSecs 1)).1 = none :=
  (retry_after_sufficient_iff emptied localhost 0 1 (by decide +kernel)).mpr
    (.inl (by decide +kernel))

/-- At seven requests per minute, eight of 60/7 seconds are advertised. -/
theorem eighth_second_rejected :
    let limiter : RateLimiter := ⟨7, fun _ => some ⟨0, 0⟩⟩
    (limiter.check localhost 0).1 = some (60 / 7) ∧ retryAfterSecs (60 / 7) = 8 ∧
      ((limiter.check localhost 0).2.check localhost (0 + 8)).1 = some 1 := by
  decide +kernel

def LimiterCall.concerns (ip : IpAddr) : LimiterCall → Bool
  | .check other _ => other = ip
  | .cleanup _ _ => true

/-- By induction on the calls, for two limiters that agree about the address. -/
theorem RateLimiter.decisions_concerns {limiter other : RateLimiter} {ip : IpAddr}
    {calls : List LimiterCall} (limits : other.limitPerMinute = limiter.limitPerMinute)
    (same : other.buckets ip = limiter.buckets ip) :
    (limiter.decisions calls).filter (fun decision => decision.ip = ip) =
      other.decisions (calls.filter (LimiterCall.concerns ip)) := by
  induction calls generalizing limiter other with
  | nil => rfl
  | cons call rest ih =>
    rw [decisions, filter_append]
    cases call with
    | cleanup now idleTtl =>
      exact ih limits (by simp only [advance, cleanup, same])
    | check asked now =>
      have limit (limiter : RateLimiter) :
          (limiter.advance (.check asked now)).limitPerMinute = limiter.limitPerMinute :=
        advance_limit
      by_cases own : asked = ip
      · subst own
        have alike : (other.check asked now).1 = (limiter.check asked now).1 ∧
            (other.check asked now).2.buckets asked =
              (limiter.check asked now).2.buckets asked := by
          by_cases zero : limiter.limitPerMinute = 0 <;> simp [check, disabled, limits, zero, same]
        rw [filter_cons_of_pos (by simp [LimiterCall.concerns]), decisions, decided, decided,
          alike.1, filter_cons_of_pos (by simp), filter_nil]
        exact congrArg _ (ih (by rw [limit, limit, limits]) alike.2)
      · have kept : (limiter.check asked now).2.buckets ip = limiter.buckets ip := by
          unfold check
          split
          · rfl
          · exact Function.update_of_ne (Ne.symm own) _ _
        rw [filter_cons_of_neg (by simp [LimiterCall.concerns, own]), decided,
          filter_cons_of_neg (by simp [own])]
        exact ih (limits.trans (limit limiter).symm) (same.trans kept.symm)

/-- What is decided about an address depends on its own requests and on the cleanups only. -/
theorem clients_decided_apart (limiter : RateLimiter) (ip : IpAddr) (calls : List LimiterCall) :
    (limiter.decisions calls).filter (fun decision => decision.ip = ip) =
      limiter.decisions (calls.filter (LimiterCall.concerns ip)) :=
  RateLimiter.decisions_concerns rfl rfl

end KizunaLink.Server
