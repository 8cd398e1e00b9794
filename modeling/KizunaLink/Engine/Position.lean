import KizunaLink.Engine.TrackSteps

/-!
# What the position counts

A call of `mix` adds half of what it has filled to the position when it leaves its loop
(engine/mix/mixer.rs).  So the samples counted so far are those mixed but for the ones of
the loop that is under way, as long as every buffer holds whole stereo frames.
-/

set_option autoImplicit false

namespace KizunaLink.Engine

open KizunaLink.Lib List

def MixPoint.filled : MixPoint → Nat
  | .pulling _ _ filled => filled
  | .idle | .retained _ | .closing _ | .ramping _ => 0

def MixPoint.outLen : MixPoint → Option Nat
  | .retained outLen | .pulling _ outLen _ => some outLen
  | .idle | .closing _ | .ramping _ => none

def TrackAct.wholeFrames : TrackAct → Bool
  | .retain outLen => decide (2 ∣ outLen)
  | .push _ | .flush | .pushOpus _ | .dropEngine | .dropCommands | .getState | .pause _ | .play _
  | .load | .pull | .storeStopped _ | .storeRamp _ => true

def AudioFrame.IsFrom (limit : Nat) : AudioFrame → Prop
  | .pcm samples => ∀ sample ∈ samples, limit ≤ sample
  | .opus _ => True

theorem AudioFrame.IsFrom.mono {frame : AudioFrame} {limit later : Nat}
    (isFrom : frame.IsFrom later) (below : limit ≤ later) : frame.IsFrom limit := by
  cases frame with
  | opus packet => trivial
  | pcm samples => exact fun sample member => Nat.le_trans below (isFrom sample member)

namespace Track

variable {track next : Track} {act : TrackAct}

def counted (track : Track) : List Nat :=
  track.mixed.take (track.mixed.length - track.point.filled)

variable {outLen filled : Nat} {loaded : PlaybackState}

theorem length_counted (track : Track) :
    track.counted.length = track.mixed.length - track.point.filled := by
  rw [counted, length_take]
  omega

structure Paired (track : Track) : Prop where
  leftover : 2 ∣ track.leftover.length
  buffer : ∀ outLen, track.point.outLen = some outLen → 2 ∣ outLen
  filled : 2 ∣ track.point.filled
  mixed : track.point.filled ≤ track.mixed.length
  room : ∀ loaded outLen filled, track.point = .pulling loaded outLen filled →
    filled < outLen → track.pending = []

theorem new_paired (capacity : Nat) : (new capacity).Paired where
  leftover := Nat.dvd_zero 2
  buffer _ none := by cases none
  filled := Nat.dvd_zero 2
  mixed := Nat.zero_le _
  room _ _ _ pulling := by cases pulling

section

variable (paired : track.Paired)
include paired

theorem Paired.outside (leftover : next.leftover = track.leftover) (filled : next.point.filled = 0)
    (buffer : ∀ outLen, next.point.outLen = some outLen → 2 ∣ outLen)
    (room : ∀ loaded outLen filled, next.point ≠ .pulling loaded outLen filled) : next.Paired where
  leftover := by
    rw [leftover]
    exact paired.leftover
  buffer := buffer
  filled := by
    rw [filled]
    exact Nat.dvd_zero 2
  mixed := by
    rw [filled]
    exact Nat.zero_le _
  room loaded outLen filled pulling := absurd pulling (room loaded outLen filled)

theorem Paired.load {outLen : Nat}
    (retained : track.point = .retained outLen) : (track.load outLen).Paired := by
  have even : 2 ∣ outLen := paired.buffer outLen (by rw [retained]; rfl)
  have left := paired.leftover
  have lengths : track.leftover.length = track.pending.length - track.pendingPos := by
    rw [Track.leftover, length_drop]
  rw [Track.load]
  by_cases rests : track.cell = .paused ∨ track.cell = .stopped
  · rw [if_pos rests]
    exact paired.outside rfl rfl (fun _ none => by cases none) fun _ _ _ pulling => by cases pulling
  · rw [if_neg rests]
    refine ⟨?_, fun other same => ?_, ?_, ?_, fun loaded other filled pulling notFull => ?_⟩
    · dsimp only
      rw [Track.leftover, length_drop]
      by_cases drained : track.pending.length ≤
          track.pendingPos + min outLen track.leftover.length
      · simp [drained]
      · simp only [drained, decide_false, Bool.false_eq_true, if_false]
        omega
    · cases same
      exact even
    · change 2 ∣ min outLen track.leftover.length
      omega
    · change min outLen track.leftover.length ≤ _
      rw [length_append, length_take]
      omega
    · cases pulling
      have drained : track.pending.length ≤
          track.pendingPos + min outLen track.leftover.length := by omega
      simp [drained]

theorem Paired.popFrame (pulling : track.point = .pulling loaded outLen filled)
    (popped : track.pops outLen filled = true) : (track.popFrame loaded outLen filled).Paired := by
  simp only [pops, Bool.and_eq_true, decide_eq_true_eq] at popped
  obtain ⟨⟨notFull, _⟩, whole⟩ := popped
  have even : 2 ∣ outLen := paired.buffer outLen (by rw [pulling]; rfl)
  have pairs : 2 ∣ filled := by
    have filled := paired.filled
    rwa [pulling] at filled
  have fits : filled ≤ track.mixed.length := by
    have mixed := paired.mixed
    rwa [pulling] at mixed
  have length : (track.flow.pendingPcm.take frameSize).length = 1920 :=
    length_take_of_le whole
  have empty := paired.room loaded outLen filled pulling notFull
  rw [Track.popFrame]
  refine ⟨?_, fun other same => ?_, ?_, ?_, fun _ other more here notFull => ?_⟩
  · dsimp only
    rw [Track.leftover, length_drop, length_append, length_drop, empty, length]
    split <;> simp only [length_nil] <;> omega
  · cases same
    exact even
  · change 2 ∣ filled + min _ (outLen - filled)
    omega
  · change filled + min _ (outLen - filled) ≤ _
    rw [length, length_append, length_take, length]
    omega
  · cases here
    -- a frame that leaves room in the buffer fitted whole
    dsimp only
    rw [empty, nil_append, drop_eq_nil_of_le (by omega)]

theorem Paired.pulled (pulling : track.point = .pulling loaded outLen filled)
    (pulled : Pulled track loaded outLen filled next) : next.Paired := by
  cases pulled with
  | close | finish _ _ _ _ _ =>
    exact paired.outside rfl rfl (fun _ none => by cases none) fun _ _ _ pulling => by cases pulling
  | receive frame rest _ _ =>
    exact { paired with }
  | pop popped => exact paired.popFrame pulling popped

theorem Paired.step (whole : act.wholeFrames = true)
    (stepped : Stepped track act next) : next.Paired := by
  cases stepped with
  | push _ _ _ | flush _ | pushOpus _ _ | dropEngine | dropCommands _ | pause _ | play _ =>
    exact { paired with }
  | getState =>
    rw [getState]
    split <;>
      exact { paired with }
  | retain outLen _ _ =>
    rw [retain]
    split
    · exact { paired with }
    · refine paired.outside rfl rfl (fun other same => ?_) fun _ _ _ pulling => by cases pulling
      cases same
      exact of_decide_eq_true whole
  | load outLen retained => exact paired.load retained
  | pull loaded outLen filled pulling =>
    exact paired.pulled pulling (pull_pulled track loaded outLen filled)
  | storeStopped _ _ _ | storeRamp _ _ _ =>
    exact paired.outside rfl rfl (fun _ none => by cases none) fun _ _ _ pulling => by cases pulling

end

theorem Stepped.mixed (stepped : Stepped track act next) :
    ∃ more, next.mixed = track.mixed ++ more := by
  have same : ∃ more, track.mixed = track.mixed ++ more := ⟨[], (append_nil _).symm⟩
  cases stepped with
  | push _ _ _ | flush _ | pushOpus _ _ | dropEngine | dropCommands _ | pause _ | play _
  | storeStopped _ _ _ | storeRamp _ _ _ => exact same
  | getState =>
    rw [Track.getState]
    split <;> exact same
  | retain outLen _ _ =>
    rw [Track.retain]
    split <;> exact same
  | load outLen _ =>
    rw [Track.load]
    split
    · exact same
    · exact ⟨_, rfl⟩
  | pull loaded outLen filled _ =>
    have pulled := pull_pulled track loaded outLen filled
    generalize track.pull loaded outLen filled = next at pulled ⊢
    cases pulled with
    | close | finish _ _ _ _ _ | receive _ _ _ _ => exact same
    | pop _ => exact ⟨_, rfl⟩

theorem Paired.counted_pull (paired : track.Paired)
    (pulling : track.point = .pulling loaded outLen filled) :
    (track.pull loaded outLen filled).counted.length =
      track.counted.length + 2 * track.positionGain .pull := by
  have even : 2 ∣ filled := by
    have filled := paired.filled
    rwa [pulling] at filled
  have fits : filled ≤ track.mixed.length := by
    have mixed := paired.mixed
    rwa [pulling] at mixed
  have gain : track.positionGain .pull =
      if (track.pull loaded outLen filled).point = .closing loaded then filled / 2 else 0 := by
    simp only [positionGain, pulling]
  rw [gain, length_counted, length_counted, pulling]
  have pulled := pull_pulled track loaded outLen filled
  generalize track.pull loaded outLen filled = next at pulled ⊢
  cases pulled with
  | close | finish _ _ _ _ _ =>
    simp only [MixPoint.filled, if_true]
    omega
  | receive frame rest _ _ => simp [pulling, MixPoint.filled]
  | pop popped =>
    simp only [Track.popFrame, MixPoint.filled, reduceCtorEq, if_false, length_append, length_take]
    omega

theorem Paired.counted (paired : track.Paired) (stepped : Stepped track act next) :
    next.counted.length = track.counted.length + 2 * track.positionGain act := by
  cases stepped with
  | push _ _ _ | flush _ | pushOpus _ _ | dropEngine | dropCommands _ | pause _ | play _ => rfl
  | getState =>
    rw [getState]
    split <;> rfl
  | retain outLen _ idle =>
    rw [length_counted, length_counted, retain, idle]
    split <;> rfl
  | load outLen retained =>
    rw [length_counted, length_counted, Track.load, retained]
    split
    · rfl
    · simp only [MixPoint.filled, length_append, length_take, positionGain]
      omega
  | pull loaded outLen filled pulling => exact paired.counted_pull pulling
  | storeStopped _ _ closing | storeRamp _ _ closing =>
    rw [length_counted, length_counted, closing]
    rfl

theorem Stepped.inMixer (stepped : Stepped track act next)
    (other : ∀ outLen, act ≠ .retain outLen) : next.inMixer = track.inMixer := by
  cases stepped with
  | push _ _ _ | flush _ | pushOpus _ _ | dropEngine | dropCommands _ | pause _ | play _
  | storeStopped _ _ _ | storeRamp _ _ _ => rfl
  | getState =>
    rw [Track.getState]
    split <;> rfl
  | retain outLen _ _ => exact absurd rfl (other outLen)
  | load outLen _ =>
    rw [Track.load]
    split <;> rfl
  | pull loaded outLen filled _ =>
    have pulled := pull_pulled track loaded outLen filled
    generalize track.pull loaded outLen filled = next at pulled ⊢
    cases pulled <;> rfl

/-! ## Samples from a number on -/

/-- What a step other than a turn of the loops puts behind the frames. -/
theorem Stepped.frames (stepped : Stepped track act next) (other : act ≠ .pull) :
    track.pushedCount ≤ next.pushedCount ∧
      ∃ more, next.frames = track.frames ++ more ∧
        ∀ frame ∈ more, frame.IsFrom track.pushedCount := by
  have same : track.pushedCount ≤ track.pushedCount ∧
      ∃ more, track.frames = track.frames ++ more ∧
        ∀ frame ∈ more, frame.IsFrom track.pushedCount :=
    ⟨Nat.le_refl _, [], (append_nil _).symm, nofun⟩
  cases stepped with
  | push count _ _ =>
    refine ⟨Nat.le_add_right _ _, _, rfl, fun frame member => ?_⟩
    cases mem_singleton.mp member
    exact fun sample pushed => (mem_range'_1.mp pushed).1
  | flush _ | pushOpus _ _ => exact ⟨Nat.le_refl _, _, rfl, by simp [AudioFrame.IsFrom]⟩
  | dropEngine | dropCommands _ | pause _ | play _ | storeStopped _ _ _ | storeRamp _ _ _ =>
    exact same
  | getState =>
    rw [Track.getState]
    split <;> exact same
  | retain outLen _ _ =>
    rw [Track.retain]
    split <;> exact same
  | load outLen _ =>
    rw [Track.load]
    split <;> exact same
  | pull _ _ _ _ => exact absurd rfl other

variable {limit count : Nat}

/-- No sample before `limit` is on its way to the mixer, and none is among the mixed ones behind
the first `count`. -/
structure Fresh (limit count : Nat) (track : Track) : Prop where
  pushed : limit ≤ track.pushedCount
  frames : ∀ frame ∈ track.frames, frame.IsFrom limit
  flow : ∀ sample ∈ track.flow.pendingPcm, limit ≤ sample
  pending : ∀ sample ∈ track.pending, limit ≤ sample
  mixed : ∀ sample ∈ track.mixed.drop count, limit ≤ sample

section

variable (fresh : track.Fresh limit count)
include fresh

theorem Fresh.mixes {more : List Nat} (new : ∀ sample ∈ more, limit ≤ sample) :
    ∀ sample ∈ (track.mixed ++ more).drop count, limit ≤ sample := by
  rw [drop_append]
  exact forall_mem_append.mpr
    ⟨fresh.mixed, fun sample member => new sample (mem_of_mem_drop member)⟩

theorem Fresh.pulled (pulled : Pulled track loaded outLen filled next) :
    next.Fresh limit count := by
  cases pulled with
  | close => exact { fresh with }
  | finish flow same _ _ _ => exact { fresh with flow := same ▸ fresh.flow }
  | receive frame rest _ waiting =>
    obtain ⟨first, others⟩ := forall_mem_cons.mp (waiting ▸ fresh.frames)
    refine { fresh with frames := others, flow := ?_ }
    cases frame with
    | opus packet => exact fresh.flow
    | pcm samples =>
      change ∀ sample ∈ if samples.isEmpty then [] else track.flow.pendingPcm ++ samples, _
      split
      · exact nofun
      · exact forall_mem_append.mpr ⟨fresh.flow, first⟩
  | pop _ =>
    have frame : ∀ sample ∈ track.flow.pendingPcm.take frameSize, limit ≤ sample :=
      fun sample member => fresh.flow sample (mem_of_mem_take member)
    exact { fresh with
      flow := fun sample member => fresh.flow sample (mem_of_mem_drop member)
      pending := forall_mem_append.mpr
        ⟨fresh.pending, fun sample member => frame sample (mem_of_mem_drop member)⟩
      mixed := fresh.mixes fun sample member => frame sample (mem_of_mem_take member) }

theorem Fresh.step (stepped : Stepped track act next) : next.Fresh limit count := by
  by_cases pulls : act = .pull
  · subst pulls
    cases stepped with
    | pull loaded outLen filled _ => exact fresh.pulled (pull_pulled track loaded outLen filled)
  obtain ⟨grows, more, appended, new⟩ := stepped.frames pulls
  have pushed := Nat.le_trans fresh.pushed grows
  have frames : ∀ frame ∈ next.frames, frame.IsFrom limit := by
    rw [appended]
    exact forall_mem_append.mpr
      ⟨fresh.frames, fun frame member => (new frame member).mono fresh.pushed⟩
  cases stepped with
  | push _ _ _ | flush _ | pushOpus _ _ | dropEngine | dropCommands _ | pause _ | play _
  | storeStopped _ _ _ | storeRamp _ _ _ => exact { fresh with pushed, frames }
  | getState =>
    rw [getState]
    split <;> exact { fresh with }
  | retain outLen _ _ =>
    rw [retain]
    split <;> exact { fresh with }
  | load outLen _ =>
    rw [Track.load]
    split
    · exact { fresh with }
    · refine { fresh with pending := ?_, mixed := fresh.mixes fun sample member => ?_ }
      · dsimp only
        split
        · simp
        · exact fresh.pending
      · exact fresh.pending sample (mem_of_mem_drop (mem_of_mem_take member))
  | pull _ _ _ _ => exact absurd rfl pulls

end

end Track

end KizunaLink.Engine
