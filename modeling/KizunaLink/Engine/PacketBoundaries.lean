import KizunaLink.Engine.Resampler

/-!
# Resampling over packet boundaries

Resampling a stream packet by packet is compared with resampling it in one call.  The
linear and the sinc resampler read no frame behind the one they are at, so what they
carry from one packet to the next is all they need.  The Hermite resampler reads up to
two frames ahead, and at the end of a packet it takes the last frame for the ones it
does not have yet: packets leave no trace exactly where the outputs taken that close to
the end come out the same with both.
-/

set_option autoImplicit false

namespace KizunaLink.Engine

open KizunaLink.Lib List

variable {x y input : List Int}

abbrev SampleValue :=
  (lastSamples input : List Int) → (channels numFrames idx ch : Nat) → (fract : ℚ) → Int

/-- At the frames of an input, every access succeeds. -/
def Reads (sampleAt : SampleAt) (value : SampleValue) : Prop :=
  ∀ (lastSamples input : List Int) (channels idx ch : Nat) (fract : ℚ),
    lastSamples.length = channels → idx < input.length / channels → ch < channels →
      sampleAt lastSamples input channels (input.length / channels) idx ch fract =
        .ok (value lastSamples input channels (input.length / channels) idx ch fract)

def previousSample (lastSamples input : List Int) (channels idx ch : Nat) : Int :=
  if idx = 0 then lastSamples.getD ch 0 else frameSample channels input (idx - 1) ch

def aheadSample (input : List Int) (channels numFrames idx ch : Nat) : Int :=
  frameSample channels input (if idx < numFrames then idx else numFrames - 1) ch

def linearValue : SampleValue := fun lastSamples input channels _ idx ch fract =>
  toI16 (previousSample lastSamples input channels idx ch * (1 - fract) +
    frameSample channels input idx ch * fract)

def hermiteValue : SampleValue := fun lastSamples input channels numFrames idx ch fract =>
  toI16 (clampI16 (hermite (previousSample lastSamples input channels idx ch)
    (frameSample channels input idx ch) (aheadSample input channels numFrames (idx + 1) ch)
    (aheadSample input channels numFrames (idx + 2) ch) fract))

theorem index_previous {lastSamples : List Int} {channels idx ch : Nat}
    (length : lastSamples.length = channels) (frame : idx < input.length / channels)
    (channel : ch < channels) :
    (if idx = 0 then index lastSamples ch else index input ((idx - 1) * channels + ch)) =
      .ok (previousSample lastSamples input channels idx ch) := by
  rw [previousSample]
  by_cases first : idx = 0
  · rw [if_pos first, if_pos first, index_getD (by rw [length]; exact channel)]
  · rw [if_neg first, if_neg first, index_frame (by omega) channel]

theorem index_ahead {channels idx ch : Nat} (some : 0 < input.length / channels)
    (channel : ch < channels) :
    (if idx < input.length / channels then index input (idx * channels + ch)
      else index input ((input.length / channels - 1) * channels + ch)) =
      .ok (aheadSample input channels (input.length / channels) idx ch) := by
  rw [aheadSample]
  by_cases inside : idx < input.length / channels
  · rw [if_pos inside, if_pos inside, index_frame inside channel]
  · rw [if_neg inside, if_neg inside, index_frame (by omega) channel]

theorem reads_linear : Reads linearSample linearValue := by
  intro lastSamples input channels idx ch fract length frame channel
  have some : 0 < input.length / channels := (Nat.zero_le _).trans_lt frame
  have here : aheadSample input channels (input.length / channels) idx ch =
      frameSample channels input idx ch := by
    rw [aheadSample, if_pos frame]
  rw [linearSample, index_previous length frame channel, ok_bind, index_ahead some channel,
    ok_bind, here]
  rfl

theorem reads_hermite : Reads hermiteSample hermiteValue := by
  intro lastSamples input channels idx ch fract length frame channel
  have some : 0 < input.length / channels := (Nat.zero_le _).trans_lt frame
  have before : idx * channels + ch - channels = (idx - 1) * channels + ch ∨ idx = 0 := by
    cases idx with
    | zero => exact .inr rfl
    | succ idx =>
      left
      rw [Nat.add_sub_cancel, Nat.succ_mul]
      omega
  have p0 : (if idx = 0 then index lastSamples ch
      else index input (idx * channels + ch - channels)) =
      .ok (previousSample lastSamples input channels idx ch) := by
    rw [← index_previous length frame channel]
    rcases before with same | first
    · rw [same]
    · rw [if_pos first, if_pos first]
  have next : idx * channels + ch + channels = (idx + 1) * channels + ch := by
    rw [Nat.add_mul]
    omega
  have afterNext : idx * channels + ch + 2 * channels = (idx + 2) * channels + ch := by
    rw [Nat.add_mul]
    omega
  rw [hermiteSample, p0, ok_bind, index_frame frame channel, ok_bind, next,
    index_ahead some channel, ok_bind, afterNext, index_ahead some channel, ok_bind]
  rfl

/-! ## A call of the linear and the Hermite resampler -/

namespace Carried

variable {state : Carried} {sampleAt : SampleAt} {value : SampleValue}

/-- What holds of a resampler from its start on. -/
structure Ready (state : Carried) : Prop where
  positive : 0 < state.ratio
  forward : 0 ≤ state.index
  length : state.lastSamples.length = state.channels

theorem ready_new {sourceRate targetRate : Nat} (source : 0 < sourceRate) (target : 0 < targetRate)
    (channels : Nat) : (new sourceRate targetRate channels).Ready where
  positive := div_pos (Nat.cast_pos.mpr source) (Nat.cast_pos.mpr target)
  forward := le_rfl
  length := length_replicate

def count (state : Carried) (input : List Int) : Nat :=
  passes state.ratio (input.length / state.channels : Nat) state.index

def frameAt (state : Carried) (value : SampleValue) (input : List Int) (position : ℚ) : List Int :=
  (List.range state.channels).map fun ch =>
    value state.lastSamples input state.channels (input.length / state.channels) ⌊position⌋₊ ch
      (Int.fract position)

def carriedOn (state : Carried) (input : List Int) : List Int :=
  if 0 < input.length / state.channels then
    (List.range state.channels).map fun ch =>
      frameSample state.channels input (input.length / state.channels - 1) ch
  else state.lastSamples

def after (state : Carried) (input : List Int) : Carried :=
  { state with
    index := state.index + state.count input * state.ratio - (input.length / state.channels : Nat)
    lastSamples := state.carriedOn input }

theorem floor_lt {position : ℚ} {frames : Nat} (forward : 0 ≤ position)
    (below : position < frames) : ⌊position⌋₊ < frames :=
  (Nat.floor_lt forward).mpr below

theorem carry_ok (state : Carried) (input : List Int) :
    state.carry input = .ok (state.carriedOn input) := by
  rw [carry, carriedOn]
  by_cases some : 0 < input.length / state.channels
  · rw [if_pos some, if_pos some]
    apply mapM_ok
    intro ch member
    exact index_frame (by omega) (mem_range.mp member)
  · rw [if_neg some, if_neg some]
    rfl

section

variable (ready : state.Ready)
include ready

theorem emit_ok (reads : Reads sampleAt value) {position : ℚ}
    (forward : 0 ≤ position) (below : position < (input.length / state.channels : Nat)) :
    state.emit sampleAt input position = .ok (state.frameAt value input position) := by
  rw [emit, frameAt]
  apply mapM_ok
  intro ch member
  exact reads _ _ _ _ _ _ ready.length (floor_lt forward below) (mem_range.mp member)

theorem process_ok (reads : Reads sampleAt value) (input : List Int) :
    state.process sampleAt input =
      .ok (state.after input,
        outputs (state.frameAt value input) state.ratio state.index (state.count input)) := by
  have walked := walk_passes ready.positive (state.frameAt value input)
    (fun position later below => emit_ok ready reads (ready.forward.trans later) below)
    (Nat.lt_succ_self (state.count input))
  rw [process]
  dsimp only
  rw [← count, walked, ok_bind]
  dsimp only
  rw [carry_ok, ok_bind]
  rfl

theorem length_carriedOn : (state.carriedOn input).length = state.channels := by
  rw [carriedOn]
  split
  · rw [length_map, length_range]
  · exact ready.length

theorem Ready.after (input : List Int) : (state.after input).Ready where
  positive := ready.positive
  forward := sub_nonneg.mpr (le_index_passes ready.positive _ _)
  length := length_carriedOn ready

theorem Ready.reset : state.reset.Ready where
  positive := ready.positive
  forward := le_rfl
  length := length_replicate.trans ready.length

end

/-! ## Two calls and one -/

theorem previousSample_append (whole : state.channels ∣ x.length) {idx ch : Nat}
    (channel : ch < state.channels) :
    previousSample state.lastSamples (x ++ y) state.channels (x.length / state.channels + idx) ch =
      previousSample (state.carriedOn x) y state.channels idx ch := by
  rw [previousSample, previousSample]
  cases idx with
  | succ idx =>
    rw [← Nat.add_assoc, if_neg (Nat.succ_ne_zero _), if_neg (Nat.succ_ne_zero _),
      Nat.add_sub_cancel, Nat.add_sub_cancel, frameSample_append_right whole]
  | zero =>
    rw [if_pos rfl, Nat.add_zero, carriedOn]
    by_cases some : 0 < x.length / state.channels
    · rw [if_neg some.ne', if_pos some, getD_eq_getElem _ _ (by simpa using channel), getElem_map,
        getElem_range, frameSample_append_left (by omega) channel]
    · rw [if_pos (Nat.eq_zero_of_not_pos some), if_neg some]

theorem previousSample_append_left {lastSamples : List Int} {channels idx ch : Nat}
    (frame : idx < x.length / channels) (channel : ch < channels) :
    previousSample lastSamples (x ++ y) channels idx ch =
      previousSample lastSamples x channels idx ch := by
  rw [previousSample, previousSample]
  split
  · rfl
  · exact frameSample_append_left (by omega) channel

theorem aheadSample_append {channels idx ch : Nat} (whole : channels ∣ x.length)
    (some : 0 < y.length / channels) :
    aheadSample (x ++ y) channels (x.length / channels + y.length / channels)
        (x.length / channels + idx) ch =
      aheadSample y channels (y.length / channels) idx ch := by
  rw [aheadSample, aheadSample]
  by_cases inside : idx < y.length / channels
  · rw [if_pos (Nat.add_lt_add_left inside _), if_pos inside, frameSample_append_right whole]
  · rw [if_neg (by omega), if_neg inside, Nat.add_sub_assoc some, frameSample_append_right whole]

/-- In the second packet a sample is what it is in one call. -/
def ReadsOn (value : SampleValue) : Prop :=
  ∀ (state : Carried) (x y : List Int) (idx ch : Nat) (fract : ℚ), state.channels ∣ x.length →
    idx < y.length / state.channels → ch < state.channels →
      value state.lastSamples (x ++ y) state.channels
          (x.length / state.channels + y.length / state.channels)
          (x.length / state.channels + idx) ch fract =
        value (state.carriedOn x) y state.channels (y.length / state.channels) idx ch fract

theorem readsOn_linear : ReadsOn linearValue := by
  intro state x y idx ch fract whole _ channel
  simp only [linearValue, previousSample_append whole channel, frameSample_append_right whole]

theorem readsOn_hermite : ReadsOn hermiteValue := by
  intro state x y idx ch fract whole frame channel
  have some : 0 < y.length / state.channels := (Nat.zero_le _).trans_lt frame
  simp only [hermiteValue, previousSample_append whole channel, frameSample_append_right whole,
    Nat.add_assoc, aheadSample_append whole some]

/-- In the first packet a sample is what it is in one call, at the positions of the call. -/
def SameBefore (value : SampleValue) (state : Carried) (x y : List Int) : Prop :=
  ∀ before < state.count x, ∀ ch < state.channels,
    let position := state.index + before * state.ratio
    value state.lastSamples (x ++ y) state.channels
        (x.length / state.channels + y.length / state.channels) ⌊position⌋₊ ch
        (Int.fract position) =
      value state.lastSamples x state.channels (x.length / state.channels) ⌊position⌋₊ ch
        (Int.fract position)

theorem count_append (ready : state.Ready) (whole : state.channels ∣ x.length) :
    state.count (x ++ y) = state.count x + (state.after x).count y := by
  have later : ((x.length / state.channels : Nat) : ℚ) ≤
      ((x ++ y).length / state.channels : Nat) := by
    rw [frames_append whole]
    exact Nat.cast_le.mpr (Nat.le_add_right _ _)
  have split := passes_add ready.positive later state.index
  have shift : passes state.ratio ((x ++ y).length / state.channels : Nat)
      (state.index + state.count x * state.ratio) = (state.after x).count y := by
    rw [← passes_sub _ _ _ (x.length / state.channels : Nat), frames_append whole, Nat.cast_add,
      add_sub_cancel_left]
    rfl
  rw [count, split, ← count, shift]

theorem carriedOn_after : (state.after x).carriedOn y =
    if 0 < y.length / state.channels then
      (List.range state.channels).map fun ch =>
        frameSample state.channels y (y.length / state.channels - 1) ch
    else state.carriedOn x := rfl

theorem carriedOn_append (whole : state.channels ∣ x.length) (wholeY : state.channels ∣ y.length) :
    state.carriedOn (x ++ y) = (state.after x).carriedOn y := by
  rw [carriedOn_after]
  by_cases some : 0 < y.length / state.channels
  · have both : 0 < x.length / state.channels + y.length / state.channels :=
      some.trans_le (Nat.le_add_left _ _)
    rw [carriedOn, frames_append whole, if_pos both, if_pos some]
    apply map_congr_left
    intro ch _
    rw [Nat.add_sub_assoc some, frameSample_append_right whole]
  · have empty : y = [] := by
      rw [← length_eq_zero_iff, ← frames_mul wholeY, Nat.eq_zero_of_not_pos some, Nat.zero_mul]
    rw [if_neg some, empty, append_nil]

section

variable (ready : state.Ready)
include ready

theorem after_append (whole : state.channels ∣ x.length) (wholeY : state.channels ∣ y.length) :
    state.after (x ++ y) = (state.after x).after y := by
  have index : state.index + state.count (x ++ y) * state.ratio -
        ((x ++ y).length / state.channels : Nat) =
      state.index + state.count x * state.ratio - (x.length / state.channels : Nat) +
        (state.after x).count y * state.ratio - (y.length / state.channels : Nat) := by
    rw [count_append ready whole, frames_append whole, Nat.cast_add, Nat.cast_add]
    ring
  rw [after, index, carriedOn_append whole wholeY]
  rfl

theorem Ready.position_nonneg (before : Nat) : 0 ≤ state.index + before * state.ratio :=
  add_nonneg ready.forward (mul_nonneg (Nat.cast_nonneg _) ready.positive.le)

theorem Ready.frame_lt {before : Nat} (short : before < state.count x) :
    ⌊state.index + before * state.ratio⌋₊ < x.length / state.channels :=
  floor_lt (ready.position_nonneg before) ((lt_passes ready.positive).mp short)

/-- Behind the first packet the outputs are those of the second. -/
theorem outputs_append (whole : state.channels ∣ x.length) (readsOn : ReadsOn value) :
    outputs (state.frameAt value (x ++ y)) state.ratio state.index (state.count (x ++ y)) =
      outputs (state.frameAt value (x ++ y)) state.ratio state.index (state.count x) ++
        outputs ((state.after x).frameAt value y) state.ratio (state.after x).index
          ((state.after x).count y) := by
  have readyAfter := ready.after x
  rw [count_append ready whole, outputs_add]
  congr 1
  apply outputs_congr
  intro before short
  -- the position in the one input is the position in the packet, a number of frames later
  have position : state.index + state.count x * state.ratio + before * state.ratio =
      (state.after x).index + before * state.ratio + (x.length / state.channels : Nat) := by
    rw [after]
    ring
  have forward : 0 ≤ (state.after x).index + before * state.ratio :=
    readyAfter.position_nonneg before
  rw [frameAt, frameAt, frames_append whole, position, Nat.floor_add_natCast forward,
    Int.fract_add_natCast, Nat.add_comm _ (x.length / state.channels)]
  apply map_congr_left
  intro ch member
  exact readsOn state x y _ ch _ whole (readyAfter.frame_lt short) (mem_range.mp member)

omit ready in
theorem outputs_eq_iff (whole : state.channels ∣ x.length) :
    outputs (state.frameAt value (x ++ y)) state.ratio state.index (state.count x) =
        outputs (state.frameAt value x) state.ratio state.index (state.count x) ↔
      SameBefore value state x y := by
  constructor
  · intro same before short ch channel
    have frames := outputs_inj (fun _ => by rw [frameAt, frameAt, length_map, length_map]) same
      before short
    rw [frameAt, frameAt, frames_append whole] at frames
    exact map_inj_left.mp frames ch (mem_range.mpr channel)
  · intro same
    apply outputs_congr
    intro before short
    rw [frameAt, frameAt, frames_append whole]
    apply map_congr_left
    intro ch member
    exact same before short ch (mem_range.mp member)

theorem process_append (whole : state.channels ∣ x.length)
    (wholeY : state.channels ∣ y.length) (reads : Reads sampleAt value)
    (readsOn : ReadsOn value) :
    ∃ middle first final second both, state.process sampleAt x = .ok (middle, first) ∧
      middle.process sampleAt y = .ok (final, second) ∧
      state.process sampleAt (x ++ y) = .ok (final, both) ∧
      (both = first ++ second ↔ SameBefore value state x y) := by
  refine ⟨_, _, _, _, _, process_ok ready reads x, process_ok (ready.after x) reads y,
    by rw [process_ok ready reads, after_append ready whole wholeY], ?_⟩
  rw [outputs_append ready whole readsOn, ← outputs_eq_iff whole]
  exact append_left_inj _

theorem sameBefore_linear : SameBefore linearValue state x y := by
  intro before short ch channel
  have frame := ready.frame_lt short
  simp only [linearValue, previousSample_append_left frame channel,
    frameSample_append_left frame channel]

end

/-- Where an output reads behind the first packet, the curve through the frames that are there
has the value of the curve through the last frame held. -/
def SeamLevel (state : Carried) (x y : List Int) : Prop :=
  ∀ before < state.count x, ∀ ch < state.channels,
    let position := state.index + before * state.ratio
    x.length / state.channels ≤ ⌊position⌋₊ + 2 →
      hermiteValue state.lastSamples (x ++ y) state.channels
          (x.length / state.channels + y.length / state.channels) ⌊position⌋₊ ch
          (Int.fract position) =
        hermiteValue state.lastSamples x state.channels (x.length / state.channels) ⌊position⌋₊ ch
          (Int.fract position)

instance decidableSeamLevel (state : Carried) (x y : List Int) :
    Decidable (SeamLevel state x y) :=
  inferInstanceAs (Decidable (∀ before < state.count x, ∀ ch < state.channels, _ → _))

theorem sameBefore_hermite_iff (ready : state.Ready) :
    SameBefore hermiteValue state x y ↔ SeamLevel state x y := by
  constructor
  · exact fun same before short ch channel _ => same before short ch channel
  · intro level before short ch channel
    by_cases seam : x.length / state.channels ≤ ⌊state.index + before * state.ratio⌋₊ + 2
    · exact level before short ch channel seam
    · have frame := ready.frame_lt short
      simp only [hermiteValue]
      generalize ⌊state.index + before * state.ratio⌋₊ = idx at frame seam ⊢
      have same : ∀ ahead ≤ 2, aheadSample (x ++ y) state.channels
          (x.length / state.channels + y.length / state.channels) (idx + ahead) ch =
          aheadSample x state.channels (x.length / state.channels) (idx + ahead) ch := by
        intro ahead near
        have inside : idx + ahead < x.length / state.channels := by omega
        rw [aheadSample, aheadSample, if_pos (inside.trans_le (Nat.le_add_right _ _)),
          if_pos inside, frameSample_append_left inside channel]
      rw [previousSample_append_left frame channel, frameSample_append_left frame channel,
        same 1 (by decide), same 2 le_rfl]

end Carried

/-! ## The sinc resampler -/

namespace SincResampler

variable {state : SincResampler}

structure Ready (state : SincResampler) : Prop where
  positive : 0 < state.ratio
  forward : 0 ≤ state.index
  table : state.table.length = state.taps
  buffer : state.buffer.length = state.channels
  histories : ∀ history ∈ state.buffer, state.taps ≤ history.length

theorem ready_new (table : List ℚ) {sourceRate targetRate : Nat} (source : 0 < sourceRate)
    (target : 0 < targetRate) (channels : Nat) :
    (new table sourceRate targetRate channels).Ready where
  positive := div_pos (Nat.cast_pos.mpr source) (Nat.cast_pos.mpr target)
  forward := le_rfl
  table := rfl
  buffer := length_replicate
  histories := by
    intro history member
    rw [(mem_replicate.mp member).2, length_replicate]
    exact le_rfl

section

variable (ready : state.Ready)
include ready

theorem Ready.reset : state.reset.Ready where
  positive := ready.positive
  forward := le_rfl
  table := ready.table
  buffer := (length_map _).trans ready.buffer
  histories := by
    intro history member
    obtain ⟨before, inside, rfl⟩ := List.mem_map.mp member
    rw [length_map]
    exact ready.histories before inside

def pushed (state : SincResampler) (sample : Nat → Int) : List (List ℚ) :=
  (List.range state.channels).map fun ch =>
    (state.buffer.getD ch []).tail ++ [(sample ch : ℚ)]

theorem index_history {ch : Nat} (channel : ch < state.channels) :
    Lib.index state.buffer ch = .ok (state.buffer.getD ch []) := by
  have inside : ch < state.buffer.length := by rw [ready.buffer]; exact channel
  rw [index_ok inside, getD_eq_getElem _ _ inside]

theorem pushFrame_ok {frame : Nat} (inside : frame < input.length / state.channels) :
    state.pushFrame input frame = .ok (state.pushed (frameSample state.channels input frame)) := by
  apply mapM_ok
  intro ch member
  have channel := mem_range.mp member
  rw [index_history ready channel, ok_bind, index_frame inside channel, ok_bind]
  rfl

theorem Ready.pushed (sample : Nat → Int) : { state with buffer := state.pushed sample }.Ready where
  positive := ready.positive
  forward := ready.forward
  table := ready.table
  buffer := by rw [SincResampler.pushed, length_map, length_range]
  histories := by
    intro history member
    obtain ⟨ch, inside, rfl⟩ := List.mem_map.mp member
    have channel : ch < state.buffer.length := by
      rw [ready.buffer]
      exact mem_range.mp inside
    have long := ready.histories _ (getElem_mem channel)
    rw [length_append, length_tail, length_singleton, getD_eq_getElem _ _ channel]
    dsimp only
    omega

def frameOf (state : SincResampler) : List Int :=
  (List.range state.channels).map fun ch =>
    toI16 (clampI16 ((List.range state.taps).map fun tap =>
      (state.buffer.getD ch []).getD tap 0 * state.table.getD tap 0).sum)

theorem emit_ok (position : ℚ) : state.emit position = .ok state.frameOf := by
  apply mapM_ok
  intro ch member
  have channel := mem_range.mp member
  have inside : ch < state.buffer.length := by rw [ready.buffer]; exact channel
  have terms : ((List.range state.taps).mapM fun tap => do
      return (← Lib.index (state.buffer.getD ch []) tap) * (← Lib.index state.table tap)) =
      .ok ((List.range state.taps).map fun tap =>
        (state.buffer.getD ch []).getD tap 0 * state.table.getD tap 0) := by
    apply mapM_ok
    intro tap within
    have short := mem_range.mp within
    have long := ready.histories _ (getElem_mem inside)
    have history : tap < (state.buffer.getD ch []).length := by
      rw [getD_eq_getElem _ _ inside]
      exact short.trans_le long
    have entry : tap < state.table.length := by rw [ready.table]; exact short
    rw [index_ok history, ok_bind, index_ok entry, ok_bind, getD_eq_getElem _ _ history,
      getD_eq_getElem _ _ entry]
    rfl
  rw [index_history ready channel, ok_bind, terms, ok_bind]
  rfl

theorem emitFrames_ok :
    ∃ next output, state.emitFrames = .ok (next, output) ∧ next.Ready ∧
      next.channels = state.channels := by
  have walked := walk_passes ready.positive (fun _ => state.frameOf)
    (fun position _ _ => emit_ok ready position)
    (Nat.lt_succ_self (passes state.ratio 1 state.index))
  have reached := le_index_passes ready.positive 1 state.index
  refine ⟨{ state with index := state.index + passes state.ratio 1 state.index * state.ratio - 1 },
    _, by rw [emitFrames, walked]; rfl, ?_, rfl⟩
  exact { ready with forward := sub_nonneg.mpr reached }

theorem processFrame_ok {frame : Nat} (inside : frame < input.length / state.channels) :
    ∃ next output, state.processFrame input frame = .ok (next, output) ∧ next.Ready ∧
      next.channels = state.channels := by
  rw [processFrame, pushFrame_ok ready inside, ok_bind]
  exact emitFrames_ok (ready.pushed _)

theorem processFrames_ok {frames : List Nat}
    (inside : ∀ frame ∈ frames, frame < input.length / state.channels) :
    ∃ next output, processFrames input frames state = .ok (next, output) ∧ next.Ready ∧
      next.channels = state.channels := by
  induction frames generalizing state with
  | nil => exact ⟨state, [], rfl, ready, rfl⟩
  | cons frame rest ih =>
    obtain ⟨middle, first, processed, readyMiddle, channels⟩ :=
      processFrame_ok ready (inside frame mem_cons_self)
    obtain ⟨next, second, others, readyNext, same⟩ := ih readyMiddle (by
      intro other member
      rw [channels]
      exact inside other (mem_cons_of_mem frame member))
    refine ⟨next, first ++ second, ?_, readyNext, same.trans channels⟩
    rw [processFrames, processed, ok_bind]
    dsimp only
    rw [others, ok_bind]
    rfl

omit ready in
theorem processFrames_append {first second : List Nat} {middle final : SincResampler}
    {before behind : List Int} (start : processFrames input first state = .ok (middle, before))
    (rest : processFrames input second middle = .ok (final, behind)) :
    processFrames input (first ++ second) state = .ok (final, before ++ behind) := by
  induction first generalizing state before with
  | nil =>
    cases start
    exact rest
  | cons frame frames ih =>
    rw [processFrames] at start
    obtain ⟨⟨next, pushed⟩, processed, start⟩ := bind_ok start
    obtain ⟨⟨last, output⟩, others, start⟩ := bind_ok start
    cases start
    rw [cons_append, processFrames, processed, ok_bind]
    dsimp only
    rw [ih others, ok_bind, append_assoc]
    rfl

theorem processFrames_congr {other : List Int} {moved : Nat → Nat} {frames : List Nat}
    (inside : ∀ frame ∈ frames, frame < input.length / state.channels ∧
      moved frame < other.length / state.channels ∧ ∀ ch < state.channels,
      frameSample state.channels other (moved frame) ch =
      frameSample state.channels input frame ch) :
    processFrames other (frames.map moved) state = processFrames input frames state := by
  induction frames generalizing state with
  | nil => rfl
  | cons frame rest ih =>
    obtain ⟨within, withinOther, same⟩ := inside frame mem_cons_self
    obtain ⟨middle, first, processed, readyMiddle, channels⟩ := processFrame_ok ready within
    have pushed : state.pushed (frameSample state.channels other (moved frame)) =
        state.pushed (frameSample state.channels input frame) := by
      apply map_congr_left
      intro ch member
      rw [same ch (mem_range.mp member)]
    have also : state.processFrame other (moved frame) = .ok (middle, first) := by
      rw [← processed, processFrame, processFrame, pushFrame_ok ready within,
        pushFrame_ok ready withinOther, pushed]
    rw [map_cons, processFrames, processFrames, also, processed, ok_bind, ok_bind]
    dsimp only
    rw [ih readyMiddle (by
      intro later member
      rw [channels]
      exact inside later (mem_cons_of_mem frame member))]

theorem process_append (whole : state.channels ∣ x.length) :
    ∃ middle first final second, state.process x = .ok (middle, first) ∧
      middle.process y = .ok (final, second) ∧
      state.process (x ++ y) = .ok (final, first ++ second) := by
  obtain ⟨middle, first, processed, readyMiddle, channels⟩ :=
    @processFrames_ok x state ready (List.range (x.length / state.channels))
      fun frame member => mem_range.mp member
  obtain ⟨final, second, rest, _, _⟩ :=
    @processFrames_ok y middle readyMiddle (List.range (y.length / middle.channels))
      fun frame member => mem_range.mp member
  have front : processFrames (x ++ y) (List.range (x.length / state.channels)) state =
      .ok (middle, first) := by
    rw [← processed, ← List.map_id (List.range (x.length / state.channels))]
    rw [processFrames_congr ready, List.map_id]
    intro frame member
    have within := mem_range.mp member
    refine ⟨within, ?_, fun ch channel => frameSample_append_left within channel⟩
    rw [frames_append whole]
    exact within.trans_le (Nat.le_add_right _ _)
  have back : processFrames (x ++ y)
      ((List.range (y.length / state.channels)).map (x.length / state.channels + ·)) middle =
      .ok (final, second) := by
    rw [← rest, channels]
    apply processFrames_congr readyMiddle
    intro frame member
    have within := mem_range.mp member
    rw [channels, frames_append whole]
    exact ⟨within, Nat.add_lt_add_left within _, fun ch _ => frameSample_append_right whole⟩
  refine ⟨middle, first, final, second, processed, rest, ?_⟩
  rw [process, frames_append whole, range_add]
  exact processFrames_append front back

end

end SincResampler

namespace Resampler

def Ready : Resampler → Prop
  | .linear state => state.Ready
  | .hermite state => state.Ready
  | .sinc state => state.Ready

/-- Only the Hermite resampler reads ahead. -/
def SeamLevel (resampler : Resampler) (x y : List Int) : Prop :=
  match resampler with
  | .linear _ => True
  | .hermite state => state.SeamLevel x y
  | .sinc _ => True

variable {resampler : Resampler}

theorem Ready.process_append (ready : resampler.Ready) {x y : List Int}
    (whole : resampler.channels ∣ x.length) (wholeY : resampler.channels ∣ y.length) :
    ∃ middle first final second both, resampler.process x = .ok (middle, first) ∧
      middle.process y = .ok (final, second) ∧ resampler.process (x ++ y) = .ok (final, both) ∧
      (both = first ++ second ↔ resampler.SeamLevel x y) := by
  cases resampler with
  | linear state =>
    obtain ⟨middle, first, final, second, both, one, two, three, same⟩ :=
      Carried.process_append ready whole wholeY reads_linear Carried.readsOn_linear
    refine ⟨.linear middle, first, .linear final, second, both, ?_, ?_, ?_,
      iff_of_true (same.mpr (Carried.sameBefore_linear ready)) trivial⟩
    · rw [process, one]; rfl
    · rw [process, two]; rfl
    · rw [process, three]; rfl
  | hermite state =>
    obtain ⟨middle, first, final, second, both, one, two, three, same⟩ :=
      Carried.process_append ready whole wholeY reads_hermite Carried.readsOn_hermite
    refine ⟨.hermite middle, first, .hermite final, second, both, ?_, ?_, ?_,
      same.trans (Carried.sameBefore_hermite_iff ready)⟩
    · rw [process, one]; rfl
    · rw [process, two]; rfl
    · rw [process, three]; rfl
  | sinc state =>
    obtain ⟨middle, first, final, second, one, two, three⟩ :=
      @SincResampler.process_append x y state ready whole
    refine ⟨.sinc middle, first, .sinc final, second, _, ?_, ?_, ?_, iff_of_true rfl trivial⟩
    · rw [process, one]; rfl
    · rw [process, two]; rfl
    · rw [process, three]; rfl

theorem Ready.process {next : Resampler} (ready : resampler.Ready) {input : List Int}
    {output : List Int} (processed : resampler.process input = .ok (next, output)) :
    next.Ready := by
  cases resampler with
  | linear state =>
    rw [process, Carried.process_ok ready reads_linear] at processed
    cases processed
    exact Carried.Ready.after ready input
  | hermite state =>
    rw [process, Carried.process_ok ready reads_hermite] at processed
    cases processed
    exact Carried.Ready.after ready input
  | sinc state =>
    obtain ⟨after, frames, returned, readyAfter, _⟩ :=
      @SincResampler.processFrames_ok input state ready
        (List.range (input.length / state.channels)) fun frame member => mem_range.mp member
    rw [process, SincResampler.process, returned] at processed
    cases processed
    exact readyAfter

theorem Ready.reset (ready : resampler.Ready) : resampler.reset.Ready := by
  cases resampler with
  | linear _ | hermite _ => exact Carried.Ready.reset ready
  | sinc state => exact SincResampler.Ready.reset ready

/-- From a new resampler with rates that are not 0, by calls and resets. -/
inductive Reachable : Resampler → Prop where
  | linear {sourceRate targetRate : Nat} (source : 0 < sourceRate) (target : 0 < targetRate)
      (channels : Nat) : Reachable (.linear (Carried.new sourceRate targetRate channels))
  | hermite {sourceRate targetRate : Nat} (source : 0 < sourceRate) (target : 0 < targetRate)
      (channels : Nat) : Reachable (.hermite (Carried.new sourceRate targetRate channels))
  | sinc (table : List ℚ) {sourceRate targetRate : Nat} (source : 0 < sourceRate)
      (target : 0 < targetRate) (channels : Nat) :
      Reachable (.sinc (SincResampler.new table sourceRate targetRate channels))
  | process {resampler next : Resampler} {input output : List Int} (before : Reachable resampler)
      (processed : resampler.process input = .ok (next, output)) : Reachable next
  | reset {resampler : Resampler} (before : Reachable resampler) : Reachable resampler.reset

theorem Reachable.ready (reachable : Reachable resampler) : resampler.Ready := by
  induction reachable with
  | linear source target channels | hermite source target channels =>
    exact Carried.ready_new source target channels
  | sinc table source target channels => exact SincResampler.ready_new table source target channels
  | process _ processed ih => exact ih.process processed
  | reset _ ih => exact ih.reset

/-- Two packets leave the resampler as one call with their samples does, and they give the same
output: always with the linear and the sinc resampler, and with the Hermite resampler exactly
if the outputs that read behind the first packet come out the same. -/
theorem process_packets_iff (resampler : Resampler) (reachable : Reachable resampler)
    (x y : List Int) (whole : resampler.channels ∣ x.length)
    (wholeY : resampler.channels ∣ y.length) :
    ∃ middle first final second both, resampler.process x = .ok (middle, first) ∧
      middle.process y = .ok (final, second) ∧ resampler.process (x ++ y) = .ok (final, both) ∧
      (both = first ++ second ↔ resampler.SeamLevel x y) :=
  reachable.ready.process_append whole wholeY

/-- Every other sample of a steep seam, each taken as it is. -/
theorem level_packets :
    ∃ middle first final second,
      (hermite (Carried.new 96000 48000 1)).process [1, 2] = .ok (middle, first) ∧
      middle.process [100, 200] = .ok (final, second) ∧
      (hermite (Carried.new 96000 48000 1)).process ([1, 2] ++ [100, 200]) =
        .ok (final, first ++ second) := by
  obtain ⟨middle, first, final, second, both, one, two, three, same⟩ :=
    process_packets_iff (.hermite (Carried.new 96000 48000 1)) (.hermite (by decide) (by decide) 1)
      [1, 2] [100, 200] (by decide) (by decide)
  have level : Carried.SeamLevel (Carried.new 96000 48000 1) [1, 2] [100, 200] := by
    decide +kernel
  exact ⟨middle, first, final, second, one, two, same.mpr level ▸ three⟩

/-- A step at the boundary: one call goes over it with a curve, two calls hold the last frame. -/
theorem step_at_boundary :
    ((hermite (Carried.new 24000 48000 1)).process ([0, 0] ++ [100, 100])).map Prod.snd =
        .ok [0, -6, 0, 50, 100, 106, 100, 100] ∧
      (do
        let (middle, first) ← (hermite (Carried.new 24000 48000 1)).process [0, 0]
        let (_, second) ← middle.process [100, 100]
        return first ++ second : Checked (List Int)) = .ok [0, 0, 0, 0, 100, 106, 100, 100] := by
  decide +kernel

end Resampler

end KizunaLink.Engine
