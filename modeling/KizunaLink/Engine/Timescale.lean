import KizunaLink.Engine.Resampler

/-!
# The timescale filter

Model of `TimescaleFilter::process_resample` (engine/filters/timescale.rs), with rational
numbers in place of floats.  Every index is checked and the loop has fuel.

The filter keeps the end of its input and a position in it.  Over a whole stream the
outputs are taken at the positions 0, rate, 2 * rate and so on, each as soon as the stream
goes two frames beyond it, the first ones not before the stream has four frames.  `Follows`
relates the filter to the stream it has been given: its buffer is the stream without some
frames at the front, and its position counts from there.  What was dropped may depend on
the packets, what is output does not.

The output waits in the queue of `FilterChain` until a whole frame can be taken from it.
-/

set_option autoImplicit false

namespace KizunaLink.Engine

open KizunaLink.Lib List

def cubicResample (p0 p1 p2 p3 t : ℚ) : ℚ :=
  let t2 := t * t
  let t3 := t2 * t
  1 / 2 * (2 * p1 + (-p0 + p2) * t + (2 * p0 - 5 * p1 + 4 * p2 - p3) * t2 +
    (-p0 + 3 * p1 - 3 * p2 + p3) * t3)

/-- A sample of the output from four samples of a channel. -/
def cubicSample (p0 p1 p2 p3 : Int) (frac : ℚ) : Int :=
  let out := cubicResample (p0 / 32768) (p1 / 32768) (p2 / 32768) (p3 / 32768) frac
  toI16 (max (-1) (min 1 out) * 32767)

structure TimescaleFilter where
  finalRate : ℚ
  inputBuffer : List Int := []
  position : ℚ := 0
  deriving DecidableEq

namespace TimescaleFilter

def clampFactor (factor : ℚ) : ℚ := max (1 / 10) (min 5 factor)

def new (speed pitch rate : ℚ) : TimescaleFilter :=
  { finalRate := clampFactor speed * clampFactor pitch * clampFactor rate }

def channelAt (buffer : List Int) (position : ℚ) (offset : Nat) : Checked Int := do
  let i1 := ⌊position⌋₊
  let p0 ← index buffer ((i1 - 1) * 2 + offset)
  let p1 ← index buffer (i1 * 2 + offset)
  let p2 ← index buffer ((i1 + 1) * 2 + offset)
  let p3 ← index buffer ((i1 + 2) * 2 + offset)
  return cubicSample p0 p1 p2 p3 (position - i1)

def emit (buffer : List Int) (position : ℚ) : Checked (List Int) := do
  let left ← channelAt buffer position 0
  let right ← channelAt buffer position 1
  return [left, right]

/-- What has been passed is dropped, but for one frame. -/
def trim (filter : TimescaleFilter) : TimescaleFilter :=
  let consumedFrames := ⌊filter.position⌋₊
  let keepFromFrame := consumedFrames - 1
  let samplesToDrain := keepFromFrame * 2
  if 0 < keepFromFrame ∧ samplesToDrain < filter.inputBuffer.length then
    { filter with
      inputBuffer := filter.inputBuffer.drop samplesToDrain
      position := filter.position - keepFromFrame }
  else filter

/-- The outputs of a buffer of at least four frames. -/
def advance (filter : TimescaleFilter) : Checked (TimescaleFilter × List Int) := do
  let numInputFrames := filter.inputBuffer.length / 2
  let fuel := passes filter.finalRate numInputFrames filter.position + 1
  let (position, output) ←
    walk (fun position => decide (⌊position⌋₊ + 2 < numInputFrames)) (emit filter.inputBuffer)
      filter.finalRate fuel filter.position
  return ({ filter with position }.trim, output)

def processResample (filter : TimescaleFilter) (samples : List Int) :
    Checked (TimescaleFilter × List Int) :=
  if |filter.finalRate - 1| < epsilon then .ok (filter, samples)
  else if filter.finalRate ≤ 0 then .ok (filter, [])
  else
    let filter := { filter with inputBuffer := filter.inputBuffer ++ samples }
    if filter.inputBuffer.length / 2 < 4 then .ok (filter, []) else filter.advance

def processAll : TimescaleFilter → List (List Int) → Checked (TimescaleFilter × List (List Int))
  | filter, [] => .ok (filter, [])
  | filter, samples :: rest => do
      let (filter, output) ← filter.processResample samples
      let (filter, outputs) ← processAll filter rest
      return (filter, output :: outputs)

end TimescaleFilter

section Stream

variable (rate : ℚ)

def emitted (frames : Nat) : Nat := if frames < 4 then 0 else passes rate (frames - 2) 0

def streamFrame (stream : List Int) (position : ℚ) : List Int :=
  [0, 1].map fun ch =>
    let sample (idx : Nat) : Int := frameSample 2 stream idx ch
    cubicSample (sample (⌊position⌋₊ - 1)) (sample ⌊position⌋₊) (sample (⌊position⌋₊ + 1))
      (sample (⌊position⌋₊ + 2)) (position - ⌊position⌋₊)

/-- The output for the part of the stream between two lengths. -/
def streamOutput (stream : List Int) (first last : Nat) : List Int :=
  outputs (streamFrame stream) rate (emitted rate first * rate)
    (emitted rate last - emitted rate first)

variable {rate}

theorem emitted_mono (positive : 0 < rate) {first last : Nat} (later : first ≤ last) :
    emitted rate first ≤ emitted rate last := by
  rw [emitted, emitted]
  by_cases short : first < 4
  · rw [if_pos short]
    exact Nat.zero_le _
  · rw [if_neg short, if_neg (by omega), passes_le positive]
    have reached := le_index_passes positive ((last : ℚ) - 2) 0
    have more : (first : ℚ) ≤ last := Nat.cast_le.mpr later
    linarith

theorem emitted_add (positive : 0 < rate) {first last : Nat} (later : first ≤ last)
    (enough : 4 ≤ last) :
    emitted rate last =
      emitted rate first + passes rate ((last : ℚ) - 2) (emitted rate first * rate) := by
  by_cases short : first < 4
  · rw [emitted, if_neg (by omega), emitted, if_pos short, Nat.cast_zero, zero_mul, Nat.zero_add]
  · have more : (first : ℚ) - 2 ≤ last - 2 := sub_le_sub_right (Nat.cast_le.mpr later) 2
    rw [emitted, if_neg (by omega), emitted, if_neg short, passes_add positive more, zero_add]

theorem lt_of_lt_emitted (positive : 0 < rate) {frames count : Nat}
    (short : count < emitted rate frames) : count * rate < (frames : ℚ) - 2 := by
  rw [emitted] at short
  split at short
  · exact absurd short (Nat.not_lt_zero _)
  · rw [lt_passes positive, zero_add] at short
    exact short

theorem floor_add_two_lt {position : ℚ} {frames : Nat} (forward : 0 ≤ position) :
    ⌊position⌋₊ + 2 < frames ↔ position < (frames : ℚ) - 2 := by
  have exchange : position < (frames : ℚ) - 2 ↔ position + (2 : Nat) < frames := by
    rw [Nat.cast_ofNat, lt_sub_iff_add_lt]
  rw [exchange, ← Nat.floor_add_natCast forward, Nat.floor_lt (by positivity)]

theorem frames_le_append (stream more : List Int) :
    stream.length / 2 ≤ (stream ++ more).length / 2 := by
  rw [length_append]
  exact Nat.div_le_div_right (Nat.le_add_right _ _)

theorem streamFrame_append {stream : List Int} {position : ℚ}
    (ahead : ⌊position⌋₊ + 2 < stream.length / 2) (more : List Int) :
    streamFrame (stream ++ more) position = streamFrame stream position := by
  have same : ∀ idx ≤ ⌊position⌋₊ + 2, ∀ ch < 2,
      frameSample 2 (stream ++ more) idx ch = frameSample 2 stream idx ch :=
    fun idx inside ch channel => frameSample_append_left (inside.trans_lt ahead) channel
  rw [streamFrame, streamFrame]
  apply map_congr_left
  intro ch member
  have channel : ch < 2 := by
    rcases mem_pair.mp member with rfl | rfl <;> decide
  dsimp only
  rw [same _ (by omega) ch channel, same _ (by omega) ch channel, same _ (by omega) ch channel,
    same _ (by omega) ch channel]

theorem streamOutput_append (positive : 0 < rate) (stream more : List Int) {first : Nat}
    (later : first ≤ stream.length / 2) :
    streamOutput rate (stream ++ more) first ((stream ++ more).length / 2) =
      streamOutput rate stream first (stream.length / 2) ++
        streamOutput rate (stream ++ more) (stream.length / 2) ((stream ++ more).length / 2) := by
  have longer := frames_le_append stream more
  have start := emitted_mono positive later
  have middle := emitted_mono positive longer
  have split : emitted rate ((stream ++ more).length / 2) - emitted rate first =
      (emitted rate (stream.length / 2) - emitted rate first) +
        (emitted rate ((stream ++ more).length / 2) - emitted rate (stream.length / 2)) := by
    omega
  have here : emitted rate first * rate +
      (emitted rate (stream.length / 2) - emitted rate first : Nat) * rate =
      emitted rate (stream.length / 2) * rate := by
    rw [Nat.cast_sub start]
    ring
  have front : outputs (streamFrame (stream ++ more)) rate (emitted rate first * rate)
      (emitted rate (stream.length / 2) - emitted rate first) =
      streamOutput rate stream first (stream.length / 2) := by
    apply outputs_congr
    intro before short
    have position : emitted rate first * rate + before * rate =
        (emitted rate first + before : Nat) * rate := by
      rw [Nat.cast_add]
      ring
    rw [position]
    apply streamFrame_append
    rw [floor_add_two_lt (mul_nonneg (Nat.cast_nonneg _) positive.le)]
    exact lt_of_lt_emitted positive (by omega)
  rw [streamOutput, split, outputs_add, here, front, ← streamOutput]

end Stream

/-! ## The filter and its stream -/

namespace TimescaleFilter

variable {filter : TimescaleFilter} {stream samples : List Int} {dropped : Nat} {position : ℚ}

variable {count : Nat}

theorem frameSample_drop (idx ch : Nat) :
    frameSample 2 (stream.drop (dropped * 2)) idx ch = frameSample 2 stream (idx + dropped) ch := by
  have behind : (idx + dropped) * 2 + ch = dropped * 2 + (idx * 2 + ch) := by ring
  rw [frameSample, frameSample, behind, List.getD_eq_getElem?_getD, List.getD_eq_getElem?_getD,
    List.getElem?_drop]

/-- In the buffer a channel reads what stands in the stream a number of frames later.  The frame
before the position is in the buffer unless it is the first one of the stream. -/
theorem channelAt_ok (forward : 0 ≤ position)
    (ahead : ⌊position⌋₊ + 2 < (stream.drop (dropped * 2)).length / 2)
    (before : dropped = 0 ∨ 1 ≤ position) {ch : Nat} (channel : ch < 2) :
    channelAt (stream.drop (dropped * 2)) position ch =
      .ok (cubicSample (frameSample 2 stream (⌊position + dropped⌋₊ - 1) ch)
        (frameSample 2 stream ⌊position + dropped⌋₊ ch)
        (frameSample 2 stream (⌊position + dropped⌋₊ + 1) ch)
        (frameSample 2 stream (⌊position + dropped⌋₊ + 2) ch)
        (position + dropped - ⌊position + dropped⌋₊)) := by
  have floor : ⌊position + dropped⌋₊ = ⌊position⌋₊ + dropped := Nat.floor_add_natCast forward _
  have frac : position + dropped - (⌊position⌋₊ + dropped : Nat) = position - ⌊position⌋₊ := by
    rw [Nat.cast_add]
    ring
  have previous : ⌊position⌋₊ - 1 + dropped = ⌊position⌋₊ + dropped - 1 := by
    rcases before with zero | later
    · rw [zero, Nat.add_zero, Nat.add_zero]
    · have first : 1 ≤ ⌊position⌋₊ := Nat.le_floor (by rw [Nat.cast_one]; exact later)
      omega
  have next : ⌊position⌋₊ + 1 + dropped = ⌊position⌋₊ + dropped + 1 := by omega
  have afterNext : ⌊position⌋₊ + 2 + dropped = ⌊position⌋₊ + dropped + 2 := by omega
  rw [channelAt, index_frame (by omega) channel, ok_bind, index_frame (by omega) channel, ok_bind,
    index_frame (by omega) channel, ok_bind, index_frame ahead channel, ok_bind,
    frameSample_drop, frameSample_drop, frameSample_drop, frameSample_drop, floor, frac, previous,
    next, afterNext]
  rfl

theorem emit_ok (forward : 0 ≤ position)
    (ahead : ⌊position⌋₊ + 2 < (stream.drop (dropped * 2)).length / 2)
    (before : dropped = 0 ∨ 1 ≤ position) :
    emit (stream.drop (dropped * 2)) position = .ok (streamFrame stream (position + dropped)) := by
  rw [emit, channelAt_ok forward ahead before (by decide), ok_bind,
    channelAt_ok forward ahead before (by decide), ok_bind]
  rfl

/-- The filter holds the stream without the first `dropped` frames, has output `count` frames,
and is behind the dropped ones. -/
structure Holds (filter : TimescaleFilter) (stream : List Int) (dropped count : Nat) : Prop where
  inside : dropped * 2 ≤ stream.length
  buffer : filter.inputBuffer = stream.drop (dropped * 2)
  position : filter.position = count * filter.finalRate - dropped
  behind : dropped = 0 ∨ (dropped : ℚ) + 1 ≤ count * filter.finalRate

theorem position_le (positive : 0 < filter.finalRate) (before : Nat) :
    filter.position ≤ filter.position + before * filter.finalRate :=
  le_add_of_nonneg_right (mul_nonneg (Nat.cast_nonneg _) positive.le)

section

variable (holds : Holds filter stream dropped count) (positive : 0 < filter.finalRate)
include holds

theorem Holds.append (samples : List Int) :
    Holds { filter with inputBuffer := filter.inputBuffer ++ samples } (stream ++ samples) dropped
      count where
  inside := holds.inside.trans (by rw [length_append]; exact Nat.le_add_right _ _)
  buffer := by
    dsimp only
    rw [holds.buffer, drop_append_of_le_length holds.inside]
  position := holds.position
  behind := holds.behind

theorem Holds.frames : filter.inputBuffer.length / 2 + dropped = stream.length / 2 := by
  have inside := holds.inside
  rw [holds.buffer, length_drop]
  omega

theorem Holds.frames_cast : ((stream.length / 2 : Nat) : ℚ) =
    (filter.inputBuffer.length / 2 : Nat) + dropped := by
  exact_mod_cast holds.frames.symm

theorem Holds.position_add (before : Nat) :
    filter.position + before * filter.finalRate + dropped =
      count * filter.finalRate + before * filter.finalRate := by
  rw [holds.position]
  ring

include positive

theorem Holds.forward : 0 ≤ filter.position := by
  have later : (0 : ℚ) ≤ count * filter.finalRate := mul_nonneg (Nat.cast_nonneg _) positive.le
  rw [holds.position]
  rcases holds.behind with zero | behind
  · rw [zero, Nat.cast_zero, sub_zero]
    exact later
  · linarith

theorem Holds.trim :
    ∃ more, Holds filter.trim stream (dropped + more) count ∧
      filter.trim.finalRate = filter.finalRate := by
  have forward := holds.forward positive
  rw [TimescaleFilter.trim]
  split
  · rename_i drains
    obtain ⟨some, short⟩ := drains
    have reached : ((⌊filter.position⌋₊ - 1 : Nat) : ℚ) + 1 ≤ filter.position := by
      have back : ((⌊filter.position⌋₊ - 1 : Nat) : ℚ) + 1 = ⌊filter.position⌋₊ := by
        exact_mod_cast (by omega : ⌊filter.position⌋₊ - 1 + 1 = ⌊filter.position⌋₊)
      rw [back]
      exact Nat.floor_le forward
    have position := holds.position
    have inside := holds.inside
    rw [holds.buffer, length_drop] at short
    refine ⟨⌊filter.position⌋₊ - 1, ⟨?_, ?_, ?_, .inr ?_⟩, rfl⟩
    · omega
    · dsimp only
      rw [holds.buffer, drop_drop, ← Nat.add_mul]
    · rw [Nat.cast_add]
      dsimp only
      linarith
    · rw [Nat.cast_add]
      dsimp only
      linarith
  · exact ⟨0, holds, rfl⟩

variable {turns : Nat} (isTurns : turns =
  passes filter.finalRate ((stream.length / 2 : Nat) - 2) (count * filter.finalRate))
include isTurns

theorem Holds.goes_iff (before : Nat) :
    ⌊filter.position + before * filter.finalRate⌋₊ + 2 < filter.inputBuffer.length / 2 ↔
      before < turns := by
  have forward := (holds.forward positive).trans (position_le positive before)
  rw [floor_add_two_lt forward, isTurns, lt_passes positive, ← holds.position_add before,
    holds.frames_cast]
  constructor <;> intro below <;> linarith

theorem Holds.emit {before : Nat} (short : before < turns) :
    emit filter.inputBuffer (filter.position + before * filter.finalRate) =
      .ok (streamFrame stream (filter.position + before * filter.finalRate + dropped)) := by
  have ahead := (holds.goes_iff positive isTurns before).mpr short
  rw [holds.buffer] at ahead ⊢
  apply emit_ok ((holds.forward positive).trans (position_le positive before)) ahead
  refine holds.behind.imp_right fun behind => ?_
  have later := position_le positive before
  have position := holds.position
  linarith

theorem Holds.walk :
    walk (fun position => decide (⌊position⌋₊ + 2 < filter.inputBuffer.length / 2))
        (TimescaleFilter.emit filter.inputBuffer) filter.finalRate
        (passes filter.finalRate (filter.inputBuffer.length / 2 : Nat) filter.position + 1)
        filter.position =
      .ok (filter.position + turns * filter.finalRate,
        outputs (streamFrame stream) filter.finalRate (count * filter.finalRate) turns) := by
  have same : outputs (fun position => streamFrame stream (position + dropped)) filter.finalRate
      filter.position turns =
      outputs (streamFrame stream) filter.finalRate (count * filter.finalRate) turns := by
    apply outputs_congr
    intro before _
    rw [holds.position_add before]
  rw [← same]
  have goes := holds.goes_iff positive isTurns
  apply walk_ok
  · intro before short
    exact ⟨decide_eq_true ((goes before).mpr short), holds.emit positive isTurns short⟩
  · exact decide_eq_false (mt (goes _).mp (Nat.lt_irrefl _))
  · -- the fuel is for all frames of the buffer, the last two included
    have reached := le_index_passes positive (filter.inputBuffer.length / 2 : Nat) filter.position
    have there := holds.position_add
      (passes filter.finalRate (filter.inputBuffer.length / 2 : Nat) filter.position)
    apply Nat.lt_succ_of_le
    rw [isTurns, passes_le positive, ← there, holds.frames_cast]
    linarith

end

theorem Holds.advance {first : Nat}
    (holds : Holds filter stream dropped (emitted filter.finalRate first))
    (positive : 0 < filter.finalRate) (later : first ≤ stream.length / 2)
    (enough : 4 ≤ filter.inputBuffer.length / 2) :
    ∃ next more, filter.advance =
        .ok (next, streamOutput filter.finalRate stream first (stream.length / 2)) ∧
      Holds next stream (dropped + more) (emitted filter.finalRate (stream.length / 2)) ∧
      next.finalRate = filter.finalRate := by
  have long : 4 ≤ stream.length / 2 := by
    have frames := holds.frames
    omega
  have total := emitted_add positive later long
  have moved : Holds { filter with
      position := filter.position + passes filter.finalRate ((stream.length / 2 : Nat) - 2)
        (emitted filter.finalRate first * filter.finalRate) * filter.finalRate }
      stream dropped (emitted filter.finalRate (stream.length / 2)) := by
    refine ⟨holds.inside, holds.buffer, ?_, ?_⟩
    · dsimp only
      rw [total, holds.position, Nat.cast_add]
      ring
    · refine holds.behind.imp_right fun behind => behind.trans ?_
      exact mul_le_mul_of_nonneg_right (Nat.cast_le.mpr (by omega)) positive.le
  obtain ⟨more, trimmed, rate⟩ := moved.trim positive
  refine ⟨_, more, ?_, trimmed, rate⟩
  rw [TimescaleFilter.advance]
  dsimp only
  rw [holds.walk positive rfl, ok_bind, streamOutput, total, Nat.add_sub_cancel_left]
  rfl

theorem Holds.short {first : Nat}
    (holds : Holds filter stream dropped (emitted filter.finalRate first))
    (positive : 0 < filter.finalRate) (later : first ≤ stream.length / 2)
    (few : filter.inputBuffer.length / 2 < 4) :
    emitted filter.finalRate (stream.length / 2) = emitted filter.finalRate first := by
  have frames := holds.frames
  apply le_antisymm _ (emitted_mono positive later)
  rcases holds.behind with zero | behind
  · rw [emitted, if_pos (by omega)]
    exact Nat.zero_le _
  · have bound : ((stream.length / 2 : Nat) : ℚ) ≤ dropped + 3 := by
      exact_mod_cast (by omega : stream.length / 2 ≤ dropped + 3)
    rw [emitted]
    split
    · exact Nat.zero_le _
    · rw [passes_le positive]
      linarith

def Follows (filter : TimescaleFilter) (stream : List Int) : Prop :=
  ∃ dropped, Holds filter stream dropped (emitted filter.finalRate (stream.length / 2))

theorem follows_nil (rate : ℚ) : Follows { finalRate := rate } [] :=
  ⟨0, Nat.zero_le _, rfl, by simp [emitted], .inl rfl⟩

theorem Follows.process (follows : Follows filter stream) (positive : 0 < filter.finalRate)
    (changes : ¬ |filter.finalRate - 1| < epsilon) (samples : List Int) :
    ∃ next, filter.processResample samples =
        .ok (next, streamOutput filter.finalRate (stream ++ samples) (stream.length / 2)
          ((stream ++ samples).length / 2)) ∧
      Follows next (stream ++ samples) ∧ next.finalRate = filter.finalRate := by
  obtain ⟨dropped, before⟩ := follows
  have holds := before.append samples
  have later := frames_le_append stream samples
  rw [processResample, if_neg changes, if_neg (not_le.mpr positive)]
  dsimp only
  by_cases few : (filter.inputBuffer ++ samples).length / 2 < 4
  · have same := holds.short positive later few
    dsimp only at same
    rw [if_pos few, streamOutput, same, Nat.sub_self, outputs_zero]
    refine ⟨_, rfl, ⟨dropped, ?_⟩, rfl⟩
    dsimp only
    rw [same]
    exact holds
  · obtain ⟨next, more, advanced, followsOn, rate⟩ :=
      holds.advance positive later (Nat.le_of_not_lt few)
    rw [if_neg few, advanced]
    refine ⟨next, rfl, ⟨dropped + more, ?_⟩, rate⟩
    rw [rate]
    exact followsOn

def streamOutputs (rate : ℚ) : List Int → List (List Int) → List (List Int)
  | _, [] => []
  | stream, samples :: rest =>
    streamOutput rate (stream ++ samples) (stream.length / 2) ((stream ++ samples).length / 2) ::
      streamOutputs rate (stream ++ samples) rest

theorem Follows.processAll (follows : Follows filter stream) (positive : 0 < filter.finalRate)
    (changes : ¬ |filter.finalRate - 1| < epsilon) (inputs : List (List Int)) :
    ∃ next, filter.processAll inputs = .ok (next, streamOutputs filter.finalRate stream inputs) ∧
      Follows next (stream ++ inputs.flatten) ∧ next.finalRate = filter.finalRate := by
  induction inputs generalizing filter stream with
  | nil =>
    refine ⟨filter, rfl, ?_, rfl⟩
    rw [flatten_nil, append_nil]
    exact follows
  | cons samples rest ih =>
    obtain ⟨middle, processed, followsOn, rate⟩ := follows.process positive changes samples
    obtain ⟨next, others, followsAll, same⟩ :=
      ih followsOn (by rw [rate]; exact positive) (by rw [rate]; exact changes)
    refine ⟨next, ?_, ?_, same.trans rate⟩
    · rw [processAll, processed, ok_bind]
      dsimp only
      rw [others, ok_bind, rate]
      rfl
    · rw [flatten_cons, ← append_assoc]
      exact followsAll

theorem processAll_same (same : |filter.finalRate - 1| < epsilon) (inputs : List (List Int)) :
    filter.processAll inputs = .ok (filter, inputs) := by
  induction inputs with
  | nil => rfl
  | cons samples rest ih =>
    rw [processAll, processResample, if_pos same, ok_bind]
    dsimp only
    rw [ih, ok_bind]
    rfl

/-- After any inputs, two inputs give what they give as one, and so does everything that
follows; every call returns, so no index is outside the input and the carried history. -/
theorem processResample_append (rate : ℚ) (positive : 0 < rate) (earlier : List (List Int))
    (x y : List Int) :
    ∃ filter before middle first final second joined,
      processAll { finalRate := rate } earlier = .ok (filter, before) ∧
      filter.processResample x = .ok (middle, first) ∧
      middle.processResample y = .ok (final, second) ∧
      filter.processResample (x ++ y) = .ok (joined, first ++ second) ∧
      ∀ later, ∃ last other outputs, final.processAll later = .ok (last, outputs) ∧
        joined.processAll later = .ok (other, outputs) := by
  by_cases same : |rate - 1| < epsilon
  · have once : ∀ samples, processResample { finalRate := rate } samples =
        .ok ({ finalRate := rate }, samples) := fun samples => if_pos same
    have all := @processAll_same { finalRate := rate } same
    exact ⟨_, _, _, _, _, _, _, all earlier, once x, once y, once (x ++ y),
      fun later => ⟨_, _, _, all later, all later⟩⟩
  · obtain ⟨filter, reached, follows, rateIs⟩ := (follows_nil rate).processAll positive same earlier
    have going : 0 < filter.finalRate := by rw [rateIs]; exact positive
    have changes : ¬ |filter.finalRate - 1| < epsilon := by rw [rateIs]; exact same
    obtain ⟨middle, one, followsOne, rateOne⟩ := follows.process going changes x
    obtain ⟨final, two, followsTwo, rateTwo⟩ :=
      followsOne.process (by rw [rateOne]; exact going) (by rw [rateOne]; exact changes) y
    obtain ⟨joined, both, followsBoth, rateBoth⟩ := follows.process going changes (x ++ y)
    rw [← append_assoc, streamOutput_append going _ y (frames_le_append _ x)] at both
    rw [rateOne] at two
    rw [← append_assoc] at followsBoth
    refine ⟨_, _, _, _, _, _, _, reached, one, two, both, fun later => ?_⟩
    obtain ⟨last, afterTwo, _, _⟩ := followsTwo.processAll
      (by rw [rateTwo, rateOne]; exact going) (by rw [rateTwo, rateOne]; exact changes) later
    obtain ⟨other, afterBoth, _, _⟩ := followsBoth.processAll
      (by rw [rateBoth]; exact going) (by rw [rateBoth]; exact changes) later
    rw [rateTwo, rateOne] at afterTwo
    rw [rateBoth] at afterBoth
    exact ⟨last, other, _, afterTwo, afterBoth⟩

theorem slowed_packets :
    ∃ filter before middle first final second joined,
      processAll { finalRate := 1 / 2 } [[1, 2]] = .ok (filter, before) ∧
      filter.processResample [3, 4, 5, 6, 7, 8] = .ok (middle, first) ∧
      middle.processResample [9, 10] = .ok (final, second) ∧
      filter.processResample ([3, 4, 5, 6, 7, 8] ++ [9, 10]) = .ok (joined, first ++ second) ∧
      ∀ later, ∃ last other outputs, final.processAll later = .ok (last, outputs) ∧
        joined.processAll later = .ok (other, outputs) :=
  processResample_append (1 / 2) (by norm_num) [[1, 2]] [3, 4, 5, 6, 7, 8] [9, 10]

end TimescaleFilter

def maxTimescaleBufferSamples : Nat := 1920 * 1024

/-- `FilterChain` (engine/filters/mod.rs) without the filters that work in place. -/
structure FilterChain where
  timescale : Option TimescaleFilter
  timescaleBuffer : List Int
  deriving DecidableEq

namespace FilterChain

def hasTimescale (chain : FilterChain) : Bool := chain.timescale.isSome

/-- The oldest samples are dropped, an even number of them. -/
def capped (buffer : List Int) : List Int :=
  let excess := buffer.length - maxTimescaleBufferSamples
  buffer.drop (excess - excess % 2)

/-- `process`, on the samples as the other filters leave them. -/
def process (chain : FilterChain) (samples : List Int) : Checked FilterChain :=
  match chain.timescale with
  | none => .ok chain
  | some timescale => do
      let (timescale, resampled) ← timescale.processResample samples
      return { timescale, timescaleBuffer := capped (chain.timescaleBuffer ++ resampled) }

def fillFrame (chain : FilterChain) (size : Nat) : Option (List Int × FilterChain) :=
  if chain.hasTimescale ∧ size ≤ chain.timescaleBuffer.length then
    some (chain.timescaleBuffer.take size,
      { chain with timescaleBuffer := chain.timescaleBuffer.drop size })
  else none

end FilterChain

end KizunaLink.Engine
