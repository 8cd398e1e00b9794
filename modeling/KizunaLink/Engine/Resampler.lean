import KizunaLink.Lib.Stepping
import Mathlib.Data.List.GetD
import Mathlib.Data.Nat.ModEq

/-!
# Resamplers

Model of the linear, Hermite and sinc resamplers (engine/resample), with rational numbers
in place of floats.  Samples are integers and frames are interleaved.  Every index is
checked and the loops have fuel, so that a call returns says that it reads inside its
input and its carried samples and that it ends.

The linear and the Hermite resampler keep the same data and differ in the value of one
sample.  The table of the sinc resampler enters as it is.
-/

set_option autoImplicit false

namespace KizunaLink.Engine

open KizunaLink.Lib List

/-- `as i16`: towards zero, and cut to the range of the type. -/
def toI16 (value : ℚ) : Int := max (-32768) (min 32767 (if 0 ≤ value then ⌊value⌋ else ⌈value⌉))

def clampI16 (value : ℚ) : ℚ := max (-32768) (min 32767 value)

def epsilon : ℚ := 1 / 2 ^ 23

/-- What the linear and the Hermite resampler keep. -/
structure Carried where
  ratio : ℚ
  index : ℚ
  channels : Nat
  lastSamples : List Int
  deriving DecidableEq

/-- The sample of a channel at frame `idx` and `fract` behind it. -/
abbrev SampleAt :=
  (lastSamples input : List Int) → (channels numFrames idx ch : Nat) → (fract : ℚ) → Checked Int

def linearSample : SampleAt := fun lastSamples input channels numFrames idx ch fract => do
  let s1 ← (if idx = 0 then index lastSamples ch
    else index input ((idx - 1) * channels + ch))
  let s2 ← (if idx < numFrames then index input (idx * channels + ch)
    else index input ((numFrames - 1) * channels + ch))
  return toI16 (s1 * (1 - fract) + s2 * fract)

/-- The cubic through four values, `t` behind the second. -/
def hermite (p0 p1 p2 p3 t : ℚ) : ℚ :=
  let c0 := p1
  let c1 := 1 / 2 * (p2 - p0)
  let c2 := p0 - 5 / 2 * p1 + 2 * p2 - 1 / 2 * p3
  let c3 := 1 / 2 * (p3 - p0) + 3 / 2 * (p1 - p2)
  ((c3 * t + c2) * t + c1) * t + c0

/-- Behind the end of the input the last frame stands for the next ones. -/
def hermiteSample : SampleAt := fun lastSamples input channels numFrames idx ch fract => do
  let baseIdx := idx * channels + ch
  let p0 ← (if idx = 0 then index lastSamples ch else index input (baseIdx - channels))
  let p1 ← index input baseIdx
  let p2 ← (if idx + 1 < numFrames then index input (baseIdx + channels)
    else index input ((numFrames - 1) * channels + ch))
  let p3 ← (if idx + 2 < numFrames then index input (baseIdx + 2 * channels)
    else index input ((numFrames - 1) * channels + ch))
  return toI16 (clampI16 (hermite p0 p1 p2 p3 fract))

namespace Carried

def new (sourceRate targetRate channels : Nat) : Carried :=
  ⟨sourceRate / targetRate, 0, channels, List.replicate channels 0⟩

variable (state : Carried)

def emit (sampleAt : SampleAt) (input : List Int) (position : ℚ) : Checked (List Int) :=
  (List.range state.channels).mapM fun ch =>
    sampleAt state.lastSamples input state.channels (input.length / state.channels) ⌊position⌋₊ ch
      (Int.fract position)

/-- The last frame of the input, if it has one. -/
def carry (input : List Int) : Checked (List Int) :=
  let numFrames := input.length / state.channels
  if 0 < numFrames then
    (List.range state.channels).mapM fun ch =>
      Lib.index input ((numFrames - 1) * state.channels + ch)
  else pure state.lastSamples

def process (sampleAt : SampleAt) (input : List Int) :
    Checked (Carried × List Int) := do
  let numFrames : ℚ := (input.length / state.channels : Nat)
  let fuel := passes state.ratio numFrames state.index + 1
  let (index, output) ←
    walk (fun position => decide (position < numFrames)) (state.emit sampleAt input) state.ratio
      fuel state.index
  let lastSamples ← state.carry input
  return ({ state with index := index - numFrames, lastSamples }, output)

def reset : Carried :=
  { state with index := 0, lastSamples := List.replicate state.lastSamples.length 0 }

def isPassthrough : Bool := decide (|state.ratio - 1| < epsilon)

end Carried

structure SincResampler where
  ratio : ℚ
  index : ℚ
  channels : Nat
  taps : Nat
  table : List ℚ
  buffer : List (List ℚ)
  deriving DecidableEq

namespace SincResampler

def new (table : List ℚ) (sourceRate targetRate channels : Nat) : SincResampler :=
  { ratio := sourceRate / targetRate
    index := 0
    channels
    taps := table.length
    table
    buffer := List.replicate channels (List.replicate table.length 0) }

variable (state : SincResampler)

/-- The samples of a frame go into the histories of their channels. -/
def pushFrame (input : List Int) (frame : Nat) : Checked (List (List ℚ)) :=
  (List.range state.channels).mapM fun ch => do
    let history ← Lib.index state.buffer ch
    let sample ← Lib.index input (frame * state.channels + ch)
    return history.tail ++ [(sample : ℚ)]

/-- The frame that the histories give; it does not depend on the position. -/
def emit (_position : ℚ) : Checked (List Int) :=
  (List.range state.channels).mapM fun ch => do
    let history ← Lib.index state.buffer ch
    let terms ← (List.range state.taps).mapM fun tap =>
      return (← Lib.index history tap) * (← Lib.index state.table tap)
    return toI16 (clampI16 terms.sum)

/-- The inner loop: all outputs before the next frame. -/
def emitFrames : Checked (SincResampler × List Int) := do
  let fuel := passes state.ratio 1 state.index + 1
  let (index, output) ←
    walk (fun position => decide (position < 1)) state.emit state.ratio fuel state.index
  return ({ state with index := index - 1 }, output)

def processFrame (input : List Int) (frame : Nat) :
    Checked (SincResampler × List Int) := do
  let buffer ← state.pushFrame input frame
  { state with buffer }.emitFrames

def processFrames (input : List Int) : List Nat → SincResampler → Checked (SincResampler × List Int)
  | [], state => pure (state, [])
  | frame :: rest, state => do
      let (state, pushed) ← state.processFrame input frame
      let (state, output) ← processFrames input rest state
      return (state, pushed ++ output)

def process (input : List Int) : Checked (SincResampler × List Int) :=
  processFrames input (List.range (input.length / state.channels)) state

def reset : SincResampler :=
  { state with index := 0, buffer := state.buffer.map fun history => history.map fun _ => 0 }

def isPassthrough : Bool := decide (|state.ratio - 1| < epsilon)

end SincResampler

inductive Resampler where
  | linear (state : Carried)
  | hermite (state : Carried)
  | sinc (state : SincResampler)
  deriving DecidableEq

namespace Resampler

def channels : Resampler → Nat
  | .linear state => state.channels
  | .hermite state => state.channels
  | .sinc state => state.channels

def isPassthrough : Resampler → Bool
  | .linear state => state.isPassthrough
  | .hermite state => state.isPassthrough
  | .sinc state => state.isPassthrough

def process (resampler : Resampler) (input : List Int) : Checked (Resampler × List Int) :=
  match resampler with
  | .linear state => return (← state.process linearSample input).map .linear id
  | .hermite state => return (← state.process hermiteSample input).map .hermite id
  | .sinc state => return (← state.process input).map .sinc id

def reset : Resampler → Resampler
  | .linear state => .linear state.reset
  | .hermite state => .hermite state.reset
  | .sinc state => .sinc state.reset

end Resampler

def frameSample (channels : Nat) (input : List Int) (idx ch : Nat) : Int :=
  input.getD (idx * channels + ch) 0

section Frames

variable {channels : Nat} {input x y : List Int} {idx ch : Nat}

theorem index_getD {items : List Int} {position : Nat} (inside : position < items.length) :
    index items position = .ok (items.getD position 0) := by
  rw [index_ok inside, getD_eq_getElem _ _ inside]

theorem frame_inside (frame : idx < input.length / channels) (channel : ch < channels) :
    idx * channels + ch < input.length := by
  have next : (idx + 1) * channels ≤ input.length / channels * channels :=
    Nat.mul_le_mul_right channels frame
  have whole := Nat.div_mul_le_self input.length channels
  rw [Nat.succ_mul] at next
  omega

theorem index_frame (frame : idx < input.length / channels) (channel : ch < channels) :
    index input (idx * channels + ch) = .ok (frameSample channels input idx ch) :=
  index_getD (frame_inside frame channel)

theorem frames_mul (whole : channels ∣ x.length) : x.length / channels * channels = x.length :=
  Nat.div_mul_cancel whole

theorem frames_append (whole : channels ∣ x.length) :
    (x ++ y).length / channels = x.length / channels + y.length / channels := by
  rw [length_append, Nat.add_div_of_dvd_right whole]

theorem frameSample_append_left (frame : idx < x.length / channels) (channel : ch < channels) :
    frameSample channels (x ++ y) idx ch = frameSample channels x idx ch := by
  rw [frameSample, getD_append _ _ _ _ (frame_inside frame channel), frameSample]

theorem frameSample_append_right (whole : channels ∣ x.length) :
    frameSample channels (x ++ y) (x.length / channels + idx) ch =
      frameSample channels y idx ch := by
  have behind : (x.length / channels + idx) * channels + ch = x.length + (idx * channels + ch) := by
    rw [Nat.add_mul, frames_mul whole, Nat.add_assoc]
  rw [frameSample, behind, getD_append_right _ _ _ _ (Nat.le_add_right _ _),
    Nat.add_sub_cancel_left, frameSample]

end Frames

end KizunaLink.Engine
