import KizunaLink.Engine.Resampler
import KizunaLink.Lib.Blocks
import KizunaLink.Lib.System
import Mathlib.Data.List.DropRight
import Mathlib.Data.List.Infix

/-!
# The decoder loop

Model of `AudioProcessor::run` and `check_commands` (engine/processor.rs).  What the
command channel, the format reader, the decoder and the engine answer in one pass is
part of a turn.  Logging is left out.

The sample buffer is made for the first packet that is decoded and used again for the
later ones; a seek that succeeds drops it.  A packet with more samples than it has room
for panics in `copy_interleaved_ref`.
-/

set_option autoImplicit false

namespace KizunaLink.Engine

open KizunaLink.Lib List Option

structure SignalSpec where
  rate : Nat
  channels : Nat
  deriving DecidableEq, Repr

/-- A decoded packet: its samples are those of its frames, interleaved, and its own buffer has
room for `capacity` frames. -/
structure Decoded where
  spec : SignalSpec
  capacity : Nat
  frames : Nat
  samples : List Int
  whole : samples.length = frames * spec.channels
  within : frames ≤ capacity
  deriving DecidableEq, Repr

structure SampleBuffer where
  room : Nat
  samples : List Int
  fits : samples.length ≤ room
  deriving DecidableEq, Repr

namespace SampleBuffer

def new (capacity : Nat) (spec : SignalSpec) : SampleBuffer :=
  ⟨capacity * spec.channels, [], Nat.zero_le _⟩

/-- There is none when the packet has more samples than the buffer has room for. -/
def copyInterleavedRef (buf : SampleBuffer) (packet : Decoded) : Option SampleBuffer :=
  if fits : packet.samples.length ≤ buf.room then some ⟨buf.room, packet.samples, fits⟩ else none

end SampleBuffer

/-- What `try_recv` gives, and whether the seek succeeds. -/
inductive Command where
  | none
  | seek (ms : Nat) (succeeds : Bool)
  | stop
  | disconnected
  deriving DecidableEq, Repr

inductive DecodeResult where
  | decoded (packet : Decoded)
  | unexpectedEof
  | decodeError (message : String)
  | failed (message : String)
  deriving DecidableEq, Repr

inductive PacketRead where
  | packet (trackId : Nat) (result : DecodeResult)
  | unexpectedEof
  | failed (message : String)
  deriving DecidableEq, Repr

/-- One pass of the loop: the command, the packet, and whether the engine takes the marker of
a seek and the frame. -/
structure DecoderTurn where
  command : Command := .none
  read : PacketRead
  takesMarker : Bool := true
  takesFrame : Bool := true
  deriving DecidableEq, Repr

/-! ## The processor -/

def targetSampleRate : Nat := 48000

def mixerChannels : Nat := 2

inductive ResamplingQuality where
  | low
  | medium
  | high
  deriving DecidableEq, Repr

def buildResampler (table : List ℚ) (sourceRate : Nat) (quality : ResamplingQuality) : Resampler :=
  if sourceRate = targetSampleRate then
    .linear (Carried.new sourceRate targetSampleRate mixerChannels)
  else
    match quality with
    | .low => .linear (Carried.new sourceRate targetSampleRate mixerChannels)
    | .medium => .hermite (Carried.new sourceRate targetSampleRate mixerChannels)
    | .high => .sinc (SincResampler.new table sourceRate targetSampleRate mixerChannels)

/-- `overflowed`: the copy into the sample buffer panicked; `faulted`: the resampler did. -/
inductive ProcessorStatus where
  | running
  | returned
  | failed
  | overflowed
  | faulted
  deriving DecidableEq, Repr

structure AudioProcessor where
  resampler : Resampler
  trackId : Nat
  sampleBuf : Option SampleBuffer
  sourceRate : Nat
  quality : ResamplingQuality
  table : List ℚ
  pushed : List (List Int)
  errors : List String
  status : ProcessorStatus

/-- The even channels are averaged to the left, the odd ones to the right; one channel goes to
both sides. -/
def downmixFrame (frame : List Int) : List Int :=
  let side (parity : Nat) : Int :=
    ((frame.zipIdx.filter fun entry => entry.2 % 2 = parity).map Prod.fst).sum
  let leftCount := (frame.length + 1) / 2
  let rightCount := frame.length / 2
  let left := (side 0).tdiv leftCount
  [left, if 0 < rightCount then (side 1).tdiv rightCount else left]

def downmix (channels : Nat) (samples : List Int) : List Int :=
  (blocks channels samples).flatMap downmixFrame

namespace AudioProcessor

def new (table : List ℚ) (trackId sourceRate : Nat) (quality : ResamplingQuality) :
    AudioProcessor where
  resampler := buildResampler table sourceRate quality
  trackId := trackId
  sampleBuf := none
  sourceRate := sourceRate
  quality := quality
  table := table
  pushed := []
  errors := []
  status := .running

variable (processor : AudioProcessor)

/-- `check_commands`; there is none when the loop is to stop. -/
def checkCommands (turn : DecoderTurn) : Option AudioProcessor :=
  match turn.command with
  | .seek _ true =>
    some
      { processor with
        resampler := processor.resampler.reset
        sampleBuf := none
        pushed := if turn.takesMarker then processor.pushed ++ [[]] else processor.pushed }
  | .seek _ false => some processor
  | .stop => none
  | .disconnected => none
  | .none => some processor

def resample (samples : List Int) : Checked (Resampler × List Int) :=
  if processor.resampler.isPassthrough then .ok (processor.resampler, samples)
  else processor.resampler.process samples

/-- The samples of a packet, copied into `buf`, go through the downmix and the resampler to the
engine. -/
def forward (spec : SignalSpec) (buf : SampleBuffer) (takesFrame : Bool) : AudioProcessor :=
  let processor :=
    if spec.rate = processor.sourceRate then processor
    else
      { processor with
        sourceRate := spec.rate
        resampler := buildResampler processor.table spec.rate processor.quality }
  let pcmData :=
    if spec.channels = mixerChannels then buf.samples else downmix spec.channels buf.samples
  match processor.resample pcmData with
  | .error _ => { processor with status := .faulted }
  | .ok (resampler, resampled) =>
    let processor := { processor with resampler }
    if resampled = [] then { processor with sampleBuf := some buf }
    else if takesFrame then
      { processor with pushed := processor.pushed ++ [resampled], sampleBuf := some buf }
    else { processor with status := .returned }

/-- The branch of a decoded packet. -/
def copyPacket (packet : Decoded) (takesFrame : Bool) : AudioProcessor :=
  let buf := processor.sampleBuf.getD (SampleBuffer.new packet.capacity packet.spec)
  let processor := { processor with sampleBuf := none }
  match buf.copyInterleavedRef packet with
  | none => { processor with status := .overflowed }
  | some buf =>
    if buf.samples = [] then { processor with sampleBuf := some buf }
    else processor.forward packet.spec buf takesFrame

def fail (message : String) : AudioProcessor :=
  { processor with errors := processor.errors ++ [message], status := .failed }

def decode (turn : DecoderTurn) : DecodeResult → AudioProcessor
  | .decoded packet => processor.copyPacket packet turn.takesFrame
  | .unexpectedEof => { processor with status := .returned }
  | .decodeError _ => processor
  | .failed message => processor.fail ("Decode error: " ++ message)

def turn (turn : DecoderTurn) : AudioProcessor :=
  match processor.checkCommands turn with
  | none => { processor with status := .returned }
  | some processor =>
    match turn.read with
    | .packet trackId result =>
      if trackId = processor.trackId then processor.decode turn result else processor
    | .unexpectedEof => { processor with status := .returned }
    | .failed message => processor.fail ("Packet read error: " ++ message)

end AudioProcessor

def processorSystem : System AudioProcessor DecoderTurn where
  step processor turn :=
    if processor.status = .running then some (processor.turn turn) else none

namespace DecoderTurn

def seeked (turn : DecoderTurn) : Bool :=
  match turn.command with
  | .seek _ succeeds => succeeds
  | _ => false

def stops (turn : DecoderTurn) : Bool :=
  match turn.command with
  | .stop => true
  | .disconnected => true
  | _ => false

def decoded (trackId : Nat) (turn : DecoderTurn) : Option Decoded :=
  match turn.stops, turn.read with
  | false, .packet other (.decoded packet) => if other = trackId then some packet else none
  | _, _ => none

end DecoderTurn

section History

variable (trackId : Nat)

def lastSection (turns : List DecoderTurn) : List DecoderTurn :=
  turns.rtake ((turns.rtakeWhile fun turn => !turn.seeked).length + 1)

/-- The first packet that was decoded since the start or the last successful seek. -/
def firstDecoded (turns : List DecoderTurn) : Option Decoded :=
  (lastSection turns).findSome? (DecoderTurn.decoded trackId)

/-- The packet of a turn, if it has one, has at most as many samples as the first packet since
the start or the last successful seek had room for. -/
def FitsFirst (before : List DecoderTurn) (turn : DecoderTurn) : Prop :=
  ∀ packet ∈ turn.decoded trackId, ∀ first ∈ firstDecoded trackId (before ++ [turn]),
    packet.frames * packet.spec.channels ≤ first.capacity * first.spec.channels

def AllFit (turns : List DecoderTurn) : Prop :=
  ∀ before turn, before ++ [turn] <+: turns → FitsFirst trackId before turn

variable {trackId : Nat} {turns : List DecoderTurn} {turn : DecoderTurn}

theorem lastSection_append : lastSection (turns ++ [turn]) =
    if turn.seeked then [turn] else lastSection turns ++ [turn] := by
  rw [lastSection]
  cases sought : turn.seeked with
  | true =>
    rw [rtakeWhile_concat_neg _ _ _ (by simp [sought]), length_nil,
      rtake_concat_succ, rtake_zero]
    rfl
  | false =>
    rw [rtakeWhile_concat_pos _ _ _ (by simp [sought]), length_append,
      length_singleton, rtake_concat_succ]
    rfl

theorem firstDecoded_append : firstDecoded trackId (turns ++ [turn]) =
    (if turn.seeked then none else firstDecoded trackId turns).or (turn.decoded trackId) := by
  rw [firstDecoded, lastSection_append]
  cases turn.seeked with
  | true => simp
  | false => simp [List.findSome?_append, firstDecoded]

theorem allFit_append : AllFit trackId (turns ++ [turn]) ↔
    AllFit trackId turns ∧ FitsFirst trackId turns turn := by
  constructor
  · intro fit
    refine ⟨fun before earlier inside => fit before earlier ?_, fit turns turn (prefix_rfl)⟩
    exact inside.trans (prefix_append _ _)
  · rintro ⟨earlier, last⟩ before other inside
    rcases prefix_concat_iff.mp inside with whole | front
    · obtain ⟨rfl, same⟩ := List.append_inj' whole rfl
      cases singleton_inj.mp same
      exact last
    · exact earlier before other front

end History

namespace AudioProcessor

variable {processor next : AudioProcessor} {turn : DecoderTurn}

def bufferAt (processor : AudioProcessor) (turn : DecoderTurn) : Option SampleBuffer :=
  if turn.seeked then none else processor.sampleBuf

def roomAt (processor : AudioProcessor) (turn : DecoderTurn) (packet : Decoded) : Nat :=
  ((processor.bufferAt turn).getD (SampleBuffer.new packet.capacity packet.spec)).room

/-- What a turn of a running processor does with the sample buffer. -/
inductive Turned (processor : AudioProcessor) (turn : DecoderTurn) (next : AudioProcessor) :
    Prop where
  | quiet (nothing : turn.decoded processor.trackId = none)
      (status : next.status ≠ .overflowed)
      (kept : next.status = .running → next.sampleBuf = processor.bufferAt turn)
  | overflows (packet : Decoded) (decoded : turn.decoded processor.trackId = some packet)
      (large : processor.roomAt turn packet < packet.samples.length)
      (status : next.status = .overflowed)
  | copies (packet : Decoded) (decoded : turn.decoded processor.trackId = some packet)
      (fits : packet.samples.length ≤ processor.roomAt turn packet)
      (status : next.status ≠ .overflowed)
      (kept : next.status = .running →
        next.sampleBuf.map SampleBuffer.room = some (processor.roomAt turn packet))

theorem checkCommands_spec (checked : processor.checkCommands turn = some next) :
    next.trackId = processor.trackId ∧ next.status = processor.status ∧
      next.sampleBuf = processor.bufferAt turn ∧ turn.stops = false := by
  rw [checkCommands] at checked
  rw [bufferAt, DecoderTurn.seeked, DecoderTurn.stops]
  cases command : turn.command with
  | none =>
    rw [command] at checked
    cases checked
    exact ⟨rfl, rfl, rfl, rfl⟩
  | seek ms succeeds =>
    rw [command] at checked
    cases succeeds with
    | true | false =>
      cases checked
      exact ⟨rfl, rfl, rfl, rfl⟩
  | stop | disconnected =>
    rw [command] at checked
    cases checked

theorem checkCommands_none (stopped : processor.checkCommands turn = none) : turn.stops = true := by
  rw [checkCommands] at stopped
  rw [DecoderTurn.stops]
  cases command : turn.command with
  | none => simp [command] at stopped
  | seek ms succeeds => cases succeeds <;> simp [command] at stopped
  | stop | disconnected => rfl

theorem forward_spec (running : processor.status = .running) (spec : SignalSpec)
    (buf : SampleBuffer) (takesFrame : Bool) :
    (processor.forward spec buf takesFrame).trackId = processor.trackId ∧
      (processor.forward spec buf takesFrame).status ≠ .overflowed ∧
      ((processor.forward spec buf takesFrame).status = .running →
        (processor.forward spec buf takesFrame).sampleBuf = some buf) := by
  rw [forward]
  generalize changed : (if spec.rate = processor.sourceRate then processor else
    { processor with
      sourceRate := spec.rate
      resampler := buildResampler processor.table spec.rate processor.quality }) = ready
  have status : ready.status = .running := by
    rw [← changed]
    split <;> exact running
  have track : ready.trackId = processor.trackId := by
    rw [← changed]
    split <;> rfl
  have goes : ready.status ≠ .overflowed := by rw [status]; decide
  dsimp only
  split
  · exact ⟨track, (fun contra => by cases contra), fun contra => by cases contra⟩
  · split
    · exact ⟨track, goes, fun _ => rfl⟩
    · split
      · exact ⟨track, goes, fun _ => rfl⟩
      · exact ⟨track, (fun contra => by cases contra), fun contra => by cases contra⟩

theorem copyPacket_large {packet : Decoded} (takesFrame : Bool)
    (large : (processor.sampleBuf.getD (SampleBuffer.new packet.capacity packet.spec)).room <
      packet.samples.length) :
    (processor.copyPacket packet takesFrame).status = .overflowed ∧
      (processor.copyPacket packet takesFrame).trackId = processor.trackId := by
  rw [copyPacket, SampleBuffer.copyInterleavedRef, dif_neg (Nat.not_le.mpr large)]
  exact ⟨rfl, rfl⟩

theorem copyPacket_fits (running : processor.status = .running) {packet : Decoded}
    (takesFrame : Bool) (fits : packet.samples.length ≤
      (processor.sampleBuf.getD (SampleBuffer.new packet.capacity packet.spec)).room) :
    (processor.copyPacket packet takesFrame).trackId = processor.trackId ∧
      (processor.copyPacket packet takesFrame).status ≠ .overflowed ∧
      ((processor.copyPacket packet takesFrame).status = .running →
        (processor.copyPacket packet takesFrame).sampleBuf.map SampleBuffer.room =
          some (processor.sampleBuf.getD (SampleBuffer.new packet.capacity packet.spec)).room) := by
  rw [copyPacket, SampleBuffer.copyInterleavedRef, dif_pos fits]
  dsimp only
  split
  · refine ⟨rfl, ?_, fun _ => rfl⟩
    rw [running]
    decide
  · obtain ⟨track, status, kept⟩ :=
      @forward_spec { processor with sampleBuf := none } running packet.spec
        ⟨_, packet.samples, fits⟩ takesFrame
    refine ⟨track, status, fun runs => ?_⟩
    rw [kept runs]
    rfl

theorem decode_turned (running : processor.status = .running)
    {middle : AudioProcessor} (checked : processor.checkCommands turn = some middle)
    {packet : Decoded} (decoded : turn.decoded processor.trackId = some packet) :
    Turned processor turn (middle.copyPacket packet turn.takesFrame) ∧
      (middle.copyPacket packet turn.takesFrame).trackId = processor.trackId := by
  obtain ⟨track, status, buffer, _⟩ := checkCommands_spec checked
  have room : (middle.sampleBuf.getD (SampleBuffer.new packet.capacity packet.spec)).room =
      processor.roomAt turn packet := by
    rw [roomAt, buffer]
  by_cases fits : packet.samples.length ≤ processor.roomAt turn packet
  · obtain ⟨same, copied, kept⟩ :=
      copyPacket_fits (status.trans running) turn.takesFrame (room ▸ fits)
    rw [room] at kept
    exact ⟨.copies packet decoded fits copied kept, same.trans track⟩
  · obtain ⟨overflowed, same⟩ :=
      @copyPacket_large middle packet turn.takesFrame (room ▸ Nat.lt_of_not_le fits)
    exact ⟨.overflows packet decoded (Nat.lt_of_not_le fits) overflowed, same.trans track⟩

theorem Turned.ends (nothing : turn.decoded processor.trackId = none)
    (ended : next.status = .returned ∨ next.status = .failed) : Turned processor turn next := by
  rcases ended with returned | failed
  · refine .quiet nothing (by rw [returned]; decide) fun runs => ?_
    rw [returned] at runs
    cases runs
  · refine .quiet nothing (by rw [failed]; decide) fun runs => ?_
    rw [failed] at runs
    cases runs

theorem turn_turned (running : processor.status = .running) :
    Turned processor turn (processor.turn turn) ∧
      (processor.turn turn).trackId = processor.trackId := by
  have seen : turn.decoded processor.trackId = match turn.stops, turn.read with
      | false, .packet other (.decoded packet) =>
        if other = processor.trackId then some packet else none
      | _, _ => none := rfl
  rw [AudioProcessor.turn]
  cases checked : processor.checkCommands turn with
  | none =>
    rw [checkCommands_none checked] at seen
    exact ⟨.ends seen (.inl rfl), rfl⟩
  | some middle =>
    obtain ⟨track, status, buffer, reads⟩ := checkCommands_spec checked
    have goes : middle.status ≠ .overflowed := by rw [status, running]; decide
    rw [reads] at seen
    cases read : turn.read with
    | unexpectedEof =>
      rw [read] at seen
      exact ⟨.ends seen (.inl rfl), track⟩
    | failed message =>
      rw [read] at seen
      exact ⟨.ends seen (.inr rfl), track⟩
    | packet other result =>
      rw [read] at seen
      dsimp only
      by_cases own : other = middle.trackId
      · rw [if_pos own]
        cases result with
        | decoded packet =>
          exact decode_turned running checked (seen.trans (if_pos (own.trans track)))
        | unexpectedEof => exact ⟨.ends seen (.inl rfl), track⟩
        | decodeError message => exact ⟨.quiet seen goes fun _ => buffer, track⟩
        | failed message => exact ⟨.ends seen (.inr rfl), track⟩
      · have foreign : ¬ other = processor.trackId := fun same => own (same.trans track.symm)
        have nothing : turn.decoded processor.trackId = none := by
          cases result with
          | decoded packet => exact seen.trans (if_neg foreign)
          | unexpectedEof | decodeError _ | failed _ => exact seen
        rw [if_neg own]
        exact ⟨.quiet nothing goes fun _ => buffer, track⟩

end AudioProcessor

section Histories

variable {trackId : Nat} {turns : List DecoderTurn} {turn : DecoderTurn}
  {processor next : AudioProcessor}

/-- After a history: the buffer of a running processor has the room of the first packet, and the
processor has panicked exactly if a packet did not fit. -/
structure Tracks (trackId : Nat) (turns : List DecoderTurn) (processor : AudioProcessor) :
    Prop where
  track : processor.trackId = trackId
  room : processor.status = .running → processor.sampleBuf.map SampleBuffer.room =
    (firstDecoded trackId turns).map fun first => first.capacity * first.spec.channels
  overflowed : processor.status = .overflowed ↔ ¬ AllFit trackId turns

theorem tracks_new (table : List ℚ) (trackId sourceRate : Nat) (quality : ResamplingQuality) :
    Tracks trackId [] (AudioProcessor.new table trackId sourceRate quality) where
  track := rfl
  room := fun _ => rfl
  overflowed := by
    constructor
    · intro contra
      cases contra
    · intro unfit
      refine absurd (fun before turn inside => ?_) unfit
      exact absurd (prefix_nil.mp inside) (by simp)

section

variable (tracks : Tracks trackId turns processor)
include tracks

section

variable (running : processor.status = .running) {packet : Decoded}
  (decoded : turn.decoded trackId = some packet)
include running decoded

theorem Tracks.roomAt :
    (firstDecoded trackId (turns ++ [turn])).map
        (fun first => first.capacity * first.spec.channels) =
      some (processor.roomAt turn packet) := by
  have room := tracks.room running
  rw [firstDecoded_append, AudioProcessor.roomAt, AudioProcessor.bufferAt, decoded]
  cases turn.seeked with
  | true => rfl
  | false =>
    rw [if_neg Bool.false_ne_true, if_neg Bool.false_ne_true]
    cases buffer : processor.sampleBuf with
    | none =>
      rw [buffer, map_none, eq_comm, map_eq_none_iff] at room
      rw [room]
      rfl
    | some buf =>
      rw [buffer, map_some, eq_comm] at room
      obtain ⟨first, found, same⟩ := map_eq_some_iff.mp room
      rw [found, some_or, map_some, same]
      rfl

theorem Tracks.fitsFirst_iff :
    FitsFirst trackId turns turn ↔ packet.samples.length ≤ processor.roomAt turn packet := by
  obtain ⟨first, found, room⟩ := map_eq_some_iff.mp (tracks.roomAt running decoded)
  rw [FitsFirst, decoded, found, packet.whole, ← room]
  constructor
  · intro fits
    exact fits packet rfl first rfl
  · intro fits other isPacket another isFirst
    cases mem_some_iff.mp isPacket
    cases mem_some_iff.mp isFirst
    exact fits

end

theorem Tracks.step (stepped : processorSystem.step processor turn = some next) :
    Tracks trackId (turns ++ [turn]) next := by
  obtain ⟨running, rfl⟩ := ite_some_none_eq_some.mp stepped
  have fit : AllFit trackId turns := by
    by_contra unfit
    rw [tracks.overflowed.mpr unfit] at running
    cases running
  obtain ⟨turned, track⟩ := @AudioProcessor.turn_turned processor turn running
  refine ⟨track.trans tracks.track, ?_, ?_⟩
  · intro runs
    cases turned with
    | quiet nothing status kept =>
      rw [tracks.track] at nothing
      rw [kept runs, AudioProcessor.bufferAt, firstDecoded_append, nothing, or_none]
      split
      · rfl
      · exact tracks.room running
    | overflows packet decoded large status =>
      rw [status] at runs
      cases runs
    | copies packet decoded fits status kept =>
      rw [tracks.track] at decoded
      rw [kept runs, tracks.roomAt running decoded]
  · rw [allFit_append, and_iff_right fit]
    cases turned with
    | quiet nothing status kept =>
      rw [tracks.track] at nothing
      refine iff_of_false status (not_not_intro ?_)
      intro packet decoded
      rw [nothing] at decoded
      cases decoded
    | overflows packet decoded large status =>
      rw [tracks.track] at decoded
      rw [tracks.fitsFirst_iff running decoded]
      exact iff_of_true status (Nat.not_le.mpr large)
    | copies packet decoded fits status kept =>
      rw [tracks.track] at decoded
      rw [tracks.fitsFirst_iff running decoded]
      exact iff_of_false status (not_not_intro fits)

theorem Tracks.run {rest : List DecoderTurn}
    (reached : processorSystem.run processor rest = some next) :
    Tracks trackId (turns ++ rest) next := by
  induction rest generalizing turns processor with
  | nil =>
    cases reached
    rw [append_nil]
    exact tracks
  | cons turn rest ih =>
    obtain ⟨middle, stepped, others⟩ := processorSystem.run_cons_some reached
    have later := ih (tracks.step stepped) others
    rwa [append_assoc, singleton_append] at later

end

end Histories

/-- The copy into the sample buffer panics nowhere in a history exactly if no packet has more
samples than the first packet since the start or the last successful seek had room for. -/
theorem packets_fit_iff (table : List ℚ) (trackId sourceRate : Nat) (quality : ResamplingQuality)
    (turns : List DecoderTurn) (final : AudioProcessor)
    (reached : processorSystem.run (AudioProcessor.new table trackId sourceRate quality) turns =
      some final) :
    final.status ≠ .overflowed ↔ AllFit trackId turns := by
  have tracks := (tracks_new table trackId sourceRate quality).run reached
  rw [nil_append] at tracks
  rw [ne_eq, tracks.overflowed, not_not]

def silence (channels frames : Nat) : Decoded where
  spec := ⟨48000, channels⟩
  capacity := frames
  frames := frames
  samples := List.replicate (frames * channels) 0
  whole := length_replicate
  within := Nat.le_refl frames

def decodes (packet : Decoded) : DecoderTurn := { read := .packet 0 (.decoded packet) }

/-- A longer packet, then a shorter one. -/
theorem shorter_packet_fits :
    ∃ final, processorSystem.run (AudioProcessor.new [] 0 48000 .low)
        [decodes (silence 2 2), decodes (silence 2 1)] = some final ∧
      final.status ≠ .overflowed := by
  have runs : (processorSystem.run (AudioProcessor.new [] 0 48000 .low)
      [decodes (silence 2 2), decodes (silence 2 1)]).isSome = true := by
    decide +kernel
  obtain ⟨final, reached⟩ := isSome_iff_exists.mp runs
  refine ⟨final, reached, (packets_fit_iff [] 0 48000 .low _ final reached).mpr ?_⟩
  have none : AllFit 0 [] := fun before turn inside => by simp at inside
  have longer : AllFit 0 ([] ++ [decodes (silence 2 2)]) := by
    refine allFit_append.mpr ⟨none, ?_⟩
    rintro packet ⟨⟩ first ⟨⟩
    decide
  refine (allFit_append.mpr ⟨longer, ?_⟩ : AllFit 0 ([] ++ [_] ++ [decodes (silence 2 1)]))
  rintro packet ⟨⟩ first ⟨⟩
  decide

/-- One frame of one channel, then one frame of two: the buffer has room for one sample. -/
theorem second_channel_overflows :
    (processorSystem.run (AudioProcessor.new [] 0 48000 .low)
      [decodes (silence 1 1), decodes (silence 2 1)]).map AudioProcessor.status =
        some .overflowed := by
  decide +kernel

end KizunaLink.Engine
