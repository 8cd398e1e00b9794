import KizunaLink.Engine.Accumulator
import KizunaLink.Engine.RingBuffer

/-!
# Sound-effect layers

Model of `MixLayer` and `AudioMixer` (engine/mix/layer.rs, engine/mix/mixer.rs) and of the
end of `Mixer::mix`, behind the sum of the tracks.  The ring buffer of a layer is the byte
queue that it stands for, and a volume is what it makes of a sample.

The sender of a layer runs on another thread: `LayerRun` is one layer with its sender, and
the accesses of a call to the channel are steps of their own.
-/

set_option autoImplicit false

namespace KizunaLink.Engine

open KizunaLink.Lib List Option

/-- The low byte comes first. -/
def toNeBytes (sample : Int16) : List UInt8 :=
  [.ofBitVec (sample.toBitVec.extractLsb' 0 8), .ofBitVec (sample.toBitVec.extractLsb' 8 8)]

def fromNeBytes (low high : UInt8) : Int16 := .ofBitVec (high.toBitVec ++ low.toBitVec)

def toBytes (frame : List Int16) : List UInt8 := frame.flatMap toNeBytes

/-- `as_chunks::<2>`: an odd byte at the end is left out. -/
def fromBytes : List UInt8 → List Int16
  | low :: high :: rest => fromNeBytes low high :: fromBytes rest
  | _ => []

theorem fromBytes_toNeBytes (sample : Int16) (bytes : List UInt8) :
    fromBytes (toNeBytes sample ++ bytes) = sample :: fromBytes bytes := by
  have whole (bits : BitVec 16) : bits.extractLsb' 8 8 ++ bits.extractLsb' 0 8 = bits := by
    rw [BitVec.extractLsb'_append_extractLsb'_eq_extractLsb' (by rfl)]
    exact BitVec.extractLsb'_eq_self
  exact congrArg (Int16.ofBitVec · :: fromBytes bytes) (whole sample.toBitVec)

@[simp]
theorem fromBytes_toBytes (frame : List Int16) : fromBytes (toBytes frame) = frame := by
  induction frame with
  | nil => rfl
  | cons sample rest ih => exact (fromBytes_toNeBytes sample _).trans (congrArg _ ih)

theorem length_toBytes (frame : List Int16) : (toBytes frame).length = frame.length * 2 := by
  simp [toBytes, toNeBytes]

theorem take_drop_toBytes (frame : List Int16) (count : Nat) :
    (toBytes frame).take (count * 2) = toBytes (frame.take count) ∧
      (toBytes frame).drop (count * 2) = toBytes (frame.drop count) := by
  induction frame generalizing count with
  | nil => simp [toBytes]
  | cons sample rest ih =>
    cases count with
    | zero => exact ⟨rfl, rfl⟩
    | succ count =>
      have later := ih count
      simp_all [toBytes, toNeBytes, Nat.succ_mul]

/-- Frames wait in `rx`; `gain` is `(sample as f32 * volume).round() as i32`. -/
structure MixLayer where
  gain : Int16 → Int
  rx : List (List Int16) := []
  disconnected : Bool := false
  ringBuffer : ByteQueue := ⟨1024 * 1024, []⟩
  finished : Bool := false

def addScaled (gain : Int16 → Int) : List Int → List Int16 → List Int
  | acc :: room, sample :: samples => wrapI32 (acc + gain sample) :: addScaled gain room samples
  | room, _ => room

namespace MixLayer

variable (layer : MixLayer)

/-- One turn of the loop of `fill`. -/
def receive (frame : List Int16) : MixLayer :=
  { layer with
    rx := layer.rx.tail
    ringBuffer := (layer.ringBuffer.call (.write (toBytes frame))).1 }

def checkDisconnected : MixLayer :=
  { layer with finished := layer.finished || layer.disconnected }

def fill : MixLayer := (layer.rx.foldl receive layer).checkDisconnected

def isDead : Bool := layer.finished && layer.ringBuffer.bytes.isEmpty

/-- The samples that a call with a buffer of this length reads. -/
def samples (len : Nat) : List Int16 :=
  ((layer.ringBuffer.found (len * 2)).map fromBytes).getD []

def accumulate (acc : List Int) : MixLayer × List Int :=
  ({ layer with ringBuffer := (layer.ringBuffer.call (.read (acc.length * 2))).1 },
    addScaled layer.gain acc (layer.samples acc.length))

end MixLayer

/-! ## A layer and its sender -/

inductive LayerPoint where
  | idle
  | filling
  | drained
  | filled
  | removed
  deriving DecidableEq, Repr

/-- How samples leave the ring buffer; `before` and `after` are the accumulator of a call. -/
inductive Departure where
  | overwritten (samples : List Int16)
  | accumulated (samples : List Int16) (before after : List Int)
  deriving DecidableEq, Repr

def Departure.samples : Departure → List Int16
  | .overwritten samples | .accumulated samples _ _ => samples

/-- `sent` are all samples that were sent, and `left` tells what became of those that are no
longer in the ring buffer. -/
structure LayerRun where
  layer : MixLayer
  point : LayerPoint := .idle
  sent : List Int16 := []
  left : List Departure := []

inductive LayerAct where
  | send (frame : List Int16)
  | disconnect
  | mix
  | receive
  | drained
  | check
  | accumulate (acc : List Int)
  deriving DecidableEq, Repr

namespace LayerRun

def pending (run : LayerRun) : List Int16 := fromBytes run.layer.ringBuffer.bytes

/-- What is more than the ring buffer holds is overwritten, the oldest samples first. -/
def receive (run : LayerRun) (frame : List Int16) : LayerRun :=
  let pending := run.pending ++ frame
  let lost := pending.take (pending.length - run.layer.ringBuffer.capacity / 2)
  { run with layer := run.layer.receive frame, left := run.left ++ [.overwritten lost] }

/-- The test for the end, and `retain`. -/
def check (run : LayerRun) : LayerRun :=
  let layer := run.layer.checkDisconnected
  { run with layer, point := if layer.isDead then .removed else .filled }

def accumulate (run : LayerRun) (acc : List Int) : LayerRun :=
  let (layer, after) := run.layer.accumulate acc
  { run with
    layer
    left := run.left ++ [.accumulated (run.layer.samples acc.length) acc after]
    point := .idle }

def step (run : LayerRun) : LayerAct → Option LayerRun
  | .send frame =>
    if run.layer.disconnected then none
    else some { run with
      layer := { run.layer with rx := run.layer.rx ++ [frame] }
      sent := run.sent ++ frame }
  | .disconnect => some { run with layer := { run.layer with disconnected := true } }
  | .mix => if run.point = .idle then some { run with point := .filling } else none
  | .receive =>
    match run.point, run.layer.rx with
    | .filling, frame :: _ => some (run.receive frame)
    | _, _ => none
  | .drained =>
    match run.point, run.layer.rx with
    | .filling, [] => some { run with point := .drained }
    | _, _ => none
  | .check => if run.point = .drained then some run.check else none
  | .accumulate acc => if run.point = .filled then some (run.accumulate acc) else none

end LayerRun

def layerSystem : System LayerRun LayerAct := ⟨LayerRun.step⟩

/-- Without a send in between, the steps of a call are `fill` and `is_dead`. -/
theorem run_fill (run : LayerRun) (filling : run.point = .filling) :
    ∃ after, layerSystem.run run
        (run.layer.rx.map (fun _ => .receive) ++ [.drained, .check]) = some after ∧
      after.layer = run.layer.fill ∧
      after.point = if run.layer.fill.isDead then .removed else .filled := by
  obtain ⟨frames, waiting⟩ : ∃ frames, run.layer.rx = frames := ⟨_, rfl⟩
  rw [MixLayer.fill, waiting]
  induction frames generalizing run with
  | nil =>
    refine ⟨{ run with point := .drained }.check, ?_, rfl, rfl⟩
    simp [layerSystem, System.run, LayerRun.step, filling, waiting]
  | cons frame rest ih =>
    obtain ⟨after, reached, same⟩ := ih (run.receive frame) filling (congrArg List.tail waiting)
    refine ⟨after, ?_, same⟩
    rw [← reached]
    exact layerSystem.run_cons_of_step _ (by simp [layerSystem, LayerRun.step, filling, waiting])

/-- When the end is seen, the channel is empty or the ring buffer is not. -/
def SeesLastFrame (run : LayerRun) (act : LayerAct) : Prop :=
  act = .check → run.layer.disconnected = true →
    run.layer.rx = [] ∨ run.layer.ringBuffer.bytes ≠ []

instance (run : LayerRun) (act : LayerAct) : Decidable (SeesLastFrame run act) :=
  inferInstanceAs (Decidable (_ → _ → _))

structure LayerRun.Accounted (volume : Int16 → Int) (run : LayerRun) : Prop where
  gain : run.layer.gain = volume
  capacity : run.layer.ringBuffer.capacity = run.layer.ringBuffer.capacity / 2 * 2
  aligned : run.layer.ringBuffer.bytes = toBytes run.pending
  sent : run.left.flatMap Departure.samples ++ (run.pending ++ run.layer.rx.flatten) = run.sent
  added : ∀ samples before after, .accumulated samples before after ∈ run.left →
    after = addScaled volume before samples ∧ samples.length ≤ before.length
  finished : run.layer.finished = true → run.layer.disconnected = true
  drained : run.layer.finished = true → run.point = .drained → run.layer.rx = []
  removed : run.point = .removed →
    run.layer.finished = true ∧ run.layer.rx = [] ∧ run.pending = []

namespace LayerRun.Accounted

variable {volume : Int16 → Int} {run next : LayerRun}

theorem new (volume : Int16 → Int) : Accounted volume { layer := { gain := volume } } :=
  ⟨rfl, (by decide : 1024 * 1024 = 1024 * 1024 / 2 * 2), rfl, rfl, by simp, by simp, by simp,
    by simp⟩

section

variable (accounted : run.Accounted volume)
include accounted

theorem send (frame : List Int16) (connected : ¬ run.layer.disconnected = true) :
    Accounted volume { run with
      layer := { run.layer with rx := run.layer.rx ++ [frame] }
      sent := run.sent ++ frame } where
  __ := accounted
  sent := by simp [← accounted.sent, pending]
  drained finished := absurd (accounted.finished finished) connected
  removed point := absurd (accounted.finished (accounted.removed point).1) connected

theorem receive {frame : List Int16}
    {rest : List (List Int16)} (waiting : run.layer.rx = frame :: rest)
    (filling : run.point = .filling) : (run.receive frame).Accounted volume := by
  obtain ⟨all, joined⟩ : ∃ all, run.pending ++ frame = all := ⟨_, rfl⟩
  obtain ⟨lost, split⟩ : ∃ lost, all.length - run.layer.ringBuffer.capacity / 2 = lost := ⟨_, rfl⟩
  have left : (run.receive frame).left = run.left ++ [.overwritten (all.take lost)] := by
    rw [← split, ← joined, LayerRun.receive]
  have bytes : (run.receive frame).layer.ringBuffer.bytes = toBytes (all.drop lost) := by
    have behind : run.layer.ringBuffer.bytes ++ toBytes frame = toBytes all := by
      rw [accounted.aligned, ← joined, toBytes, toBytes, toBytes, flatMap_append]
    have even := accounted.capacity
    show (run.layer.ringBuffer.bytes ++ toBytes frame).rtake run.layer.ringBuffer.capacity = _
    rw [behind, List.rtake, ← (take_drop_toBytes _ _).2, length_toBytes, ← split, Nat.sub_mul,
      ← even]
  have kept : (run.receive frame).pending = all.drop lost := by
    rw [pending, bytes, fromBytes_toBytes]
  have elsewhere {point : LayerPoint} (other : point ≠ .filling) :
      (run.receive frame).point ≠ point := fun here => other (here.symm.trans filling)
  refine ⟨accounted.gain, accounted.capacity, by rw [kept, bytes], ?_, ?_, accounted.finished,
    fun _ point => absurd point (elsewhere nofun), fun point => absurd point (elsewhere nofun)⟩
  · calc
      (run.receive frame).left.flatMap Departure.samples ++
          ((run.receive frame).pending ++ run.layer.rx.tail.flatten)
      _ = run.left.flatMap Departure.samples ++ (all ++ rest.flatten) := by
        simp [left, kept, waiting, Departure.samples, ← append_assoc (all.take lost)]
      _ = run.sent := by simp [← accounted.sent, ← joined, waiting]
  · intro samples before after member
    rw [left, mem_append] at member
    exact accounted.added samples before after (member.resolve_right (by simp))

theorem check (drained : run.point = .drained)
    (sees : SeesLastFrame run .check) : run.check.Accounted volume := by
  have ended (finished : run.check.layer.finished = true) : run.layer.disconnected = true :=
    (Bool.or_eq_true_iff.mp finished).elim accounted.finished id
  refine { accounted with finished := ended, drained := ?_, removed := ?_ }
  · intro _ point
    simp only [LayerRun.check] at point
    split at point <;> cases point
  · intro point
    have dead : run.layer.checkDisconnected.isDead = true := by
      by_contra alive
      simp only [LayerRun.check] at point
      rw [if_neg alive] at point
      cases point
    obtain ⟨finished, empty⟩ := Bool.and_eq_true_iff.mp dead
    have none : run.layer.ringBuffer.bytes = [] := List.isEmpty_iff.mp empty
    refine ⟨finished, ?_, congrArg fromBytes none⟩
    rcases Bool.or_eq_true_iff.mp finished with before | now
    · exact accounted.drained before drained
    · exact (sees rfl now).resolve_right (not_not_intro none)

theorem accumulate (acc : List Int) : (run.accumulate acc).Accounted volume := by
  have samples : run.layer.samples acc.length = run.pending.take acc.length := by
    rw [MixLayer.samples, ByteQueue.found, accounted.aligned]
    split
    · next nothing =>
      have none : min acc.length run.pending.length = 0 := by
        rw [length_toBytes] at nothing
        omega
      rw [take_eq_take_min, none]
      rfl
    · rw [(take_drop_toBytes _ _).1]
      exact fromBytes_toBytes _
  have bytes : (run.accumulate acc).layer.ringBuffer.bytes =
      toBytes (run.pending.drop acc.length) := by
    rw [← (take_drop_toBytes _ _).2, ← accounted.aligned]
    rfl
  have kept : (run.accumulate acc).pending = run.pending.drop acc.length := by
    rw [pending, bytes, fromBytes_toBytes]
  refine ⟨accounted.gain, accounted.capacity, by rw [kept, bytes], ?_, ?_, accounted.finished,
    by simp [LayerRun.accumulate], by simp [LayerRun.accumulate]⟩
  · simp only [LayerRun.accumulate, flatMap_append] at kept ⊢
    rw [kept, samples, ← accounted.sent]
    simp [Departure.samples, MixLayer.accumulate, ← append_assoc (run.pending.take _)]
  · intro added before after member
    rcases mem_append.mp member with earlier | new
    · exact accounted.added added before after earlier
    · cases mem_singleton.mp new
      rw [samples, ← accounted.gain, ← samples]
      refine ⟨rfl, ?_⟩
      rw [samples]
      exact length_take_le _ _

theorem step {act : LayerAct} (sees : SeesLastFrame run act)
    (stepped : run.step act = some next) : next.Accounted volume := by
  cases act with
  | send frame =>
    obtain ⟨connected, same⟩ := ite_none_left_eq_some.mp stepped
    cases same
    exact accounted.send frame connected
  | disconnect =>
    cases stepped
    exact { accounted with finished := fun _ => rfl }
  | mix =>
    obtain ⟨-, same⟩ := ite_none_right_eq_some.mp stepped
    cases same
    exact { accounted with drained := nofun, removed := nofun }
  | receive =>
    simp only [LayerRun.step] at stepped
    split at stepped
    · next filling waiting =>
      cases stepped
      exact accounted.receive waiting filling
    · cases stepped
  | drained =>
    simp only [LayerRun.step] at stepped
    split at stepped
    · next filling waiting =>
      cases stepped
      exact { accounted with drained := fun _ _ => waiting, removed := nofun }
    · cases stepped
  | check =>
    obtain ⟨drained, same⟩ := ite_none_right_eq_some.mp stepped
    cases same
    exact accounted.check drained sees
  | accumulate acc =>
    obtain ⟨-, same⟩ := ite_none_right_eq_some.mp stepped
    cases same
    exact accounted.accumulate acc

end

end LayerRun.Accounted

/-- Whatever is sent has left the ring buffer, stands in it or waits, in this order, and when
the layer is removed all has left: overwritten, or added to the accumulator of a call. -/
theorem layer_audio_complete (volume : Int16 → Int) {acts : List LayerAct} {after : LayerRun}
    (meets : layerSystem.Meets SeesLastFrame { layer := { gain := volume } } acts)
    (reached : layerSystem.run { layer := { gain := volume } } acts = some after) :
    after.left.flatMap Departure.samples ++ (after.pending ++ after.layer.rx.flatten) =
        after.sent ∧
      (after.point = .removed → after.left.flatMap Departure.samples = after.sent) ∧
      ∀ samples old new, .accumulated samples old new ∈ after.left →
        new = addScaled volume old samples ∧ samples.length ≤ old.length := by
  have accounted : after.Accounted volume :=
    layerSystem.run_invariant SeesLastFrame (LayerRun.Accounted volume)
      (fun before => before.step) acts (.new volume) meets reached
  refine ⟨accounted.sent, fun removed => ?_, accounted.added⟩
  obtain ⟨-, waiting, pending⟩ := accounted.removed removed
  simpa [waiting, pending] using accounted.sent

def oneFrame : List LayerAct :=
  [.send [5, 6], .disconnect, .mix, .receive, .drained, .check, .accumulate [1, 1, 1], .mix,
    .drained, .check]

theorem sent_frame_mixed :
    ∃ after, layerSystem.run { layer := { gain := Int16.toInt } } oneFrame = some after ∧
      after.left = [.overwritten [], .accumulated [5, 6] [1, 1, 1] [6, 7, 1]] ∧
      after.left.flatMap Departure.samples = after.sent :=
  ⟨_, rfl, by decide, (layer_audio_complete Int16.toInt
    (show layerSystem.Meets SeesLastFrame _ oneFrame by decide) rfl).2.1 (by decide)⟩

/-- The frame is sent when `try_recv` has found none, and the sender is gone when the layer
looks for it. -/
theorem last_frame_lost :
    (layerSystem.run { layer := { gain := Int16.toInt } }
        [.mix, .drained, .send [5, 6], .disconnect, .check]).map
      (fun run => (run.point, run.sent, run.left)) = some (.removed, [5, 6], []) := by
  decide

/-! ## The end of a call -/

section

variable (compress : Int → Int16)

/-- `compress` is what the soft knee makes of a louder sum. -/
def softClipI16 (sum : Int) : Int16 :=
  if sum.natAbs ≤ 29491 then .ofInt sum else compress sum

/-- The layers are in the order of the map. -/
structure AudioMixer where
  layers : List (String × MixLayer) := []
  enabled : Bool := true

namespace AudioMixer

variable (audio : AudioMixer)

def addLayer (id : String) (rx : List (List Int16)) (gain : Int16 → Int) :
    Except String AudioMixer :=
  if 5 ≤ audio.layers.length then .error "Maximum mix layers reached"
  else .ok { layers := audio.layers.filter (·.1 ≠ id) ++ [(id, { gain, rx })], enabled := true }

def removeLayer (id : String) : AudioMixer :=
  { audio with layers := audio.layers.filter (·.1 ≠ id) }

/-- A change of the layer with this id, if there is one. -/
def changeLayer (id : String) (change : MixLayer → MixLayer) : AudioMixer :=
  { audio with layers := audio.layers.map fun entry =>
      if entry.1 = id then (id, change entry.2) else entry }

def accumulateAll : List (String × MixLayer) → List Int → List (String × MixLayer) × List Int
  | [], acc => ([], acc)
  | (id, layer) :: rest, acc =>
    let (layer, acc) := layer.accumulate acc
    let (rest, acc) := accumulateAll rest acc
    ((id, layer) :: rest, acc)

def mix (mainFrame : List Int16) : AudioMixer × List Int16 :=
  if !audio.enabled || audio.layers.isEmpty then (audio, mainFrame)
  else
    let filled := audio.layers.map fun (id, layer) => (id, layer.fill)
    let (layers, acc) := accumulateAll (filled.filter (!·.2.isDead)) (mainFrame.map Int16.toInt)
    ({ audio with layers }, acc.map (softClipI16 compress))

end AudioMixer

structure MixCall where
  outLen : Nat
  buf : List Int16
  hasAudio : Bool
  deriving DecidableEq, Repr

/-- `calls` are what the calls of `mix` have written and returned. -/
structure Mixer where
  bus : MixBus := {}
  audioMixer : AudioMixer := {}
  calls : List MixCall := []

inductive MixerAct where
  | bus (act : BusAct)
  | addLayer (id : String) (rx : List (List Int16)) (gain : Int16 → Int)
  | removeLayer (id : String)
  | setLayerVolume (id : String) (gain : Int16 → Int)
  | send (id : String) (frame : List Int16)
  | disconnect (id : String)

/-- Neither a track nor a layer is added. -/
def MixerAct.addsNothing : MixerAct → Bool
  | .bus (.addTrack _) | .addLayer _ _ _ => false
  | _ => true

namespace Mixer

/-- What follows the loop over the tracks. -/
def finish (mixer : Mixer) (bus : MixBus) : Mixer :=
  let (audioMixer, buf) := mixer.audioMixer.mix compress (bus.mixBuf.map (softClipI16 compress))
  let hasAudio := bus.hasAudio || !audioMixer.layers.isEmpty
  { bus, audioMixer, calls := mixer.calls ++ [{ outLen := bus.outLen, buf, hasAudio }] }

def step (mixer : Mixer) : MixerAct → Option Mixer
  | .bus act =>
    (mixer.bus.step act).map fun bus =>
      match act with
      | .stopAll => { mixer with bus, audioMixer := { mixer.audioMixer with enabled := false } }
      | .finish => mixer.finish compress bus
      | _ => { mixer with bus }
  | .addLayer id rx gain =>
    if mixer.bus.point = .idle then
      some { mixer with
        audioMixer := (mixer.audioMixer.addLayer id rx gain).toOption.getD mixer.audioMixer }
    else none
  | .removeLayer id =>
    if mixer.bus.point = .idle then
      some { mixer with audioMixer := mixer.audioMixer.removeLayer id }
    else none
  | .setLayerVolume id gain =>
    if mixer.bus.point = .idle then
      some { mixer with audioMixer := mixer.audioMixer.changeLayer id ({ · with gain }) }
    else none
  | .send id frame =>
    some { mixer with
      audioMixer := mixer.audioMixer.changeLayer id fun layer =>
        { layer with rx := layer.rx ++ [frame] } }
  | .disconnect id =>
    some { mixer with
      audioMixer := mixer.audioMixer.changeLayer id ({ · with disconnected := true }) }

end Mixer

def mixerSystem : System Mixer MixerAct := ⟨Mixer.step compress⟩

end

/-- Without tracks, between two calls or in one whose sum is zero. -/
structure MixBus.Quiet (bus : MixBus) : Prop where
  tracks : bus.tracks = []
  point : bus.point = .idle ∨ bus.point = .looping ∧ bus.hasAudio = false ∧
    bus.mixBuf = List.replicate bus.outLen 0

theorem MixBus.Quiet.step {bus next : MixBus} (quiet : bus.Quiet) {act : BusAct}
    (adds : ∀ cell, act ≠ .addTrack cell) (stepped : bus.step act = some next) : next.Quiet := by
  obtain ⟨visited, waiting⟩ := append_eq_nil_iff.mp quiet.tracks
  cases act with
  | addTrack cell => exact absurd rfl (adds cell)
  | stopTrack _ | stopAll =>
    obtain ⟨idle, ⟨⟩⟩ := ite_none_right_eq_some.mp stepped
    exact ⟨by simp [MixBus.keep, MixBus.tracks, visited, waiting], .inl idle⟩
  | setCell id cell =>
    obtain rfl := Option.some.inj stepped
    exact ⟨by simp [MixBus.setCell, MixBus.tracks, visited, waiting], quiet.point⟩
  | mix outLen =>
    obtain ⟨-, ⟨⟩⟩ := ite_none_right_eq_some.mp stepped
    exact ⟨by simp [MixBus.beginMix, MixBus.tracks, visited, waiting], .inr ⟨rfl, rfl, rfl⟩⟩
  | enter | pull _ | storeStopped _ | storeRamp _ =>
    rcases quiet.point with idle | ⟨looping, -⟩ <;> simp_all [MixBus.step]
  | finish =>
    simp only [MixBus.step] at stepped
    split at stepped
    · obtain rfl := Option.some.inj stepped
      exact ⟨quiet.tracks, .inl rfl⟩
    · cases stepped

namespace Mixer

/-- What `stop_all` leaves behind, and the calls since. -/
structure Silenced (stopped mixer : Mixer) : Prop where
  bus : mixer.bus.Quiet
  enabled : mixer.audioMixer.enabled = false
  layers : stopped.audioMixer.layers = [] → mixer.audioMixer.layers = []
  calls : ∃ later, mixer.calls = stopped.calls ++ later ∧ ∀ call ∈ later,
    call.buf = List.replicate call.outLen 0 ∧
      (stopped.audioMixer.layers = [] → call.hasAudio = false)

variable {compress : Int → Int16} {stopped mixer next : Mixer}

theorem Silenced.change (silenced : Silenced stopped mixer) {audioMixer : AudioMixer}
    (enabled : audioMixer.enabled = mixer.audioMixer.enabled)
    (layers : mixer.audioMixer.layers = [] → audioMixer.layers = []) :
    Silenced stopped { mixer with audioMixer } where
  __ := silenced
  enabled := enabled.trans silenced.enabled
  layers none := layers (silenced.layers none)

theorem Silenced.finish (silenced : Silenced stopped mixer) {bus : MixBus}
    (stepped : mixer.bus.step .finish = some bus) :
    Silenced stopped (mixer.finish compress bus) := by
  have quiet : bus.Quiet := silenced.bus.step (by simp) stepped
  obtain ⟨silent, zeros⟩ : bus.hasAudio = false ∧ bus.mixBuf = List.replicate bus.outLen 0 := by
    simp only [MixBus.step] at stepped
    split at stepped
    · next looping _ =>
      obtain rfl := Option.some.inj stepped
      simpa [looping] using silenced.bus.point
    · cases stepped
  have finished : mixer.finish compress bus = { bus, audioMixer := mixer.audioMixer, calls :=
      mixer.calls ++ [⟨bus.outLen, List.replicate bus.outLen (softClipI16 compress 0),
        !mixer.audioMixer.layers.isEmpty⟩] } := by
    simp [Mixer.finish, AudioMixer.mix, silenced.enabled, silent, zeros]
  obtain ⟨later, calls, zero⟩ := silenced.calls
  rw [finished, calls]
  refine ⟨quiet, silenced.enabled, silenced.layers, later ++ [_], append_assoc .., ?_⟩
  intro call member
  rcases mem_append.mp member with earlier | last
  · exact zero call earlier
  · cases mem_singleton.mp last
    exact ⟨rfl, fun none => by simp [silenced.layers none]⟩

theorem Silenced.step (silenced : Silenced stopped mixer) {act : MixerAct}
    (adds : act.addsNothing = true) (stepped : mixer.step compress act = some next) :
    Silenced stopped next := by
  cases act with
  | bus act =>
    obtain ⟨bus, moved, rfl⟩ := map_eq_some_iff.mp stepped
    have quiet : bus.Quiet := silenced.bus.step (by rintro cell rfl; cases adds) moved
    cases act with
    | finish => exact silenced.finish moved
    | stopAll => exact { silenced with bus := quiet, enabled := rfl }
    | _ => exact { silenced with bus := quiet }
  | addLayer id rx gain => cases adds
  | removeLayer id =>
    obtain ⟨-, ⟨⟩⟩ := ite_none_right_eq_some.mp stepped
    exact silenced.change rfl fun none => by simp [AudioMixer.removeLayer, none]
  | setLayerVolume id gain =>
    obtain ⟨-, ⟨⟩⟩ := ite_none_right_eq_some.mp stepped
    exact silenced.change rfl fun none => by simp [AudioMixer.changeLayer, none]
  | send _ _ | disconnect _ =>
    obtain rfl := Option.some.inj stepped
    exact silenced.change rfl fun none => by simp [AudioMixer.changeLayer, none]

theorem silenced_stopAll (stop : mixer.step compress (.bus .stopAll) = some stopped) :
    Silenced stopped stopped := by
  obtain ⟨bus, moved, rfl⟩ := map_eq_some_iff.mp stop
  obtain ⟨idle, ⟨⟩⟩ := ite_none_right_eq_some.mp moved
  refine ⟨⟨?_, .inl idle⟩, rfl, id, [], (append_nil _).symm, by simp⟩
  simp [MixBus.keep, MixBus.tracks]

end Mixer

/-- After `stop_all` every call writes zeros, and it returns `false` if there was no layer. -/
theorem silent_after_stop_all (compress : Int → Int16) {mixer stopped after : Mixer}
    {acts : List MixerAct} (stop : mixer.step compress (.bus .stopAll) = some stopped)
    (adds : ∀ act ∈ acts, act.addsNothing = true)
    (reached : (mixerSystem compress).run stopped acts = some after) :
    ∃ later, after.calls = stopped.calls ++ later ∧ ∀ call ∈ later,
      call.buf = List.replicate call.outLen 0 ∧
        (stopped.audioMixer.layers = [] → call.hasAudio = false) :=
  ((mixerSystem compress).run_invariant_of_forall (Mixer.Silenced stopped)
    (fun before => before.step) acts adds (Mixer.silenced_stopAll stop) reached).calls

def twoSamples : List MixerAct := [.bus (.mix 2), .bus .finish]

theorem two_zeros_after_stop : ∃ stopped after,
    Mixer.step (fun _ => 0) { bus := ({} : MixBus).addTrack .playing } (.bus .stopAll) =
        some stopped ∧
      (mixerSystem fun _ => 0).run stopped twoSamples = some after ∧
      after.calls = [⟨2, [0, 0], false⟩] ∧
      ∃ later, after.calls = stopped.calls ++ later ∧ ∀ call ∈ later,
        call.buf = List.replicate call.outLen 0 ∧
          (stopped.audioMixer.layers = [] → call.hasAudio = false) :=
  ⟨_, _, rfl, rfl, rfl, silent_after_stop_all (fun _ => 0)
    (show Mixer.step _ { bus := ({} : MixBus).addTrack .playing } _ = _ from rfl)
    (show ∀ act ∈ twoSamples, act.addsNothing = true by simp [twoSamples, MixerAct.addsNothing])
    rfl⟩

/-- The layer that is left makes every call return `true`. -/
theorem layer_left_by_stop :
    ((mixerSystem fun _ => 0).run
        { audioMixer := { layers := [("", { gain := Int16.toInt })] } }
        [.bus .stopAll, .bus (.mix 2), .bus .finish]).map (·.calls) = some [⟨2, [0, 0], true⟩] :=
  rfl

end KizunaLink.Engine
