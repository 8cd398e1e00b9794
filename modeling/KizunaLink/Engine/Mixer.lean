import KizunaLink.Lib.System

/-!
# A track between its decoder and the mixer

Model of one track of `Mixer::mix` (engine/mix/mixer.rs) with its
`FlowController` (engine/flow/controller.rs) and `TrackHandle`
(engine/playback/handle.rs).  The decoder of engine/processor.rs pushes frames
into a bounded channel; when it exits, the sender of that channel is dropped
first and the receiver of the command channel after it.

The parties share the state cell and the channels only, and every access to one
of them is a step.  A sample is known by its number in the order in which the
decoder pushed it: the effects change the values of samples, not their number.
What the effects decide, whether the tape is active and whether its ramp has
just ended, is part of the act.
-/

set_option autoImplicit false

namespace KizunaLink.Engine

open KizunaLink.Lib

inductive PlaybackState where
  | playing
  | paused
  | stopped
  | stopping
  | starting
  deriving DecidableEq, Repr

inductive AudioFrame where
  | pcm (samples : List Nat)
  | opus (packet : List UInt8)
  deriving DecidableEq, Repr

def frameSize : Nat := 1920

structure FlowController where
  pendingPcm : List Nat := []
  decoderDone : Bool := false
  latestOpus : Option (List UInt8) := none
  deriving DecidableEq, Repr

/-- What a frame from the channel does to the pending samples; an empty one is the
flush marker of a seek. -/
def receivePcm (pendingPcm : List Nat) : AudioFrame → List Nat
  | .pcm samples => if samples.isEmpty then [] else pendingPcm ++ samples
  | .opus _ => pendingPcm

def FlowController.receive (flow : FlowController) (frame : AudioFrame) : FlowController :=
  match frame with
  | .pcm samples =>
    { flow with
      pendingPcm := receivePcm flow.pendingPcm frame
      decoderDone := if samples.isEmpty then false else flow.decoderDone }
  | .opus packet => { flow with latestOpus := some packet }

/-- Where the current call of `mix` stands in this track.  `loaded` is the state
the call has read. -/
inductive MixPoint where
  | idle
  | retained (outLen : Nat)
  | pulling (loaded : PlaybackState) (outLen filled : Nat)
  | closing (loaded : PlaybackState)
  | ramping (loaded : PlaybackState)
  deriving DecidableEq, Repr

/-- `pushedCount` and `flushedAt` number the samples pushed so far and before the
last flush marker; `mixed` are those that reached an output buffer. -/
structure Track where
  capacity : Nat
  cell : PlaybackState := .playing
  frames : List AudioFrame := []
  engineAlive : Bool := true
  commandsAlive : Bool := true
  inMixer : Bool := true
  flow : FlowController := {}
  pending : List Nat := []
  pendingPos : Nat := 0
  finished : Bool := false
  point : MixPoint := .idle
  pushedCount : Nat := 0
  flushedAt : Nat := 0
  mixed : List Nat := []
  deriving DecidableEq, Repr

namespace Track

variable (track : Track)

/-- `send` waits for room, and fails once the mixer has dropped the receiver. -/
def hasRoom : Bool :=
  track.engineAlive && track.inMixer && decide (track.frames.length < track.capacity)

def push (count : Nat) : Track :=
  { track with
    frames := track.frames ++ [.pcm (List.range' track.pushedCount count)]
    pushedCount := track.pushedCount + count }

def flush : Track :=
  { track with
    frames := track.frames ++ [.pcm []]
    flushedAt := track.pushedCount }

def pushOpus (packet : List UInt8) : Track :=
  { track with frames := track.frames ++ [.opus packet] }

def getState : Track :=
  if track.cell ≠ .stopped ∧ track.commandsAlive = false then { track with cell := .stopped }
  else track

def pause (tapeStop : Bool) : Track :=
  { track with cell := if tapeStop then .stopping else .paused }

def play (tapeStop : Bool) : Track :=
  { track with cell := if tapeStop then .starting else .playing }

/-- Tracks that are stopped leave the mixer at the start of a call. -/
def retain (outLen : Nat) : Track :=
  if track.cell = .stopped then { track with inMixer := false }
  else { track with point := .retained outLen }

def leftover : List Nat := track.pending.drop track.pendingPos

/-- The call reads the state and, unless the track rests, mixes the leftover. -/
def load (outLen : Nat) : Track :=
  if track.cell = .paused ∨ track.cell = .stopped then { track with point := .idle }
  else
    let avail := min outLen track.leftover.length
    let drained := decide (track.pending.length ≤ track.pendingPos + avail)
    { track with
      mixed := track.mixed ++ track.leftover.take avail
      pending := if drained then [] else track.pending
      pendingPos := if drained then 0 else track.pendingPos + avail
      point := .pulling track.cell outLen avail }

variable (loaded : PlaybackState)

/-- A frame of the pending samples goes to the output buffer, and what does not fit
becomes the leftover. -/
def popFrame (outLen filled : Nat) : Track :=
  let frame := track.flow.pendingPcm.take frameSize
  let count := min frame.length (outLen - filled)
  { track with
    flow := { track.flow with pendingPcm := track.flow.pendingPcm.drop frameSize }
    mixed := track.mixed ++ frame.take count
    pending := track.pending ++ frame.drop count
    pendingPos := if count < frame.length then 0 else track.pendingPos
    point := .pulling loaded outLen (filled + count) }

/-- One turn of the loops of `mix` and `try_pop_frame`. -/
def pull (outLen filled : Nat) : Track :=
  if outLen ≤ filled ∨ track.finished = true then { track with point := .closing loaded }
  else if track.flow.decoderDone = false ∧ track.flow.pendingPcm.length < frameSize then
    match track.frames with
    | frame :: rest => { track with frames := rest, flow := track.flow.receive frame }
    | [] =>
      if track.engineAlive then { track with point := .closing loaded }
      else
        { track with
          flow := { track.flow with decoderDone := true }
          finished := true
          point := .closing loaded }
  else if frameSize ≤ track.flow.pendingPcm.length then track.popFrame loaded outLen filled
  else { track with finished := true, point := .closing loaded }

def storeStopped (tapeActive : Bool) : Track :=
  { track with
    cell :=
      if track.finished && track.pending.isEmpty && !tapeActive then .stopped else track.cell
    point := .ramping loaded }

/-- The end of a ramp overwrites whatever the cell holds. -/
def storeRamp (rampCompleted : Bool) : Track :=
  { track with
    cell :=
      if rampCompleted then
        match loaded with
        | .stopping => .paused
        | .starting => .playing
        | .playing | .paused | .stopped => track.cell
      else track.cell
    point := .idle }

end Track

inductive TrackAct where
  | push (count : Nat)
  | flush
  | pushOpus (packet : List UInt8)
  | dropEngine
  | dropCommands
  | getState
  | pause (tapeStop : Bool)
  | play (tapeStop : Bool)
  | retain (outLen : Nat)
  | load
  | pull
  | storeStopped (tapeActive : Bool)
  | storeRamp (rampCompleted : Bool)

def Track.step (track : Track) : TrackAct → Option Track
  | .push count => if track.hasRoom ∧ 0 < count then some (track.push count) else none
  | .flush => if track.hasRoom then some track.flush else none
  | .pushOpus packet => if track.hasRoom then some (track.pushOpus packet) else none
  | .dropEngine => some { track with engineAlive := false }
  | .dropCommands =>
    if track.engineAlive then none else some { track with commandsAlive := false }
  | .getState => some track.getState
  | .pause tapeStop => some (track.pause tapeStop)
  | .play tapeStop => some (track.play tapeStop)
  | .retain outLen =>
    if track.inMixer ∧ track.point = .idle then some (track.retain outLen) else none
  | .load =>
    match track.point with
    | .retained outLen => some (track.load outLen)
    | .idle | .pulling _ _ _ | .closing _ | .ramping _ => none
  | .pull =>
    match track.point with
    | .pulling loaded outLen filled => some (track.pull loaded outLen filled)
    | .idle | .retained _ | .closing _ | .ramping _ => none
  | .storeStopped tapeActive =>
    match track.point with
    | .closing loaded => some (track.storeStopped loaded tapeActive)
    | .idle | .retained _ | .pulling _ _ _ | .ramping _ => none
  | .storeRamp rampCompleted =>
    match track.point with
    | .ramping loaded => some (track.storeRamp loaded rampCompleted)
    | .idle | .retained _ | .pulling _ _ _ | .closing _ => none

def trackSystem : System Track TrackAct := ⟨Track.step⟩

/-- A track as `add_track` puts it into the mixer. -/
def Track.new (capacity : Nat) : Track := { capacity }

end KizunaLink.Engine
