import KizunaLink.Codec.Track
import KizunaLink.Engine.Mixer
import KizunaLink.Player.Playback
import KizunaLink.Player.VoiceUpdate

/-!
# A player and what it holds

Model of `PlayerContext` (discord/player/context.rs) with its `TrackHandle`
(engine/playback/handle.rs), and of the messages its operations send.

A task that keeps the write lock of a player works on it alone, so the
operations are functions on the player.  A handle, the mixer track made with it
and the monitor that watches it go by one number.  Volumes are in percent.
Lyrics and sponsor segments are left out: no operation here reads them.
-/

set_option autoImplicit false

namespace KizunaLink.Player

open KizunaLink.Engine (PlaybackState)

/-- `disconnected` says that the decoder has dropped the command channel; `seeks` are
the commands sent. -/
structure TrackHandle where
  number : Nat
  state : PlaybackState := .playing
  disconnected : Bool := false
  volume : Int := 100
  position : Nat := 0
  seeks : List Nat := []
  deriving DecidableEq, Repr

namespace TrackHandle

variable (handle : TrackHandle)

def getState : PlaybackState :=
  if handle.state ≠ .stopped ∧ handle.disconnected then .stopped else handle.state

def setVolume (volume : Int) : TrackHandle := { handle with volume }

def pause (tapeStop : Bool) : TrackHandle :=
  { handle with state := if tapeStop then .stopping else .paused }

def play (tapeStop : Bool) : TrackHandle :=
  { handle with state := if tapeStop then .starting else .playing }

/-- The position is kept in samples of 48 kHz; the product is one of `u64`. -/
def seek (positionMs : Nat) : TrackHandle :=
  { handle with
    position := positionMs * 48000 % 2 ^ 64 / 1000
    seeks := handle.seeks ++ [positionMs] }

def getPosition : Nat := handle.position * 1000 % 2 ^ 64 / 48000

end TrackHandle

structure PlayerState where
  time : Nat
  position : Nat
  connected : Bool
  ping : Int
  deriving DecidableEq, Repr

inductive Severity where
  | common
  | suspicious
  | fault
  deriving DecidableEq, Repr

structure TrackException where
  message : Option String
  severity : Severity
  cause : String
  causeStackTrace : Option String
  deriving DecidableEq, Repr

inductive OutgoingMessage where
  | playerUpdate (guildId : String) (state : PlayerState)
  | trackStart (guildId : String) (track : Codec.Track)
  | trackException (guildId : String) (track : Codec.Track) (exception : TrackException)
  | trackEnd (guildId : String) (track : Codec.Track) (reason : TrackEndReason)

/-- What `start_playback` gives to the monitor it spawns. -/
structure MonitorCtx where
  guildId : String
  handle : Nat
  track : Codec.Track
  stopSignal : Nat
  stuckThresholdMs : Nat
  updateEveryN : Nat
  sponsorblockEnabled : Bool
  endTimeMs : Option Nat

inductive FilterName where
  | volume
  | equalizer
  | karaoke
  | timescale
  | tremolo
  | vibrato
  | distortion
  | rotation
  | channelMix
  | lowPass
  | echo
  | highPass
  | normalization
  | chorus
  | compressor
  | flanger
  | phaser
  | phonograph
  | reverb
  | spatial
  | pluginFilters
  deriving DecidableEq, Repr

/-- The configuration of a filter enters as the JSON value it was read from. -/
abbrev Filters := FilterName → Option Codec.Value

def Filters.default : Filters := fun _ => none

/-- A chain that was built anew has empty buffers, so it is not the chain before even
with the same filters: `build` counts. -/
structure FilterChain where
  config : Filters
  build : Nat

/-! ## The player -/

structure PlayerConfig where
  tapeStop : Bool
  stuckThresholdMs : Nat
  sponsorblockEnabled : Bool
  deriving DecidableEq, Repr

/-- `tracks` are the tracks in the mixer; `layersEnabled` is the flag of the sound
effects that `stop_all` clears. -/
structure MixerState where
  tracks : List Nat := []
  layersEnabled : Bool := true
  deriving DecidableEq, Repr

structure StopSignal where
  number : Nat
  raised : Bool := false
  deriving DecidableEq, Repr

structure GatewayTaskCtx where
  userId : Nat
  voice : VoiceConnectionState
  deriving DecidableEq, Repr

structure PlayerContext where
  guildId : String
  config : PlayerConfig
  volume : Int := 100
  paused : Bool := false
  track : Option String := none
  trackInfo : Option Codec.Track := none
  trackHandle : Option TrackHandle := none
  position : Nat := 0
  voice : VoiceConnectionState := {}
  mixer : MixerState := {}
  filters : Filters := Filters.default
  filterChain : FilterChain := ⟨Filters.default, 0⟩
  endTime : Option Nat := none
  stopSignal : StopSignal := { number := 0 }
  ping : Int := -1
  voiceReady : Bool := false
  gatewayTask : Option GatewayTaskCtx := none
  trackTask : Option MonitorCtx := none
  userData : Codec.Value := .object []
  framesSent : Nat := 0
  framesNulled : Nat := 0

namespace PlayerContext

variable (player : PlayerContext)

def new (guildId : String) (config : PlayerConfig) : PlayerContext := { guildId, config }

def clampVolume (volume : Int) : Int := max 0 (min volume 1000)

def setVolume (volume : Int) : PlayerContext :=
  { player with
    volume := clampVolume volume
    trackHandle := player.trackHandle.map fun handle => handle.setVolume (clampVolume volume) }

def setPaused (paused : Bool) : PlayerContext :=
  if player.paused = paused then player
  else
    { player with
      paused
      trackHandle := player.trackHandle.map fun handle =>
        if paused then handle.pause player.config.tapeStop
        else handle.play player.config.tapeStop }

def seek (position : Nat) : PlayerContext :=
  { player with
    position
    trackHandle := player.trackHandle.map fun handle => handle.seek position }

def stopTrack : PlayerContext :=
  { player with
    track := none
    trackInfo := none
    position := 0
    endTime := none
    trackHandle := none
    trackTask := none
    stopSignal := { player.stopSignal with raised := true } }

def reportedPosition : Nat :=
  (player.trackHandle.map TrackHandle.getPosition).getD player.position

def responseTrack : Option Codec.Track := player.trackInfo

end PlayerContext

/-- What an operation can do to the session: send, and add to the totals. -/
structure SessionLog where
  sent : List OutgoingMessage := []
  totalSentHistorical : Nat := 0
  totalNulledHistorical : Nat := 0

/-- A player with the session it belongs to.  `fresh` is the number of the next handle
and stop signal. -/
structure Stage where
  player : PlayerContext
  session : SessionLog := {}
  fresh : Nat

def Stage.send (stage : Stage) (message : OutgoingMessage) : Stage :=
  { stage with session := { stage.session with sent := stage.session.sent ++ [message] } }

end KizunaLink.Player
