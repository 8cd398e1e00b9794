import KizunaLink.Player.StartPlayback
import Mathlib.Logic.Function.Basic

/-!
# PATCH of a player

Model of `update_player` (api/rest/routes/player/update.rs) with the functions
it calls.  A request works through its fields in order, and each part writes to
the player before the next one is checked.  `Untouched` says that the players of
the session are the same after a request as before it.
-/

set_option autoImplicit false

namespace KizunaLink.Player

open KizunaLink.Codec (SerdeJson Track TrackInfo Value)

inductive TrackEncoded where
  | clear
  | set (encoded : String)
  deriving DecidableEq, Repr

inductive EndTime where
  | clear
  | set (ms : Nat)
  deriving DecidableEq, Repr

structure PlayerUpdateTrack where
  encoded : Option TrackEncoded := none
  identifier : Option String := none
  userData : Option Value := none

structure PlayerUpdate where
  encodedTrack : Option TrackEncoded := none
  identifier : Option String := none
  track : Option PlayerUpdateTrack := none
  position : Option Nat := none
  endTime : Option EndTime := none
  volume : Option Int := none
  paused : Option Bool := none
  filters : Option Filters := none
  voice : Option VoiceConnectionState := none

def PlayerUpdate.loadingNewTrack (body : PlayerUpdate) : Bool :=
  body.track.isSome || body.encodedTrack.isSome || body.identifier.isSome

structure RestError where
  status : Nat
  error : String
  message : String
  path : String
  deriving DecidableEq, Repr

def notFound (message path : String) : RestError := ⟨404, "Not Found", message, path⟩

def badRequest (message path : String) : RestError := ⟨400, "Bad Request", message, path⟩

inductive Response where
  | ok
  | rejected (error : RestError)
  deriving DecidableEq, Repr

def Response.status : Response → Nat
  | .ok => 200
  | .rejected error => error.status

def playerPath (sessionId guildId : String) : String :=
  "/v4/sessions/" ++ sessionId ++ "/players/" ++ guildId

/-- The filters that `validate_filters` looks at, in its order.  Neither the timescale
filter nor the plugin filters are among them. -/
def registeredFilters : List (FilterName × String) :=
  [(.volume, "volume"), (.equalizer, "equalizer"), (.karaoke, "karaoke"), (.tremolo, "tremolo"),
    (.vibrato, "vibrato"), (.rotation, "rotation"), (.distortion, "distortion"),
    (.channelMix, "channelMix"), (.lowPass, "lowPass"), (.echo, "echo"), (.highPass, "highPass"),
    (.normalization, "normalization"), (.chorus, "chorus"), (.compressor, "compressor"),
    (.flanger, "flanger"), (.phaser, "phaser"), (.phonograph, "phonograph"), (.reverb, "reverb"),
    (.spatial, "spatial")]

def validateFilters (filters : Filters) (enabled : FilterName → Bool) : List String :=
  registeredFilters.filterMap fun entry =>
    if (filters entry.1).isSome && !enabled entry.1 then some entry.2 else none

/-! ## The parts of a request -/

namespace PlayerContext

variable (player : PlayerContext) (body : PlayerUpdate)

def applyPosition : PlayerContext :=
  match body.position with
  | some position => if body.loadingNewTrack then player else player.seek position
  | none => player

def applyPaused : PlayerContext :=
  match body.paused with
  | some paused => if body.loadingNewTrack then player else player.setPaused paused
  | none => player

def applyVolume : PlayerContext :=
  match body.volume with
  | some volume => player.setVolume volume
  | none => player

def state (now position : Nat) : PlayerState where
  time := now
  position := position
  connected := player.voiceReady
  ping := player.ping

end PlayerContext

namespace Stage

variable (stage : Stage) (body : PlayerUpdate) (now : Nat)

/-- A seek is announced if there is a track. -/
def handlePlayerState : Stage :=
  let stage :=
    match body.position with
    | some position =>
      if !body.loadingNewTrack && stage.player.track.isSome then
        stage.send (.playerUpdate stage.player.guildId (stage.player.state now position))
      else stage
    | none => stage
  { stage with
    player := ((stage.player.applyPosition body).applyPaused body).applyVolume body }

def handleFilters (filters : Filters) (enabled : FilterName → Bool) (path : String) :
    Except RestError Stage :=
  let invalid := validateFilters filters enabled
  if invalid ≠ [] then
    .error (badRequest
      ("Following filters are disabled in the config: " ++ ", ".intercalate invalid) path)
  else
    let player :=
      { stage.player with
        filters
        filterChain := ⟨filters, stage.player.filterChain.build + 1⟩ }
    .ok ({ stage with player }.send
      (.playerUpdate player.guildId (player.state now player.reportedPosition)))

/-- A null channel leaves voice.  Without a user id the credentials are stored and no
gateway is started. -/
def handleVoice (voice : VoiceConnectionState) (userId : Option Nat) : Except RestError Stage :=
  if voice.channelId = none then
    .ok { stage with
      player := { stage.player with gatewayTask := none, voiceReady := false, voice := {} } }
  else if voice.token = "" ∨ voice.endpoint = "" ∨ voice.sessionId = "" then
    .error (badRequest "Partial Lavalink voice state" "/v4/voice_state")
  else
    .ok { stage with
      player :=
        match userId with
        | some userId =>
          { stage.player with
            voice, gatewayTask := some ⟨userId, voice⟩, voiceReady := false }
        | none => { stage.player with voice } }

/-- `stop_player`: the monitor is left to see the signal, and the signal is raised only
if there is a handle. -/
def stopPlayer : Stage :=
  let player := stage.player
  let stopped : Stage :=
    { stage with
      player := { player with
        stopSignal :=
          if player.trackHandle.isSome then { player.stopSignal with raised := true }
          else player.stopSignal
        mixer := { tracks := [], layersEnabled := false }
        trackHandle := none
        track := none
        trackInfo := none } }
  match player.track with
  | none => stopped
  | some encoded =>
    let track := player.trackInfo.getD
      { encoded
        info :=
          { identifier := "", isSeekable := false, author := "", length := 0
            isStream := false, position := 0, title := "", uri := none, artworkUrl := none
            isrc := none, sourceName := "" }
        pluginInfo := .object []
        userData := .object [] }
    stopped.send (.trackEnd player.guildId track .stopped)

end Stage

def resolveTrackUpdate (body : PlayerUpdate) : Option PlayerUpdateTrack :=
  match body.track, body.encodedTrack with
  | some track, _ => some track
  | none, some encoded => some { encoded := some encoded, identifier := body.identifier }
  | none, none => body.identifier.map fun identifier => { identifier := some identifier }

/-- What `update_player` reads besides the player. -/
structure UpdateEnv where
  json : SerdeJson
  enabled : FilterName → Bool
  player : PlayerConfig
  updateIntervalMs : Nat
  noReplace : Bool
  resolution : Resolution
  now : Nat

namespace Stage

variable (stage : Stage) (env : UpdateEnv) (body : PlayerUpdate)

def start (track : String) (userData : Option Value) (startTimeMs : Option Nat) : Stage :=
  if env.noReplace && stage.player.track.isSome then stage
  else
    let endTime :=
      match body.endTime with
      | some (.set ms) => some ms
      | some .clear | none => none
    stage.startPlayback env.json
      { track, updateIntervalMs := env.updateIntervalMs, userData, endTime, startTimeMs }
      env.resolution

def applyTrackUpdate (update : PlayerUpdateTrack) (startTimeMs : Option Nat) : Stage :=
  match update.encoded, update.identifier, update.userData with
  | some .clear, _, _ => stage.stopPlayer
  | some (.set encoded), _, userData => stage.start env body encoded userData startTimeMs
  | none, some identifier, userData => stage.start env body identifier userData startTimeMs
  | none, none, some userData => { stage with player := { stage.player with userData } }
  | none, none, none => stage

/-- The track, or the end time alone. -/
def handleTrack : Stage :=
  match resolveTrackUpdate body with
  | some update =>
    let stage :=
      match body.paused with
      | some paused => { stage with player := stage.player.setPaused paused }
      | none => stage
    stage.applyTrackUpdate env body update
      (if body.loadingNewTrack then body.position else none)
  | none =>
    match body.endTime with
    | some .clear => { stage with player := { stage.player with endTime := none } }
    | some (.set ms) => { stage with player := { stage.player with endTime := some ms } }
    | none => stage

def applyFilters (path : String) : Except RestError Stage :=
  match body.filters with
  | some filters => stage.handleFilters env.now filters env.enabled path
  | none => .ok stage

def applyVoice (userId : Option Nat) : Except RestError Stage :=
  match body.voice with
  | some voice => stage.handleVoice voice userId
  | none => .ok stage

/-- A refusal returns with what has been written so far. -/
def update (userId : Option Nat) (path : String) : Response × Stage :=
  let stage := stage.handlePlayerState body env.now
  match stage.applyFilters env body path with
  | .error error => (.rejected error, stage)
  | .ok stage =>
    match stage.applyVoice body userId with
    | .error error => (.rejected error, stage)
    | .ok stage => (.ok, stage.handleTrack env body)

end Stage

structure ServerSession where
  userId : Option Nat
  players : String → Option PlayerContext
  log : SessionLog
  fresh : Nat

abbrev Sessions := String → Option ServerSession

/-- The player is made, and so is in the map, before anything is checked. -/
def updatePlayer (sessions : Sessions) (env : UpdateEnv) (sessionId guildId : String)
    (body : PlayerUpdate) : Response × Sessions :=
  match sessions sessionId with
  | none =>
    (.rejected (notFound "Session not found" (playerPath sessionId guildId)), sessions)
  | some session =>
    let player := (session.players guildId).getD (PlayerContext.new guildId env.player)
    let (response, stage) := Stage.update ⟨player, session.log, session.fresh⟩ env body
      session.userId (playerPath sessionId guildId)
    (response, Function.update sessions sessionId (some
      { session with
        players := Function.update session.players guildId (some stage.player)
        log := stage.session
        fresh := stage.fresh }))

end KizunaLink.Player
