import KizunaLink.Player.Context

/-!
# Starting a track

Model of `start_playback` and `stop_current_track`
(discord/player/manager/start.rs) and of `send_load_failed` (manager/error.rs).
The answer of `resolve_track` within its time limit is an input.

Whether the client hears anything of the call depends on the metadata: the
events carry the decoded track, and without one the function returns early,
after it has already changed the player.
-/

set_option autoImplicit false

namespace KizunaLink.Player

open List

open KizunaLink.Codec (SerdeJson Track TrackInfo Value decodeTrack)
open KizunaLink.Engine (PlaybackState)

structure PlaybackStartConfig where
  track : String
  updateIntervalMs : Nat
  userData : Option Value := none
  endTime : Option Nat := none
  startTimeMs : Option Nat := none

inductive Resolution where
  | found
  | failed (error : String)
  | timedOut
  deriving DecidableEq, Repr

def decode (json : SerdeJson) (encoded : String) : Option Track :=
  (decodeTrack json encoded).toOption

/-- What stands in for the metadata of a string that does not decode. -/
def unknownInfo (track : String) : TrackInfo where
  title := "Unknown"
  author := "Unknown"
  length := 0
  identifier := track
  isStream := false
  uri := some track
  artworkUrl := none
  isrc := none
  sourceName := "unknown"
  isSeekable := true
  position := 0

namespace Stage

variable (stage : Stage)

def stopCurrentTrack : Stage :=
  let player := stage.player
  let stage :=
    match player.trackHandle, player.responseTrack with
    | some handle, some track =>
      if handle.getState ≠ PlaybackState.stopped then
        stage.send (.trackEnd player.guildId track .replaced)
      else stage
    | _, _ => stage
  { stage with
    player := { player with
      stopSignal := { player.stopSignal with raised := true }
      trackTask := none
      trackHandle := none
      mixer :=
        match player.trackHandle with
        | some handle => { player.mixer with tracks := player.mixer.tracks.erase handle.number }
        | none => player.mixer
      track := none
      trackInfo := none
      position := 0
      endTime := none
      framesSent := 0
      framesNulled := 0 }
    session := { stage.session with
      totalSentHistorical := stage.session.totalSentHistorical + player.framesSent
      totalNulledHistorical := stage.session.totalNulledHistorical + player.framesNulled } }

def loadMetadata (json : SerdeJson) (config : PlaybackStartConfig) : Stage :=
  { stage with
    player := { stage.player with
      trackInfo := decode json config.track
      track := some config.track
      position := 0
      endTime := config.endTime
      userData := config.userData.getD (.object [])
      stopSignal := { number := stage.fresh } } }

def sendLoadFailed (message : String) : Stage :=
  match stage.player.responseTrack with
  | none => stage
  | some track =>
    let exception : TrackException :=
      { message := some message, severity := .common, cause := message
        causeStackTrace := some message }
    let stage := stage.send (.trackException stage.player.guildId track exception)
    let stage := stage.send (.trackEnd stage.player.guildId track .loadFailed)
    { stage with player := stage.player.stopTrack }

variable (config : PlaybackStartConfig)

/-- The new handle with the player's volume, the start position and the pause. -/
def newHandle : TrackHandle :=
  let handle := { number := stage.fresh : TrackHandle }.setVolume stage.player.volume
  let handle :=
    match config.startTimeMs with
    | some start => if 0 < start then handle.seek start else handle
    | none => handle
  if stage.player.paused then handle.pause stage.player.config.tapeStop else handle

/-- One update every so many ticks of 20 ms, rounded up and cast to `u64`. -/
def updateEveryN (updateIntervalMs : Nat) : Nat := (max updateIntervalMs 20 + 19) / 20 % 2 ^ 64

def monitorCtx (track : Track) : MonitorCtx where
  guildId := stage.player.guildId
  handle := stage.fresh
  track := track
  stopSignal := stage.player.stopSignal.number
  stuckThresholdMs := stage.player.config.stuckThresholdMs
  updateEveryN := updateEveryN config.updateIntervalMs
  sponsorblockEnabled := stage.player.config.sponsorblockEnabled
  endTimeMs := stage.player.endTime

/-- The mixer gets the track and the player the handle; the event and the monitor need
the decoded track. -/
def launch : Stage :=
  let armed : Stage :=
    { stage with
      player := { stage.player with
        mixer := { stage.player.mixer with tracks := stage.player.mixer.tracks ++ [stage.fresh] }
        trackHandle := some (stage.newHandle config) } }
  match armed.player.responseTrack with
  | none => armed
  | some track =>
    let told := armed.send (.trackStart stage.player.guildId track)
    { told with
      player := { told.player with trackTask := some (stage.monitorCtx config track) } }

def identifierOf : String :=
  let info := (stage.player.trackInfo.map Track.info).getD (unknownInfo config.track)
  info.uri.getD info.identifier

def startPlayback (json : SerdeJson) (config : PlaybackStartConfig) (resolution : Resolution) :
    Stage :=
  let loaded := stage.stopCurrentTrack.loadMetadata json config
  let done :=
    match resolution with
    | .found => loaded.launch config
    | .failed error => loaded.sendLoadFailed error
    | .timedOut =>
      loaded.sendLoadFailed ("Track resolution timed out: " ++ loaded.identifierOf config)
  { done with fresh := stage.fresh + 1 }

end Stage

/-! ## The two outcomes -/

def OutgoingMessage.isTrackStart : OutgoingMessage → Bool
  | .trackStart _ _ => true
  | .playerUpdate _ _ | .trackException _ _ _ | .trackEnd _ _ _ => false

def SentSince (before after : Stage) (sent : List OutgoingMessage) : Prop :=
  after.session.sent = before.session.sent ++ sent

/-- The new track plays: it is in the mixer, the player has its handle, one `TrackStart`
was sent and the monitor of the track is installed. -/
def Armed (before after : Stage) : Prop :=
  before.fresh ∈ after.player.mixer.tracks ∧
    (∃ handle, after.player.trackHandle = some handle ∧ handle.number = before.fresh) ∧
    (∃ sent, SentSince before after sent ∧ sent.countP OutgoingMessage.isTrackStart = 1) ∧
    ∃ monitor, after.player.trackTask = some monitor ∧ monitor.handle = before.fresh

/-- Nothing is left of the new track, and the client was told. -/
def LoadFailed (before after : Stage) : Prop :=
  (after.player.track = none ∧ after.player.trackInfo = none ∧ after.player.trackHandle = none) ∧
    (∀ track ∈ after.player.mixer.tracks, track ∈ before.player.mixer.tracks) ∧
    after.player.trackTask = none ∧
    ∃ sent guildId track, SentSince before after sent ∧
      .trackEnd guildId track .loadFailed ∈ sent

/-- What `stop_current_track` leaves, and `start_playback` before the resolution. -/
structure Cleared (before after : Stage) : Prop where
  handle : after.player.trackHandle = none
  task : after.player.trackTask = none
  tracks : ∀ track ∈ after.player.mixer.tracks, track ∈ before.player.mixer.tracks
  fresh : after.fresh = before.fresh
  sent : ∃ sent, SentSince before after sent ∧ sent.countP OutgoingMessage.isTrackStart = 0

namespace Stage

variable {stage : Stage} (json : SerdeJson) (config : PlaybackStartConfig)

theorem stopCurrentTrack_cleared (stage : Stage) : Cleared stage stage.stopCurrentTrack := by
  refine ⟨rfl, rfl, ?_, ?_, ?_⟩
  · intro track member
    simp only [stopCurrentTrack] at member
    split at member
    · exact mem_of_mem_erase member
    · exact member
  · simp only [stopCurrentTrack]
    split
    · split
      · rfl
      · rfl
    · rfl
  · simp only [SentSince, stopCurrentTrack]
    split
    · split
      · exact ⟨_, rfl, rfl⟩
      · exact ⟨[], (append_nil _).symm, rfl⟩
    · exact ⟨[], (append_nil _).symm, rfl⟩

theorem loadMetadata_cleared (stage : Stage) :
    Cleared stage (stage.stopCurrentTrack.loadMetadata json config) :=
  have cleared := stage.stopCurrentTrack_cleared
  { cleared with }

section

variable {before : Stage} {track : Track} (cleared : Cleared before stage)
  (decoded : stage.player.trackInfo = some track)
include cleared decoded

theorem launch_armed : Armed before (stage.launch config) := by
  obtain ⟨sent, since, none⟩ := cleared.sent
  have number : (stage.newHandle config).number = stage.fresh := by
    simp only [newHandle, TrackHandle.pause, TrackHandle.setVolume]
    split
    · split
      · split <;> rfl
      · rfl
    · split
      · split <;> rfl
      · rfl
  simp only [launch, PlayerContext.responseTrack, decoded]
  refine ⟨?_, ⟨_, rfl, number.trans cleared.fresh⟩,
    ⟨sent ++ [.trackStart stage.player.guildId track], ?_, ?_⟩, _, rfl, cleared.fresh⟩
  · rw [← cleared.fresh]
    exact mem_append_right _ (mem_singleton.mpr rfl)
  · exact (congrArg (· ++ [_]) since).trans (append_assoc _ _ _)
  · rw [countP_append, none]
    rfl

theorem sendLoadFailed_failed (message : String) :
    LoadFailed before (stage.sendLoadFailed message) := by
  obtain ⟨sent, since, _⟩ := cleared.sent
  simp only [sendLoadFailed, PlayerContext.responseTrack, decoded]
  refine ⟨⟨rfl, rfl, rfl⟩, cleared.tracks, rfl, sent ++
    [.trackException stage.player.guildId track ⟨some message, .common, message, some message⟩,
      .trackEnd stage.player.guildId track .loadFailed], stage.player.guildId, track, ?_, ?_⟩
  · refine (congrArg (fun before => before ++ [_] ++ [_]) since).trans ?_
    rw [append_assoc, append_assoc]
    rfl
  · exact mem_append_right _ (mem_cons_of_mem _ (mem_singleton.mpr rfl))

end

theorem startPlayback_undecoded (stage : Stage) (resolution : Resolution)
    (undecoded : decode json config.track = none) :
    (stage.startPlayback json config resolution).player.track = some config.track ∧
      (stage.startPlayback json config resolution).player.trackTask = none := by
  have missing : (stage.stopCurrentTrack.loadMetadata json config).player.responseTrack =
      none := undecoded
  cases resolution with
  | found =>
    have missing : ∀ mixer trackHandle, PlayerContext.responseTrack
        { (stage.stopCurrentTrack.loadMetadata json config).player with mixer, trackHandle } =
        none := fun _ _ => undecoded
    simp only [startPlayback, launch, missing]
    exact ⟨rfl, rfl⟩
  | failed _ | timedOut =>
    simp only [startPlayback, sendLoadFailed, missing]
    exact ⟨rfl, rfl⟩

theorem startPlayback_neither (stage : Stage) (resolution : Resolution)
    (undecoded : decode json config.track = none) :
    ¬ (Armed stage (stage.startPlayback json config resolution) ∨
      LoadFailed stage (stage.startPlayback json config resolution)) := by
  obtain ⟨kept, unwatched⟩ := stage.startPlayback_undecoded json config resolution undecoded
  rintro (armed | failed)
  · obtain ⟨_, _, _, monitor, watched, _⟩ := armed
    rw [unwatched] at watched
    cases watched
  · rw [failed.1.1] at kept
    cases kept

end Stage

/-- The outcome is one of the two exactly when the track string decodes. -/
theorem start_playback_consistent_iff (json : SerdeJson) (stage : Stage)
    (config : PlaybackStartConfig) (resolution : Resolution) :
    (Armed stage (stage.startPlayback json config resolution) ∨
      LoadFailed stage (stage.startPlayback json config resolution)) ↔
      (decode json config.track).isSome := by
  constructor
  · intro outcome
    cases decoded : decode json config.track with
    | some track => rfl
    | none => exact absurd outcome (stage.startPlayback_neither json config resolution decoded)
  · intro decodes
    obtain ⟨track, decoded⟩ := Option.isSome_iff_exists.mp decodes
    have cleared := stage.loadMetadata_cleared json config
    cases resolution with
    | found => exact .inl (Stage.launch_armed config cleared decoded)
    | failed error => exact .inr (Stage.sendLoadFailed_failed cleared decoded error)
    | timedOut => exact .inr (Stage.sendLoadFailed_failed cleared decoded _)

def plainJson : SerdeJson := ⟨fun _ => "null", fun _ => none⟩

def newStage : Stage where
  player := .new "1" { tapeStop := false, stuckThresholdMs := 10000, sponsorblockEnabled := false }
  fresh := 0

def shortToken : String := "QAAAIQMAAWEAAWIAAAAAAAAD6AABYwAAAAAAAWQAAAAAAAAAAA=="

theorem token_armed_or_failed :
    (decode plainJson shortToken).isSome ∧ ∀ resolution,
      Armed newStage (newStage.startPlayback plainJson ⟨shortToken, 5000, none, none, none⟩
        resolution) ∨
      LoadFailed newStage (newStage.startPlayback plainJson ⟨shortToken, 5000, none, none, none⟩
        resolution) :=
  have decodes : (decode plainJson shortToken).isSome := by decide +kernel
  ⟨decodes, fun resolution => (start_playback_consistent_iff plainJson newStage
    ⟨shortToken, 5000, none, none, none⟩ resolution).mpr decodes⟩

def rawIdentifier : String := "https://youtu.be/dQw4w9WgXcQ"

theorem raw_identifier_neither :
    ¬ ∀ (stage : Stage) (config : PlaybackStartConfig) (resolution : Resolution),
      Armed stage (stage.startPlayback plainJson config resolution) ∨
        LoadFailed stage (stage.startPlayback plainJson config resolution) := by
  intro claim
  have undecoded : decode plainJson rawIdentifier = none :=
    Option.not_isSome_iff_eq_none.mp (by decide +kernel)
  exact newStage.startPlayback_neither plainJson ⟨rawIdentifier, 5000, none, none, none⟩ .found
    undecoded (claim newStage ⟨rawIdentifier, 5000, none, none, none⟩ .found)

end KizunaLink.Player
