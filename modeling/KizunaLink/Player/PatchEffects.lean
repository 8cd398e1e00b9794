import KizunaLink.Player.AllOrNothing

/-!
# What a PATCH is checked for and what a user-data track changes

`validate_filters` against `FiltersConfig` and `FilterChain::from_config`
(engine/filters/mod.rs), and `update_player` on a track object with neither an
encoded track nor an identifier.
-/

set_option autoImplicit false

namespace KizunaLink.Player

open KizunaLink.Codec (Value)
open PlayerContext Option

/-! ## Filter gating -/

/-- The names with a field in `FiltersConfig`. -/
def FilterName.configured (name : FilterName) : Bool := name ≠ .pluginFilters

/-- The filters of a chain, in the order `from_config` builds them; the timescale filter
has a place of its own. -/
def chainFilters : List FilterName :=
  [.volume, .equalizer, .karaoke, .tremolo, .vibrato, .rotation, .distortion, .channelMix,
    .lowPass, .echo, .highPass, .normalization, .chorus, .compressor, .flanger, .phaser,
    .phonograph, .reverb, .spatial]

structure ActiveFilters where
  filters : List FilterName
  timescale : Bool
  deriving DecidableEq, Repr

/-- `FilterChain::from_config`; `isEnabled name value` is the answer of `is_enabled` on
the filter made from the value. -/
def fromConfig (isEnabled : FilterName → Value → Bool) (config : Filters) : ActiveFilters where
  filters := chainFilters.filter fun name => (config name).any (isEnabled name)
  timescale := (config .timescale).any (isEnabled .timescale)

def ActiveFilters.Activates (chain : ActiveFilters) (name : FilterName) : Prop :=
  name ∈ chain.filters ∨ name = .timescale ∧ chain.timescale

def Permitted (filters : Filters) (enabled : FilterName → Bool) : Prop :=
  ∀ name : FilterName, name.configured → (filters name).isSome → enabled name

section Gating

variable (filters : Filters) (enabled : FilterName → Bool) (isEnabled : FilterName → Value → Bool)

theorem registered_of_configured (name : FilterName) (configured : name.configured)
    (other : name ≠ .timescale) : ∃ text, (name, text) ∈ registeredFilters := by
  cases name with
  | timescale => exact absurd rfl other
  | pluginFilters => exact absurd configured (by decide)
  | _ => simp [registeredFilters]

theorem registered_ne_timescale :
    ∀ entry ∈ registeredFilters, entry.1.configured ∧ entry.1 ≠ .timescale := by decide

theorem chainFilters_configured : ∀ name ∈ chainFilters, name.configured := by decide

/-- Everything but the timescale filter is checked. -/
theorem validateFilters_eq_nil_iff :
    validateFilters filters enabled = [] ↔
      ∀ name : FilterName, name.configured → name ≠ .timescale →
        (filters name).isSome → enabled name := by
  rw [validateFilters, List.filterMap_eq_nil_iff]
  constructor
  · intro checked name configured other given
    obtain ⟨text, member⟩ := registered_of_configured name configured other
    have passed := checked (name, text) member
    simpa [given] using passed
  · intro permitted entry member
    obtain ⟨configured, other⟩ := registered_ne_timescale entry member
    have allowed := permitted entry.1 configured other
    rw [if_neg]
    simpa using allowed

theorem activates_given {name : FilterName}
    (active : (fromConfig isEnabled filters).Activates name) :
    name.configured ∧ (filters name).isSome := by
  rcases active with member | ⟨rfl, active⟩
  · obtain ⟨member, active⟩ := List.mem_filter.mp member
    exact ⟨chainFilters_configured name member, isSome_of_any active⟩
  · exact ⟨by decide, isSome_of_any active⟩

/-- The gate is complete unless the timescale filter is the only one it should stop. -/
theorem filter_gating_complete_iff :
    ((validateFilters filters enabled = [] ↔ Permitted filters enabled) ∧
      (validateFilters filters enabled = [] →
        ∀ name, (fromConfig isEnabled filters).Activates name → enabled name)) ↔
      ((filters .timescale).isSome → enabled .timescale) ∨
        ∃ name : FilterName, name.configured ∧ name ≠ .timescale ∧ (filters name).isSome ∧
          ¬ enabled name := by
  rw [validateFilters_eq_nil_iff]
  constructor
  · rintro ⟨complete, -⟩
    by_contra missed
    simp only [not_or, not_exists, not_and, not_not] at missed
    exact missed.1 (complete.mp missed.2 .timescale (by decide))
  · intro covered
    have permitted : (∀ name : FilterName, name.configured → name ≠ .timescale →
        (filters name).isSome → enabled name) → Permitted filters enabled := by
      intro checked name configured given
      by_cases same : name = .timescale
      · subst same
        rcases covered with allowed | ⟨other, configured, ne, given, refused⟩
        · exact allowed given
        · exact absurd (checked other configured ne given) refused
      · exact checked name configured same given
    refine ⟨⟨permitted, fun all name configured _ => all name configured⟩, ?_⟩
    intro checked name active
    obtain ⟨configured, given⟩ := activates_given filters isEnabled active
    exact permitted checked name configured given

end Gating

def onlyFilter (name : FilterName) : Filters :=
  fun other => if other = name then some (.object []) else none

/-- A configuration without the timescale filter does not keep it out. -/
theorem timescale_not_gated :
    validateFilters (onlyFilter .timescale) (fun name => name ≠ .timescale) = [] ∧
      ¬ Permitted (onlyFilter .timescale) (fun name => name ≠ .timescale) ∧
      (fromConfig (fun _ _ => true) (onlyFilter .timescale)).Activates .timescale := by
  refine ⟨by decide, fun permitted => ?_, .inr ⟨rfl, by decide⟩⟩
  exact absurd (permitted .timescale (by decide) (by decide)) (by decide)

/-! ## A track object with user data alone -/

structure UserDataOnly (body : PlayerUpdate) (track : PlayerUpdateTrack) : Prop where
  given : body.track = some track
  encoded : track.encoded = none
  identifier : track.identifier = none

def PlayerUpdate.withoutTrack (body : PlayerUpdate) : PlayerUpdate := { body with track := none }

/-- Where a handle stands and the seeks it was sent. -/
def TrackHandle.sought (handle : TrackHandle) : Nat × List Nat := (handle.position, handle.seeks)

/-- What a request sets besides the track and its user data. -/
structure PlayerEffect where
  position : Nat
  sought : Option (Nat × List Nat)
  endTime : Option Nat
  paused : Bool
  volume : Int
  filters : Filters
  voice : VoiceConnectionState

def PlayerContext.effect (player : PlayerContext) : PlayerEffect where
  position := player.position
  sought := player.trackHandle.map TrackHandle.sought
  endTime := player.endTime
  paused := player.paused
  volume := player.volume
  filters := player.filters
  voice := player.voice

def EndTime.ms : EndTime → Option Nat
  | .clear => none
  | .set ms => some ms

def Refused (env : UpdateEnv) (body : PlayerUpdate) : Prop :=
  FiltersRefused env.enabled body ∨ VoiceRefused body

/-- The handle of a started track before its volume and pause. -/
def PlayerUpdate.startHandle (body : PlayerUpdate) : TrackHandle :=
  match body.position with
  | some start => if 0 < start then { number := 0 : TrackHandle }.seek start else { number := 0 }
  | none => { number := 0 }

/-- The end time and the handle's seek that the start of a track leaves. -/
def startedEffect (env : UpdateEnv) (body : PlayerUpdate) (text : String) :
    Option Nat × Option (Nat × List Nat) :=
  match env.resolution with
  | .found => (body.endTime.bind EndTime.ms, some body.startHandle.sought)
  | .failed _ | .timedOut =>
    (if (decode env.json text).isSome then none else body.endTime.bind EndTime.ms, none)

namespace PlayerContext

/-- The track of the request body itself makes no difference to the player. -/
def KeptBy (player : PlayerContext) (env : UpdateEnv) (body : PlayerUpdate)
    (update : PlayerUpdateTrack) : Prop :=
  let startKeeps (text : String) : Prop :=
    env.noReplace ∧ player.track.isSome ∨ player.position = 0 ∧
      (player.endTime, player.trackHandle.map TrackHandle.sought) = startedEffect env body text
  match update.encoded, update.identifier with
  | some .clear, _ => player.trackHandle = none
  | some (.set text), _ => startKeeps text
  | none, some text => startKeeps text
  | none, none => True

/-- What the track object hides from `update_player` is already so. -/
def AlreadySo (player : PlayerContext) (env : UpdateEnv) (body : PlayerUpdate) : Prop :=
  match resolveTrackUpdate body.withoutTrack with
  | some update => Refused env body ∨ player.KeptBy env body update
  | none =>
    (∀ position, body.position = some position →
      player.position = position ∧ player.trackHandle = none) ∧
    (Refused env body → ∀ paused, body.paused = some paused → player.paused = paused) ∧
    (¬ Refused env body → ∀ endTime, body.endTime = some endTime → player.endTime = endTime.ms)

variable (player : PlayerContext)

theorem setPaused_effect (paused : Bool) :
    (player.setPaused paused).effect = { player.effect with paused } := by
  rw [setPaused]
  split
  · rename_i same
    rw [← same]
    rfl
  · simp only [effect, Option.map_map]
    congr 2
    funext handle
    cases paused <;> rfl

theorem setPaused_track (paused : Bool) : (player.setPaused paused).track = player.track := by
  rw [setPaused]
  split <;> rfl

theorem setVolume_effect (volume : Int) :
    (player.setVolume volume).effect = { player.effect with volume := clampVolume volume } := by
  simp only [effect, setVolume, Option.map_map]
  rfl

theorem seek_effect (position : Nat) :
    (player.seek position).effect =
      { player.effect with
        position
        sought := player.trackHandle.map fun handle => (handle.seek position).sought } := by
  simp only [effect, seek, Option.map_map]
  rfl

end PlayerContext

namespace Stage

variable (stage : Stage) (env : UpdateEnv) (body : PlayerUpdate)

/-- The parts of a request between the player state and the track. -/
def check (userId : Option Nat) (path : String) : Response × Stage :=
  match stage.applyFilters env body path with
  | .error error => (.rejected error, stage)
  | .ok stage =>
    match stage.applyVoice body userId with
    | .error error => (.rejected error, stage)
    | .ok stage => (.ok, stage)

theorem update_eq_check (userId : Option Nat) (path : String) :
    stage.update env body userId path =
      let checked := (stage.handlePlayerState body env.now).check env body userId path
      (checked.1, if checked.1 = .ok then checked.2.handleTrack env body else checked.2) := by
  cases filtered : (stage.handlePlayerState body env.now).applyFilters env body path with
  | error => simp [update, check, filtered]
  | ok after =>
    cases voiced : after.applyVoice body userId <;> simp [update, check, filtered, voiced]

/-- The same stage but for the filters and the voice state. -/
structure Checked (before after : Stage) (filters : Filters) (voice : VoiceConnectionState) :
    Prop where
  effect : after.player.effect = { before.player.effect with filters, voice }
  track : after.player.track = before.player.track

end Stage

open Stage

theorem applyFilters_checked (env : UpdateEnv) (body : PlayerUpdate) (path : String) :
    (FiltersRefused env.enabled body ∧ ∃ error, ∀ stage : Stage,
      stage.applyFilters env body path = .error error) ∨
    ¬ FiltersRefused env.enabled body ∧ ∃ stored : Filters → Filters, ∀ stage : Stage, ∃ after,
      stage.applyFilters env body path = .ok after ∧
        Checked stage after (stored stage.player.filters) stage.player.voice := by
  simp only [FiltersRefused, applyFilters, handleFilters]
  cases given : body.filters with
  | none => exact .inr ⟨by simp, id, fun stage => ⟨stage, rfl, rfl, rfl⟩⟩
  | some filters =>
    by_cases invalid : validateFilters filters env.enabled = []
    · simp only [invalid, ne_eq, not_true_eq_false, if_false]
      exact .inr ⟨by simp [invalid], fun _ => filters, fun stage => ⟨_, rfl, rfl, rfl⟩⟩
    · simp only [invalid, ne_eq, not_false_eq_true, if_true]
      exact .inl ⟨⟨filters, rfl, invalid⟩, _, fun _ => rfl⟩

theorem applyVoice_checked (body : PlayerUpdate) (userId : Option Nat) :
    (VoiceRefused body ∧ ∃ error, ∀ stage : Stage, stage.applyVoice body userId = .error error) ∨
    ¬ VoiceRefused body ∧ ∃ stored : VoiceConnectionState → VoiceConnectionState,
      ∀ stage : Stage, ∃ after, stage.applyVoice body userId = .ok after ∧
        Checked stage after stage.player.filters (stored stage.player.voice) := by
  simp only [VoiceRefused, applyVoice, handleVoice]
  cases given : body.voice with
  | none => exact .inr ⟨by simp, id, fun stage => ⟨stage, rfl, rfl, rfl⟩⟩
  | some voice =>
    by_cases leaves : voice.channelId = none
    · simp only [leaves, if_true]
      exact .inr ⟨by simp [leaves], fun _ => {}, fun stage => ⟨_, rfl, rfl, rfl⟩⟩
    · by_cases part : voice.token = "" ∨ voice.endpoint = "" ∨ voice.sessionId = ""
      · simp only [leaves, part, if_true, if_false]
        exact .inl ⟨⟨voice, rfl, leaves, part⟩, _, fun _ => rfl⟩
      · simp only [leaves, part, if_false]
        refine .inr ⟨by simp [part], fun _ => voice, fun stage => ⟨_, rfl, ?_⟩⟩
        cases userId <;> exact ⟨rfl, rfl⟩

/-- Neither the answer nor what is stored depends on the rest of the player. -/
theorem check_checked (env : UpdateEnv) (body : PlayerUpdate) (userId : Option Nat)
    (path : String) :
    ∃ (response : Response) (filters : Filters → Filters)
      (voice : VoiceConnectionState → VoiceConnectionState),
      (response = .ok ↔ ¬ Refused env body) ∧ ∀ stage : Stage,
        (stage.check env body userId path).1 = response ∧
          Checked stage (stage.check env body userId path).2 (filters stage.player.filters)
            (voice stage.player.voice) := by
  simp only [Refused, check]
  rcases applyFilters_checked env body path with ⟨refused, error, failed⟩ | ⟨passed, stored, kept⟩
  · refine ⟨.rejected error, id, id, by simp [refused], fun stage => ?_⟩
    simp only [failed]
    exact ⟨trivial, rfl, rfl⟩
  · rcases applyVoice_checked body userId with ⟨refused, error, failed⟩ | ⟨voiced, stored', kept'⟩
    · refine ⟨.rejected error, stored, id, by simp [refused], fun stage => ?_⟩
      obtain ⟨after, applied, checked⟩ := kept stage
      simp only [applied, failed]
      exact ⟨trivial, checked⟩
    · refine ⟨.ok, stored, stored', by simp [passed, voiced], fun stage => ?_⟩
      obtain ⟨after, applied, checked⟩ := kept stage
      obtain ⟨last, spoken, checked'⟩ := kept' after
      have filters : after.player.filters = stored stage.player.filters :=
        congrArg PlayerEffect.filters checked.effect
      have voice : after.player.voice = stage.player.voice :=
        congrArg PlayerEffect.voice checked.effect
      simp only [applied, spoken]
      refine ⟨trivial, ?_, checked'.track.trans checked.track⟩
      rw [checked'.effect, checked.effect, filters, voice]

namespace PlayerContext

variable (player : PlayerContext) {body : PlayerUpdate} {track : PlayerUpdateTrack}

theorem applyVolume_effect (body : PlayerUpdate) :
    (player.applyVolume body).effect =
      { player.effect with volume := (body.volume.map clampVolume).getD player.effect.volume } := by
  rw [applyVolume]
  cases body.volume with
  | none => rfl
  | some volume => exact player.setVolume_effect volume

theorem applyState_loading (loading : body.loadingNewTrack = true) :
    player.applyState body = player.applyVolume body := by
  simp only [applyState, applyPaused, applyPosition, loading, if_true]
  cases body.position <;> cases body.paused <;> rfl

theorem keptBy_congr {one other : PlayerContext} {env : UpdateEnv}
    (position : one.position = other.position) (endTime : one.endTime = other.endTime)
    (sought : one.effect.sought = other.effect.sought) (same : one.track = other.track) :
    one.KeptBy env body track ↔ other.KeptBy env body track := by
  have handle : ∀ player : PlayerContext, player.trackHandle = none ↔ player.effect.sought = none :=
    fun _ => Option.map_eq_none_iff.symm
  have seen : ∀ player : PlayerContext,
      player.trackHandle.map TrackHandle.sought = player.effect.sought := fun _ => rfl
  simp only [KeptBy, position, endTime, seen, sought, same, handle]

section Playing

variable (playing : body.loadingNewTrack = false)
include playing

theorem applyPosition_effect :
    (player.applyPosition body).effect =
      { player.effect with
        position := body.position.getD player.position
        sought := (body.position.map fun position =>
          player.trackHandle.map fun handle => (handle.seek position).sought).getD
            player.effect.sought } := by
  rw [applyPosition, playing]
  cases body.position with
  | none => rfl
  | some position => exact player.seek_effect position

theorem applyPaused_effect :
    (player.applyPaused body).effect =
      { player.effect with paused := body.paused.getD player.effect.paused } := by
  rw [applyPaused, playing]
  cases body.paused with
  | none => rfl
  | some paused => exact player.setPaused_effect paused

theorem applyState_effect :
    (player.applyState body).effect =
      { (player.applyVolume body).effect with
        position := (player.applyPosition body).effect.position
        sought := (player.applyPosition body).effect.sought
        paused := body.paused.getD player.effect.paused } := by
  rw [applyState, applyVolume_effect, applyVolume_effect, applyPaused_effect _ playing,
    applyPosition_effect _ playing]

/-- A seek makes no difference if the player is there and has no handle. -/
theorem applyPosition_effect_iff :
    player.position = (player.applyPosition body).effect.position ∧
        player.effect.sought = (player.applyPosition body).effect.sought ↔
      ∀ position, body.position = some position →
        player.position = position ∧ player.trackHandle = none := by
  rw [applyPosition_effect _ playing]
  cases body.position with
  | none => simp
  | some position =>
    cases found : player.trackHandle <;>
      simp [effect, found, TrackHandle.sought, TrackHandle.seek]

end Playing

end PlayerContext

namespace Stage

variable (stage : Stage) (env : UpdateEnv) {body : PlayerUpdate} {track : PlayerUpdateTrack}

theorem handleTrack_userDataOnly (only : UserDataOnly body track) :
    (stage.handleTrack env body).player.effect =
        { stage.player.effect with paused := body.paused.getD stage.player.effect.paused } ∧
      ∀ userData, track.userData = some userData →
        (stage.handleTrack env body).player.userData = userData := by
  have resolved : resolveTrackUpdate body = some track := by
    simp [resolveTrackUpdate, only.given]
  simp only [handleTrack, applyTrackUpdate, resolved, only.encoded, only.identifier]
  constructor
  · cases track.userData <;> cases body.paused with
    | none => rfl
    | some paused => exact stage.player.setPaused_effect paused
  · intro userData given
    rw [given]

theorem handleTrack_endTime (missing : resolveTrackUpdate body.withoutTrack = none) :
    (stage.handleTrack env body.withoutTrack).player.effect =
      { stage.player.effect with
        endTime := (body.endTime.map EndTime.ms).getD stage.player.effect.endTime } := by
  have endTime : body.withoutTrack.endTime = body.endTime := rfl
  simp only [handleTrack, missing, endTime]
  cases body.endTime with
  | none => rfl
  | some endTime => cases endTime <;> rfl

theorem newHandle_sought (config : PlaybackStartConfig) (body : PlayerUpdate)
    (same : config.startTimeMs = body.position) :
    (stage.newHandle config).sought = body.startHandle.sought := by
  simp only [newHandle, PlayerUpdate.startHandle, same]
  cases body.position with
  | none => split <;> rfl
  | some start => by_cases positive : 0 < start <;> simp only [positive, if_true, if_false] <;>
      split <;> rfl

theorem startPlayback_effect (config : PlaybackStartConfig)
    (position : config.startTimeMs = body.position)
    (endTime : config.endTime = body.endTime.bind EndTime.ms) :
    (stage.startPlayback env.json config env.resolution).player.effect =
      { stage.player.effect with
        position := 0
        endTime := (startedEffect env body config.track).1
        sought := (startedEffect env body config.track).2 } := by
  have failed : ∀ message,
      ((stage.stopCurrentTrack.loadMetadata env.json config).sendLoadFailed message).player.effect =
        { stage.player.effect with
          position := 0
          endTime := if (decode env.json config.track).isSome then none
            else body.endTime.bind EndTime.ms
          sought := none } := by
    intro message
    cases decoded : decode env.json config.track <;>
      simp [sendLoadFailed, loadMetadata, stopCurrentTrack, PlayerContext.responseTrack, decoded,
        PlayerContext.effect, PlayerContext.stopTrack, endTime, send]
  simp only [startPlayback, startedEffect]
  cases env.resolution with
  | found =>
    have sought := newHandle_sought (stage.stopCurrentTrack.loadMetadata env.json config) config
      body position
    cases decoded : decode env.json config.track <;>
      simp [launch, PlayerContext.responseTrack, loadMetadata, decoded, PlayerContext.effect, send,
        endTime, stopCurrentTrack] at sought ⊢ <;> exact sought
  | failed _ | timedOut => exact failed _

/-- A started track leaves the position, the end time and the handle as a start does. -/
theorem start_effect_iff (text : String) (userData : Option Value) :
    (stage.start env body text userData body.position).player.effect = stage.player.effect ↔
      env.noReplace ∧ stage.player.track.isSome ∨ stage.player.position = 0 ∧
        (stage.player.endTime, stage.player.trackHandle.map TrackHandle.sought) =
          startedEffect env body text := by
  rw [start]
  split
  · rename_i kept
    simp [Bool.and_eq_true_iff.mp kept]
  · rename_i replaced
    rw [@startPlayback_effect stage env body]
    · rw [Bool.and_eq_true] at replaced
      simp only [PlayerContext.effect, PlayerEffect.mk.injEq, replaced, false_or, and_true,
        Prod.ext_iff]
      constructor
      · rintro ⟨position, sought, endTime⟩
        exact ⟨position.symm, endTime.symm, sought.symm⟩
      · rintro ⟨position, endTime, sought⟩
        exact ⟨position.symm, sought.symm, endTime.symm⟩
    · rfl
    · rcases body.endTime with - | (- | ms) <;> rfl

theorem stopPlayer_effect_iff :
    stage.stopPlayer.player.effect = stage.player.effect ↔ stage.player.trackHandle = none := by
  have stopped : stage.stopPlayer.player.effect = { stage.player.effect with sought := none } := by
    simp only [stopPlayer]
    split <;> rfl
  rw [stopped]
  cases found : stage.player.trackHandle <;> simp [PlayerContext.effect, found]

theorem applyTrackUpdate_effect_iff (update : PlayerUpdateTrack) :
    (stage.applyTrackUpdate env body update body.position).player.effect = stage.player.effect ↔
      stage.player.KeptBy env body update := by
  rcases update with ⟨- | (- | text), - | identifier, - | userData⟩
  all_goals simp only [applyTrackUpdate, PlayerContext.KeptBy, start_effect_iff,
    stopPlayer_effect_iff]
  all_goals exact ⟨fun _ => trivial, fun _ => rfl⟩

theorem loadingNewTrack_of_resolved {update : Option PlayerUpdateTrack}
    (resolved : resolveTrackUpdate body.withoutTrack = update) :
    body.withoutTrack.loadingNewTrack = update.isSome := by
  rw [← resolved]
  rcases body with ⟨- | _, - | _⟩ <;> rfl

/-- The track of the request body itself, when no track object hides it. -/
theorem handleTrack_effect_iff {update : PlayerUpdateTrack}
    (given : resolveTrackUpdate body.withoutTrack = some update) :
    (stage.handleTrack env body.withoutTrack).player.effect =
        { stage.player.effect with paused := body.paused.getD stage.player.effect.paused } ↔
      stage.player.KeptBy env body update := by
  have loading : body.withoutTrack.loadingNewTrack = true := loadingNewTrack_of_resolved given
  have paused : body.withoutTrack.paused = body.paused := rfl
  simp only [handleTrack, given, loading, if_true, paused]
  cases body.paused with
  | none => exact stage.applyTrackUpdate_effect_iff env update
  | some paused =>
    have effect := stage.player.setPaused_effect paused
    rw [Option.getD_some, ← effect]
    refine (applyTrackUpdate_effect_iff _ env update).trans (PlayerContext.keptBy_congr ?_ ?_ ?_ ?_)
    · exact congrArg PlayerEffect.position effect
    · exact congrArg PlayerEffect.endTime effect
    · change (stage.player.setPaused paused).effect.sought = _
      rw [effect]
    · exact stage.player.setPaused_track paused

end Stage

theorem applyState_stored (player : PlayerContext) (body : PlayerUpdate) :
    (player.applyState body).filters = player.filters ∧
      (player.applyState body).voice = player.voice ∧
      (player.applyState body).track = player.track := by
  simp only [applyState, applyVolume, applyPaused, applyPosition, setPaused]
  repeat' split
  all_goals exact ⟨rfl, rfl, rfl⟩

/-- Both runs of a request up to the track, with what the track is then applied to. -/
theorem updates_effect_iff (stage : Stage) (env : UpdateEnv) (userId : Option Nat) (path : String)
    {body : PlayerUpdate} {track : PlayerUpdateTrack} (only : UserDataOnly body track) :
    let given := stage.update env body userId path
    let plain := stage.update env body.withoutTrack userId path
    given.1 = plain.1 ∧
      (given.1 = .ok → ∀ userData, track.userData = some userData →
        given.2.player.userData = userData) ∧
      (given.2.player.effect = plain.2.player.effect ↔ stage.player.AlreadySo env body) := by
  obtain ⟨response, filters, voice, accepted, checked⟩ := check_checked env body userId path
  have loading : body.loadingNewTrack = true := by
    simp [PlayerUpdate.loadingNewTrack, only.given]
  obtain ⟨same, effect, kept⟩ := checked (stage.handlePlayerState body env.now)
  obtain ⟨same', effect', kept'⟩ := checked (stage.handlePlayerState body.withoutTrack env.now)
  have sameCheck : ∀ stage : Stage, stage.check env body.withoutTrack userId path =
      stage.check env body userId path := fun _ => rfl
  simp only [update_eq_check, sameCheck, same, same', true_and]
  generalize ((stage.handlePlayerState body env.now).check env body userId path).2 = one
    at effect kept ⊢
  generalize ((stage.handlePlayerState body.withoutTrack env.now).check env body userId path).2 =
    other at effect' kept' ⊢
  have stored := applyState_stored stage.player
  simp only [handlePlayerState_player, stored] at effect effect' kept kept'
  rw [applyState_loading _ loading, applyVolume_effect] at effect
  have labels := handleTrack_userDataOnly one env only
  refine ⟨fun ok => by rw [if_pos ok]; exact labels.2, ?_⟩
  rw [AlreadySo]
  cases resolved : resolveTrackUpdate body.withoutTrack with
  | none =>
    have playing : body.withoutTrack.loadingNewTrack = false :=
      loadingNewTrack_of_resolved resolved
    have seeks := applyPosition_effect_iff stage.player playing
    have sameVolume : body.withoutTrack.volume = body.volume := rfl
    have samePaused : body.withoutTrack.paused = body.paused := rfl
    rw [applyState_effect _ playing, applyVolume_effect, sameVolume, samePaused] at effect'
    by_cases ok : response = .ok
    · rw [if_pos ok, if_pos ok, labels.1, handleTrack_endTime other env resolved, effect, effect']
      simp only [PlayerEffect.mk.injEq, accepted.mp ok, not_false_eq_true, true_and, and_true,
        false_implies, forall_const]
      rw [← and_assoc]
      refine and_congr seeks ?_
      cases body.endTime <;> simp [PlayerContext.effect]
    · rw [if_neg ok, if_neg ok, effect, effect']
      simp only [PlayerEffect.mk.injEq, not_not.mp (mt accepted.mpr ok), not_true_eq_false,
        true_and, and_true, false_implies, forall_const]
      rw [← and_assoc]
      refine and_congr seeks ?_
      cases body.paused <;> simp [PlayerContext.effect]
  | some update =>
    have loading' : body.withoutTrack.loadingNewTrack = true :=
      loadingNewTrack_of_resolved resolved
    rw [applyState_loading _ loading', applyVolume_effect] at effect'
    have sameEffect : other.player.effect = one.player.effect := effect'.trans effect.symm
    by_cases ok : response = .ok
    · have kept : other.player.KeptBy env body update ↔ stage.player.KeptBy env body update :=
        keptBy_congr (congrArg PlayerEffect.position effect')
          (congrArg PlayerEffect.endTime effect') (by rw [effect']) kept'
      rw [if_pos ok, if_pos ok, labels.1, ← sameEffect, eq_comm,
        handleTrack_effect_iff other env resolved, kept]
      simp [accepted.mp ok]
    · rw [if_neg ok, if_neg ok, sameEffect]
      simp [not_not.mp (mt accepted.mpr ok)]

def Sessions.playerOf (sessions : Sessions) (sessionId guildId : String) : Option PlayerContext :=
  (sessions sessionId).bind fun session => session.players guildId

/-- A track object with user data alone changes nothing else of a request exactly when what it
hides is already so. -/
theorem user_data_only_same_effect_iff (sessions : Sessions) (env : UpdateEnv)
    (sessionId guildId : String) (body : PlayerUpdate) (track : PlayerUpdateTrack)
    (only : UserDataOnly body track) :
    let given := updatePlayer sessions env sessionId guildId body
    let plain := updatePlayer sessions env sessionId guildId body.withoutTrack
    given.1 = plain.1 ∧
      (given.1 = .ok → ∀ userData, track.userData = some userData →
        (given.2.playerOf sessionId guildId).map PlayerContext.userData = some userData) ∧
      ((given.2.playerOf sessionId guildId).map effect =
          (plain.2.playerOf sessionId guildId).map effect ↔
        ∀ session, sessions sessionId = some session →
          ((session.players guildId).getD (.new guildId env.player)).AlreadySo env body) := by
  cases found : sessions sessionId with
  | none => simp [updatePlayer, found]
  | some session =>
    have both := updates_effect_iff
      ⟨(session.players guildId).getD (.new guildId env.player), session.log, session.fresh⟩
      env session.userId (playerPath sessionId guildId) only
    simpa [updatePlayer, found, Sessions.playerOf] using both

/-- User data, a volume and a pause for a player that is made by the request. -/
def labelled (position : Option Nat) : PlayerUpdate where
  track := some { userData := some (.object []) }
  volume := some 50
  paused := some true
  position := position

def playerAfter (body : PlayerUpdate) : Option PlayerContext :=
  (updatePlayer (oneSession fun _ => none) plainEnv "s" "1" body).2.playerOf "s" "1"

theorem labelled_same_effect :
    (playerAfter (labelled none)).map effect =
      (playerAfter (labelled none).withoutTrack).map effect := by
  have same := user_data_only_same_effect_iff (oneSession fun _ => none) plainEnv "s" "1"
    (labelled none) { userData := some (.object []) } ⟨rfl, rfl, rfl⟩
  refine same.2.2.mpr fun session found => ?_
  refine ⟨nofun, fun refused => ?_, fun _ => nofun⟩
  rcases refused with ⟨_, ⟨⟩, _⟩ | ⟨_, ⟨⟩, _⟩

/-- With the user data the seek is not made. -/
theorem labelled_seek_lost :
    (playerAfter (labelled (some 1000))).map position = some 0 ∧
      (playerAfter (labelled (some 1000)).withoutTrack).map position = some 1000 := by
  decide

end KizunaLink.Player
