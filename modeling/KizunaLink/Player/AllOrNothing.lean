import KizunaLink.Player.UpdatePlayer

/-!
# When a rejected PATCH changes nothing

A request is refused for a disabled filter or for partial voice credentials.  By
then the player exists, and position, pause and volume have been applied; for
partial credentials the filters have been stored as well.  So a refused request
changes nothing exactly when the player was there and each of those parts was
absent or said what was already so.
-/

set_option autoImplicit false

namespace KizunaLink.Player

def Untouched (before after : Sessions) (sessionId : String) : Prop :=
  (after sessionId).map ServerSession.players = (before sessionId).map ServerSession.players

def Response.IsClientError (response : Response) : Prop :=
  400 ≤ response.status ∧ response.status < 500

def FiltersRefused (enabled : FilterName → Bool) (body : PlayerUpdate) : Prop :=
  ∃ filters, body.filters = some filters ∧ validateFilters filters enabled ≠ []

def VoiceRefused (body : PlayerUpdate) : Prop :=
  ∃ voice, body.voice = some voice ∧ voice.channelId ≠ none ∧
    (voice.token = "" ∨ voice.endpoint = "" ∨ voice.sessionId = "")

/-- Position, pause and volume say what is already so.  A seek is a command to a handle,
so there must be none. -/
structure StateKept (player : PlayerContext) (body : PlayerUpdate) : Prop where
  position : body.loadingNewTrack = false → ∀ position, body.position = some position →
    position = player.position ∧ player.trackHandle = none
  paused : body.loadingNewTrack = false → ∀ paused, body.paused = some paused →
    paused = player.paused
  volume : ∀ volume, body.volume = some volume →
    PlayerContext.clampVolume volume = player.volume ∧
      ∀ handle, player.trackHandle = some handle →
        handle.volume = PlayerContext.clampVolume volume

/-- The condition on a request: if it is refused, the player was there, its state is kept,
and the filters were not stored before the refusal. -/
def Harmless (sessions : Sessions) (env : UpdateEnv) (sessionId guildId : String)
    (body : PlayerUpdate) : Prop :=
  ∀ session, sessions sessionId = some session →
    FiltersRefused env.enabled body ∨ VoiceRefused body →
    ∃ player, session.players guildId = some player ∧ StateKept player body ∧
      (FiltersRefused env.enabled body ∨ body.filters = none)

/-! ## The state of the player -/

namespace PlayerContext

variable {player : PlayerContext} {body : PlayerUpdate}

def applyState (player : PlayerContext) (body : PlayerUpdate) : PlayerContext :=
  ((player.applyPosition body).applyPaused body).applyVolume body

theorem applyPosition_of_kept (kept : StateKept player body) :
    player.applyPosition body = player := by
  simp only [applyPosition]
  split
  · rename_i position sought
    split
    · rfl
    · rename_i playing
      obtain ⟨same, none⟩ := kept.position (Bool.eq_false_iff.mpr playing) position sought
      simp only [seek, none, Option.map_none, same]
      rw [← none]
  · rfl

theorem applyPaused_of_kept (kept : StateKept player body) : player.applyPaused body = player := by
  simp only [applyPaused]
  split
  · rename_i paused asked
    split
    · rfl
    · rename_i playing
      have same := kept.paused (Bool.eq_false_iff.mpr playing) paused asked
      rw [setPaused, if_pos same.symm]
  · rfl

theorem applyVolume_of_kept (kept : StateKept player body) : player.applyVolume body = player := by
  simp only [applyVolume]
  split
  · rename_i volume asked
    obtain ⟨same, handle⟩ := kept.volume volume asked
    have sameHandle : (player.trackHandle.map fun handle => handle.setVolume
        (clampVolume volume)) = player.trackHandle := by
      cases found : player.trackHandle with
      | none => rfl
      | some handle₀ => simp [TrackHandle.setVolume, ← handle handle₀ found]
    rw [setVolume, sameHandle, same]
  · rfl

/-! What each part leaves alone. -/

theorem applyPaused_position : (player.applyPaused body).position = player.position := by
  simp only [applyPaused, setPaused]
  split
  · split
    · rfl
    · split <;> rfl
  · rfl

/-- What pausing and resuming leave as it is in a handle stays so in the player's. -/
theorem applyPaused_handle {Seen : Type} (view : TrackHandle → Seen)
    (pause : ∀ handle tapeStop, view (TrackHandle.pause handle tapeStop) = view handle)
    (play : ∀ handle tapeStop, view (TrackHandle.play handle tapeStop) = view handle) :
    (player.applyPaused body).trackHandle.map view = player.trackHandle.map view := by
  simp only [applyPaused, setPaused]
  split
  · split
    · rfl
    · split
      · rfl
      · rw [Option.map_map]
        congr 1
        funext handle
        simp only [Function.comp_apply]
        split
        · exact pause _ _
        · exact play _ _
  · rfl

theorem applyPaused_seeks : (player.applyPaused body).trackHandle.map TrackHandle.seeks =
    player.trackHandle.map TrackHandle.seeks :=
  applyPaused_handle TrackHandle.seeks (fun _ _ => rfl) (fun _ _ => rfl)

theorem applyVolume_position : (player.applyVolume body).position = player.position := by
  simp only [applyVolume]
  split <;> rfl

theorem applyVolume_paused : (player.applyVolume body).paused = player.paused := by
  simp only [applyVolume]
  split <;> rfl

theorem applyVolume_handle {Seen : Type} (view : TrackHandle → Seen)
    (setVolume : ∀ handle volume, view (TrackHandle.setVolume handle volume) = view handle) :
    (player.applyVolume body).trackHandle.map view = player.trackHandle.map view := by
  simp only [applyVolume]
  split
  · rw [PlayerContext.setVolume, Option.map_map]
    congr 1
    funext handle
    exact setVolume _ _
  · rfl

theorem applyVolume_seeks : (player.applyVolume body).trackHandle.map TrackHandle.seeks =
    player.trackHandle.map TrackHandle.seeks :=
  applyVolume_handle TrackHandle.seeks fun _ _ => rfl

theorem applyPosition_paused : (player.applyPosition body).paused = player.paused := by
  simp only [applyPosition]
  split
  · split <;> rfl
  · rfl

theorem applyState_filterChain : (player.applyState body).filterChain = player.filterChain := by
  simp only [applyState, applyVolume, applyPaused, applyPosition, setPaused]
  repeat' split
  all_goals rfl

/-- No part undoes another, so the whole changes nothing only if every part does. -/
theorem kept_of_applyState (same : player.applyState body = player) : StateKept player body := by
  have samePosition : (player.applyPosition body).position = player.position := by
    rw [← applyPaused_position, ← applyVolume_position]
    exact congrArg position same
  have sameSeeks : (player.applyPosition body).trackHandle.map TrackHandle.seeks =
      player.trackHandle.map TrackHandle.seeks := by
    rw [← applyPaused_seeks, ← applyVolume_seeks]
    exact congrArg (fun player => player.trackHandle.map TrackHandle.seeks) same
  have samePaused : ((player.applyPosition body).applyPaused body).paused = player.paused := by
    rw [← applyVolume_paused]
    exact congrArg paused same
  refine ⟨?_, ?_, ?_⟩
  · intro playing position sought
    simp only [applyPosition, sought, playing, Bool.false_eq_true, if_false, seek]
      at samePosition sameSeeks
    refine ⟨samePosition, ?_⟩
    cases found : player.trackHandle with
    | none => rfl
    | some handle =>
      rw [found] at sameSeeks
      simp only [Option.map_some, TrackHandle.seek, Option.some.injEq] at sameSeeks
      exact absurd (List.self_eq_append_right.mp sameSeeks.symm) (List.cons_ne_nil _ _)
  · intro playing paused asked
    simp only [applyPaused, asked, playing, Bool.false_eq_true, if_false, setPaused]
      at samePaused
    split at samePaused
    · rename_i already
      rw [applyPosition_paused] at already
      exact already.symm
    · exact samePaused
  · intro volume asked
    have sameVolume := congrArg PlayerContext.volume same
    have sameHandle := congrArg
      (fun player => player.trackHandle.map TrackHandle.volume) same
    simp only [applyState, applyVolume, asked, setVolume, Option.map_map] at sameVolume sameHandle
    refine ⟨sameVolume, fun handle found => ?_⟩
    rw [found, Option.map_some] at sameHandle
    obtain ⟨other, _, set⟩ := Option.map_eq_some_iff.mp sameHandle
    exact set.symm

theorem applyState_eq_iff : player.applyState body = player ↔ StateKept player body := by
  constructor
  · exact kept_of_applyState
  · intro kept
    rw [applyState, applyPosition_of_kept kept, applyPaused_of_kept kept, applyVolume_of_kept kept]

end PlayerContext

namespace Stage

variable {stage : Stage} {body : PlayerUpdate}

theorem handlePlayerState_player (now : Nat) :
    (stage.handlePlayerState body now).player = stage.player.applyState body := by
  simp only [handlePlayerState, PlayerContext.applyState]
  split
  · split <;> rfl
  · rfl

theorem applyFilters_refused {env : UpdateEnv} (path : String)
    (refused : FiltersRefused env.enabled body) :
    ∃ error, stage.applyFilters env body path = .error error ∧ error.status = 400 := by
  obtain ⟨filters, present, invalid⟩ := refused
  simp only [applyFilters, present, handleFilters, if_pos invalid]
  exact ⟨_, rfl, rfl⟩

theorem applyFilters_accepted {env : UpdateEnv} (path : String)
    (accepted : ¬ FiltersRefused env.enabled body) :
    ∃ after, stage.applyFilters env body path = .ok after ∧
      (body.filters = none → after = stage) ∧
      (body.filters ≠ none →
        after.player.filterChain.build = stage.player.filterChain.build + 1) := by
  cases present : body.filters with
  | none =>
    simp only [applyFilters, present]
    exact ⟨stage, rfl, fun _ => rfl, fun some => absurd rfl some⟩
  | some filters =>
    have valid : validateFilters filters env.enabled = [] :=
      Classical.byContradiction fun invalid => accepted ⟨filters, present, invalid⟩
    simp only [applyFilters, present, handleFilters, valid, ne_eq, not_true_eq_false, if_false]
    exact ⟨_, rfl, nofun, fun _ => rfl⟩

theorem applyVoice_refused (userId : Option Nat) (refused : VoiceRefused body) :
    ∃ error, stage.applyVoice body userId = .error error ∧ error.status = 400 := by
  obtain ⟨voice, present, channel, missing⟩ := refused
  simp only [applyVoice, present, handleVoice, if_neg channel, if_pos missing]
  exact ⟨_, rfl, rfl⟩

theorem applyVoice_accepted (userId : Option Nat) (accepted : ¬ VoiceRefused body) :
    ∃ after, stage.applyVoice body userId = .ok after := by
  cases present : body.voice with
  | none =>
    simp only [applyVoice, present]
    exact ⟨stage, rfl⟩
  | some voice =>
    simp only [applyVoice, present, handleVoice]
    split
    · exact ⟨_, rfl⟩
    · rename_i channel
      split
      · rename_i missing
        exact absurd ⟨voice, present, channel, missing⟩ accepted
      · exact ⟨_, rfl⟩

theorem update_cases (stage : Stage) (env : UpdateEnv) (body : PlayerUpdate)
    (userId : Option Nat) (path : String) :
    (FiltersRefused env.enabled body ∧ ∃ error, error.status = 400 ∧
      stage.update env body userId path =
        (.rejected error, stage.handlePlayerState body env.now)) ∨
    (¬ FiltersRefused env.enabled body ∧ VoiceRefused body ∧ ∃ error after,
      error.status = 400 ∧ stage.update env body userId path = (.rejected error, after) ∧
      (body.filters = none → after = stage.handlePlayerState body env.now) ∧
      (body.filters ≠ none → after.player.filterChain.build =
        (stage.handlePlayerState body env.now).player.filterChain.build + 1)) ∨
    (¬ FiltersRefused env.enabled body ∧ ¬ VoiceRefused body ∧
      (stage.update env body userId path).1 = .ok) := by
  by_cases filtersRefused : FiltersRefused env.enabled body
  · obtain ⟨error, filtered, status⟩ :=
      (stage.handlePlayerState body env.now).applyFilters_refused path filtersRefused
    refine .inl ⟨filtersRefused, error, status, ?_⟩
    simp only [update, filtered]
  · obtain ⟨after, filtered, kept, rebuilt⟩ :=
      (stage.handlePlayerState body env.now).applyFilters_accepted path filtersRefused
    by_cases voiceRefused : VoiceRefused body
    · obtain ⟨error, connected, status⟩ := after.applyVoice_refused userId voiceRefused
      refine .inr (.inl ⟨filtersRefused, voiceRefused, error, after, status, ?_, kept, rebuilt⟩)
      simp only [update, filtered, connected]
    · obtain ⟨next, connected⟩ := after.applyVoice_accepted userId voiceRefused
      refine .inr (.inr ⟨filtersRefused, voiceRefused, ?_⟩)
      simp only [update, filtered, connected]

end Stage

theorem untouched_iff {sessions : Sessions} {sessionId guildId : String} {session : ServerSession}
    (found : sessions sessionId = some session) (player : PlayerContext) (log : SessionLog)
    (fresh : Nat) :
    Untouched sessions (Function.update sessions sessionId (some
      { session with
        players := Function.update session.players guildId (some player), log, fresh }))
      sessionId ↔ session.players guildId = some player := by
  rw [Untouched, Function.update_self, found, Option.map_some, Option.map_some,
    Option.some.injEq, Function.update_eq_self_iff]
  exact eq_comm

theorem stored_iff (found : Option PlayerContext) (made : PlayerContext) (body : PlayerUpdate) :
    found = some ((found.getD made).applyState body) ↔
      ∃ player, found = some player ∧ StateKept player body := by
  constructor
  · intro same
    cases found with
    | none => cases same
    | some player =>
      rw [Option.getD_some] at same
      have kept : player.applyState body = player := (Option.some.inj same).symm
      exact ⟨player, rfl, PlayerContext.applyState_eq_iff.mp kept⟩
  · rintro ⟨player, rfl, kept⟩
    rw [Option.getD_some, PlayerContext.applyState_eq_iff.mpr kept]

/-- A request that is answered with a client error leaves the players as they were exactly
when it is harmless. -/
theorem patch_all_or_nothing_iff (sessions : Sessions) (env : UpdateEnv)
    (sessionId guildId : String) (body : PlayerUpdate) :
    ((updatePlayer sessions env sessionId guildId body).1.IsClientError →
      Untouched sessions (updatePlayer sessions env sessionId guildId body).2 sessionId) ↔
      Harmless sessions env sessionId guildId body := by
  cases found : sessions sessionId with
  | none =>
    simp only [updatePlayer, Harmless, found]
    exact ⟨fun _ => nofun, fun _ _ => rfl⟩
  | some session =>
    have clientError : ∀ {error : RestError}, error.status = 400 →
        (Response.rejected error).IsClientError := by
      intro error status
      rw [Response.IsClientError, Response.status, status]
      decide
    have harmless : Harmless sessions env sessionId guildId body ↔
        (FiltersRefused env.enabled body ∨ VoiceRefused body →
          ∃ player, session.players guildId = some player ∧ StateKept player body ∧
            (FiltersRefused env.enabled body ∨ body.filters = none)) := by
      simp [Harmless, found]
    have stored :=
      stored_iff (session.players guildId) (PlayerContext.new guildId env.player) body
    simp only [updatePlayer, found, untouched_iff found, harmless]
    rcases Stage.update_cases
      ⟨(session.players guildId).getD (PlayerContext.new guildId env.player), session.log,
        session.fresh⟩ env body session.userId (playerPath sessionId guildId) with
      ⟨refused, error, status, updated⟩ |
      ⟨accepted, refused, error, after, status, updated, kept, rebuilt⟩ |
      ⟨filters, voice, accepted⟩
    · simp [updated, Stage.handlePlayerState_player, stored, clientError status, refused]
    · simp only [updated, clientError status, refused, accepted, false_or, forall_const]
      by_cases none : body.filters = none
      · simp [kept none, Stage.handlePlayerState_player, stored, none]
      · simp only [none, and_false, exists_false, iff_false]
        intro same
        have builds := rebuilt none
        rw [Stage.handlePlayerState_player, PlayerContext.applyState_filterChain, same] at builds
        simp only [Option.getD_some] at builds
        omega
    · simp only [accepted, filters, voice, or_self, false_implies, iff_true]
      intro clientError
      exact absurd clientError.1 (by decide)

def plainEnv : UpdateEnv where
  json := plainJson
  enabled := fun name => name ≠ .echo
  player := { tapeStop := false, stuckThresholdMs := 10000, sponsorblockEnabled := false }
  updateIntervalMs := 5000
  noReplace := false
  resolution := .found
  now := 0

def oneSession (players : String → Option PlayerContext) : Sessions := fun sessionId =>
  if sessionId = "s" then some { userId := some 7, players, log := {}, fresh := 0 } else none

def echoFilters : Filters := fun name => if name = .echo then some .null else none

theorem echoFilters_refused (body : PlayerUpdate) (present : body.filters = some echoFilters) :
    FiltersRefused plainEnv.enabled body :=
  ⟨echoFilters, present, by decide⟩

/-- A request for the volume that the player already has, and for a disabled filter. -/
theorem same_volume_is_harmless :
    Untouched (oneSession fun _ => some newStage.player)
      (updatePlayer (oneSession fun _ => some newStage.player) plainEnv "s" "1"
        { volume := some 100, filters := some echoFilters }).2 "s" := by
  refine (patch_all_or_nothing_iff (oneSession fun _ => some newStage.player) plainEnv "s" "1"
    { volume := some 100, filters := some echoFilters }).mpr ?_ ?_
  · intro session found _
    cases found
    refine ⟨newStage.player, rfl, ⟨nofun, nofun, ?_⟩, .inl (echoFilters_refused _ rfl)⟩
    intro volume asked
    cases asked
    exact ⟨by decide, nofun⟩
  · exact ⟨by decide, by decide⟩

/-- The same request with another volume. -/
theorem refused_volume_is_kept :
    ¬ ∀ (sessions : Sessions) (guildId : String) (body : PlayerUpdate),
      (updatePlayer sessions plainEnv "s" guildId body).1.IsClientError →
      Untouched sessions (updatePlayer sessions plainEnv "s" guildId body).2 "s" := by
  intro claim
  have untouched := claim (oneSession fun _ => some newStage.player) "1"
    { volume := some 50, filters := some echoFilters } ⟨by decide, by decide⟩
  have volumes := congrArg (fun players : Option (String → Option PlayerContext) =>
    players.bind fun players => (players "1").map PlayerContext.volume) untouched
  revert volumes
  decide

end KizunaLink.Player
