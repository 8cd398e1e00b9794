import KizunaLink.Player.AllOrNothing

/-!
# Ticks of a monitor

The turns of `monitor_loop` (discord/player/manager/monitor.rs): its end marker
against the end time that PATCH requests store in the player, and the turns at
which it sends a periodic update.  The monitor has the context that
`start_playback` made for it; requests reach the player only.
-/

set_option autoImplicit false

namespace KizunaLink.Player

open Option

open KizunaLink.Codec (SerdeJson Track)
open KizunaLink.Engine (PlaybackState)
open KizunaLink.Lib (System)

/-! ## The end marker -/

inductive TickOutcome where
  | signalled
  | stopped
  | endMarker
  | goesOn
  deriving DecidableEq, Repr

/-- A turn of the loop up to the end marker. -/
def MonitorCtx.turn (ctx : MonitorCtx) (signalled : Bool) (handle : TrackHandle) : TickOutcome :=
  if signalled then .signalled
  else
    let state := handle.getState
    if state = .stopped then .stopped
    else if ctx.endTimeMs.any (· ≤ handle.getPosition) ∧ state = .playing then .endMarker
    else .goesOn

def TrackHandle.atEnd (handle : TrackHandle) (endTime : Option Nat) : Bool :=
  handle.getState = .playing ∧ endTime.any (· ≤ handle.getPosition)

namespace Stage

/-- A tick of the player's monitor would end the track by its marker. -/
def endsAtMarker (stage : Stage) : Bool :=
  match stage.player.trackTask, stage.player.trackHandle with
  | some ctx, some handle => ctx.turn stage.player.stopSignal.raised handle = .endMarker
  | _, _ => false

def atEnd (stage : Stage) (endTime : Option Nat) : Bool :=
  stage.player.trackHandle.any fun handle => handle.atEnd endTime

end Stage

/-- A request that loads no track; or the mixer and the decoder have gone on, and the
handle is where they left it. -/
inductive PlayingAct where
  | patch (env : UpdateEnv) (body : PlayerUpdate)
  | play (state : PlaybackState) (disconnected : Bool) (position : Nat)

def playingSystem (userId : Option Nat) (path : String) : System Stage PlayingAct where
  step stage
    | .patch env body =>
      if body.loadingNewTrack then none else some (stage.update env body userId path).2
    | .play state disconnected position =>
      some { stage with
        player := { stage.player with
          trackHandle := stage.player.trackHandle.map fun handle =>
            { handle with state, disconnected, position } } }

/-- The monitor with its context, its signal and its handle are those of before. -/
structure SameTask (before after : PlayerContext) : Prop where
  task : after.trackTask = before.trackTask
  signal : after.stopSignal = before.stopSignal
  handle : after.trackHandle.isSome = before.trackHandle.isSome

namespace SameTask

variable (stage : Stage) (player : PlayerContext) (body : PlayerUpdate)

theorem refl : SameTask player player := ⟨rfl, rfl, rfl⟩

theorem trans {first second third : PlayerContext} (front : SameTask first second)
    (back : SameTask second third) : SameTask first third :=
  ⟨back.task.trans front.task, back.signal.trans front.signal, back.handle.trans front.handle⟩

theorem setPaused (paused : Bool) : SameTask player (player.setPaused paused) := by
  rw [PlayerContext.setPaused]
  split
  · exact refl player
  · exact ⟨rfl, rfl, by simp⟩

theorem applyPosition : SameTask player (player.applyPosition body) := by
  rw [PlayerContext.applyPosition]
  split
  · split
    · exact refl player
    · exact ⟨rfl, rfl, by simp [PlayerContext.seek]⟩
  · exact refl player

theorem applyPaused : SameTask player (player.applyPaused body) := by
  rw [PlayerContext.applyPaused]
  split
  · split
    · exact refl player
    · exact setPaused player _
  · exact refl player

theorem applyVolume : SameTask player (player.applyVolume body) := by
  rw [PlayerContext.applyVolume]
  split
  · exact ⟨rfl, rfl, by simp [PlayerContext.setVolume]⟩
  · exact refl player

theorem handlePlayerState (now : Nat) :
    SameTask stage.player (stage.handlePlayerState body now).player := by
  rw [Stage.handlePlayerState_player, PlayerContext.applyState]
  exact ((applyPosition _ body).trans (applyPaused _ body)).trans (applyVolume _ body)

theorem applyFilters {stage after : Stage} {env : UpdateEnv} {body : PlayerUpdate} {path : String}
    (applied : stage.applyFilters env body path = .ok after) :
    SameTask stage.player after.player := by
  simp only [Stage.applyFilters, Stage.handleFilters] at applied
  split at applied
  · split at applied
    · cases applied
    · cases applied
      exact ⟨rfl, rfl, rfl⟩
  · cases applied
    exact refl _

theorem applyVoice {stage after : Stage} {body : PlayerUpdate} {userId : Option Nat}
    (applied : stage.applyVoice body userId = .ok after) : SameTask stage.player after.player := by
  simp only [Stage.applyVoice, Stage.handleVoice] at applied
  split at applied
  · split at applied
    · cases applied
      exact ⟨rfl, rfl, rfl⟩
    · split at applied
      · cases applied
      · cases applied
        cases userId <;> exact ⟨rfl, rfl, rfl⟩
  · cases applied
    exact refl _

theorem handleTrack (env : UpdateEnv) {body : PlayerUpdate}
    (notLoading : body.loadingNewTrack = false) :
    SameTask stage.player (stage.handleTrack env body).player := by
  simp only [PlayerUpdate.loadingNewTrack, Bool.or_eq_false_iff, isSome_eq_false_iff,
    isNone_iff_eq_none] at notLoading
  simp only [Stage.handleTrack, resolveTrackUpdate, notLoading.1.1, notLoading.1.2, notLoading.2,
    map_none]
  split <;> exact ⟨rfl, rfl, rfl⟩

theorem update (env : UpdateEnv) {body : PlayerUpdate} (userId : Option Nat) (path : String)
    (notLoading : body.loadingNewTrack = false) :
    SameTask stage.player (stage.update env body userId path).2.player := by
  have first := handlePlayerState stage body env.now
  rw [Stage.update]
  split
  · exact first
  · rename_i filtered applied
    have second := first.trans (applyFilters applied)
    split
    · exact second
    · rename_i voiced connected
      exact (second.trans (applyVoice connected)).trans (handleTrack voiced env notLoading)

theorem step {userId : Option Nat} {path : String} {stage next : Stage} {act : PlayingAct}
    (stepped : (playingSystem userId path).step stage act = some next) :
    SameTask stage.player next.player := by
  cases act with
  | patch env body =>
    obtain ⟨notLoading, ⟨⟩⟩ := ite_none_left_eq_some.mp stepped
    exact update stage env userId path (Bool.eq_false_iff.mpr notLoading)
  | play state disconnected position =>
    cases stepped
    exact ⟨rfl, rfl, by simp⟩

end SameTask

variable (stage : Stage)

theorem turn_endMarker_iff (ctx : MonitorCtx) (handle : TrackHandle) :
    ctx.turn false handle = .endMarker ↔ handle.atEnd ctx.endTimeMs := by
  simp only [MonitorCtx.turn, TrackHandle.atEnd]
  cases handle.getState <;> simp

theorem endsAtMarker_eq {stage : Stage} {ctx : MonitorCtx}
    (watched : stage.player.trackTask = some ctx) (quiet : stage.player.stopSignal.raised = false) :
    stage.endsAtMarker = stage.atEnd ctx.endTimeMs := by
  cases held : stage.player.trackHandle with
  | none => simp [Stage.endsAtMarker, Stage.atEnd, watched, held]
  | some handle =>
    rw [Bool.eq_iff_iff]
    simp [Stage.endsAtMarker, Stage.atEnd, watched, held, quiet, turn_endMarker_iff]

/-- `start_playback` gives the monitor the end time it stores. -/
theorem startPlayback_task {json : SerdeJson} {config : PlaybackStartConfig} {track : Track}
    (decoded : decode json config.track = some track) :
    (∃ ctx, (stage.startPlayback json config .found).player.trackTask = some ctx ∧
      ctx.endTimeMs = config.endTime) ∧
    (stage.startPlayback json config .found).player.stopSignal.raised = false := by
  simp [Stage.startPlayback, Stage.launch, Stage.loadMetadata, PlayerContext.responseTrack, decoded,
    Stage.monitorCtx, Stage.send]

theorem end_marker_follows_player (userId : Option Nat) (path : String) (stage : Stage)
    (json : SerdeJson) (config : PlaybackStartConfig) (track : Track)
    (decoded : decode json config.track = some track) (acts : List PlayingAct) (final : Stage)
    (reached : (playingSystem userId path).run (stage.startPlayback json config .found) acts =
      some final) :
    (final.endsAtMarker = final.atEnd final.player.endTime) ↔
      (final.atEnd config.endTime = final.atEnd final.player.endTime) := by
  obtain ⟨⟨ctx, watched, copied⟩, quiet⟩ := startPlayback_task stage decoded
  have same := (playingSystem userId path).run_invariant_of_step
    (fun after => SameTask (stage.startPlayback json config .found).player after.player)
    (fun before stepped => before.trans (SameTask.step stepped)) acts (SameTask.refl _)
    reached
  rw [endsAtMarker_eq (same.task.trans watched) (same.signal ▸ quiet), copied]

def markedConfig (endTime : Option Nat) : PlaybackStartConfig :=
  { track := shortToken, updateIntervalMs := 5000, endTime }

/-- The end time is stored, and the track plays on to the second second. -/
def storesEndTime : List PlayingAct :=
  [.patch plainEnv { endTime := some (.set 1000) }, .play .playing false 96000]

theorem unchanged_marker_followed :
    ∃ final, (playingSystem none "").run
        (newStage.startPlayback plainJson (markedConfig (some 1000)) .found) storesEndTime =
      some final ∧ final.endsAtMarker = final.atEnd final.player.endTime := by
  obtain ⟨track, decoded⟩ := isSome_iff_exists.mp
    (show (decode plainJson (markedConfig (some 1000)).track).isSome by decide +kernel)
  refine ⟨_, rfl, ?_⟩
  exact (end_marker_follows_player none "" newStage plainJson (markedConfig (some 1000)) track
    decoded storesEndTime _ rfl).mpr rfl

/-- The monitor knows of no end time. -/
theorem stored_marker_ignored :
    (((playingSystem none "").run
        (newStage.startPlayback plainJson (markedConfig none) .found) storesEndTime).map
      fun final => (final.endsAtMarker, final.atEnd final.player.endTime)) =
        some (false, true) := by
  decide +kernel

/-- The loop counts its turns from one in a `u64`. -/
def MonitorCtx.sendsUpdate (ctx : MonitorCtx) (turn : Nat) : Bool :=
  turn % 2 ^ 64 % ctx.updateEveryN = 0

/-- Two turns that send, with none between them that does. -/
structure ConsecutiveUpdates (ctx : MonitorCtx) (first second : Nat) : Prop where
  ordered : first < second
  sends : ctx.sendsUpdate first
  again : ctx.sendsUpdate second
  quiet : ∀ turn, first < turn → turn < second → ctx.sendsUpdate turn = false

def tickNanos : Nat := 500 * 10 ^ 6

theorem ConsecutiveUpdates.distance {ctx : MonitorCtx} {first second : Nat}
    (updates : ConsecutiveUpdates ctx first second) (positive : 0 < ctx.updateEveryN)
    (fits : second < 2 ^ 64) : second = first + ctx.updateEveryN := by
  have multiple : ∀ {turn}, turn ≤ second →
      (ctx.sendsUpdate turn = true ↔ ctx.updateEveryN ∣ turn) := by
    intro turn bound
    rw [MonitorCtx.sendsUpdate, Nat.mod_eq_of_lt (show turn < 2 ^ 64 by omega), decide_eq_true_iff,
      Nat.dvd_iff_mod_eq_zero]
  have ordered := updates.ordered
  have low := (multiple ordered.le).mp updates.sends
  have high := (multiple le_rfl).mp updates.again
  have apart := Nat.le_of_dvd (by omega) (Nat.dvd_sub high low)
  by_contra different
  have next := (multiple (by omega)).mpr (Nat.dvd_add low (Nat.dvd_refl ctx.updateEveryN))
  rw [updates.quiet _ (by omega) (by omega)] at next
  cases next

/-- For an interval in nanoseconds and turns before the counter wraps.  The number of turns
is one of 20 ms, the turns are of 500 ms. -/
theorem update_cadence (config : PlaybackStartConfig) (track : Track) (interval first second : Nat)
    (asMillis : config.updateIntervalMs = interval / 10 ^ 6)
    (castExact : config.updateIntervalMs ≤ 20 * (2 ^ 64 - 1)) (fits : second < 2 ^ 64)
    (updates : ConsecutiveUpdates (stage.monitorCtx config track) first second) :
    interval ≤ (second - first) * tickNanos ∧
      ((second - first) * tickNanos < interval + tickNanos ↔
        0 < interval ∧ interval < 21 * 10 ^ 6) := by
  have every : (stage.monitorCtx config track).updateEveryN =
      (max (interval / 10 ^ 6) 20 + 19) / 20 := by
    simp only [Stage.monitorCtx, Stage.updateEveryN, asMillis] at castExact ⊢
    omega
  have apart := updates.distance (by omega) fits
  rw [every] at apart
  simp only [apart, Nat.add_sub_cancel_left, tickNanos]
  omega

def plainTrack : Track :=
  { encoded := "", info := unknownInfo "", pluginInfo := .null, userData := .null }

def monitorEvery (updateIntervalMs : Nat) : MonitorCtx :=
  newStage.monitorCtx { track := "", updateIntervalMs } plainTrack

theorem one_millisecond_in_time : (2 - 1) * tickNanos < 10 ^ 6 + tickNanos := by
  have updates : ConsecutiveUpdates (monitorEvery 1) 1 2 :=
    ⟨by decide, by decide, by decide, fun _ _ _ => by omega⟩
  exact (update_cadence newStage { track := "", updateIntervalMs := 1 } plainTrack (10 ^ 6) 1 2
    (by decide) (by decide) (by decide) updates).2.mpr (by decide)

/-- Five seconds become 250 turns, which take 125 seconds. -/
theorem five_seconds_late :
    ConsecutiveUpdates (monitorEvery 5000) 250 500 ∧
      ¬ (500 - 250) * tickNanos < 5 * 10 ^ 9 + tickNanos := by
  refine ⟨⟨by decide, by decide, by decide, fun turn above below => ?_⟩, by decide⟩
  have every : (monitorEvery 5000).updateEveryN = 250 := by decide
  rw [MonitorCtx.sendsUpdate, every, Nat.mod_eq_of_lt (show turn < 2 ^ 64 by omega),
    decide_eq_false_iff_not]
  omega

end KizunaLink.Player
