import KizunaLink.Player.TrackSections

/-!
# One TrackEnd for each TrackStart

Every step keeps the events of the tracks in order, so over a whole run a track
that was started and let go has ended once, after its start.
-/

set_option autoImplicit false

namespace KizunaLink.Player

open KizunaLink.Lib Option

namespace PlayerTracks

variable {player : PlayerTracks}

theorem EndsSafe.acquire (safe : player.EndsSafe) (free : player.holder = none) {op : TrackOp}
    (condition : player.AcquireApart op) : (player.acquire op).EndsSafe := by
  cases op with
  | play decodes noReplace => exact safe.beginPlay free decodes noReplace condition
  | patchStop => exact safe.beginStop condition
  | wsStop =>
    refine safe.stopTrack free fun playback isInfo => ?_
    cases condition.symm.trans isInfo
  | delete => exact safe.cleanUp free condition
  | destroy => exact safe.stopTrack free condition

theorem EndsSafe.proceed (safe : player.EndsSafe) {holder : Holder}
    (held : player.holder = some holder) (found : Bool) :
    (player.proceed holder found).EndsSafe := by
  cases holder with
  | replacing decodes =>
    have place := safe.place
    simp only [Place, held] at place
    refine safe.replace (fun playback info => ?_) decodes
    have announced : player.Announced playback := ⟨place.1 playback info, info⟩
    exact ⟨announced, place.2 playback announced⟩
  | resolving playback =>
    cases found with
    | true => exact safe.launch held
    | false => exact safe.sendLoadFailed held
  | stopping track => exact safe.finishStop held

theorem EndsSafe.step {next : PlayerTracks} {act : TrackAct} (safe : player.EndsSafe)
    (condition : player.EndsApart act) (stepped : player.step act = some next) :
    next.EndsSafe := by
  cases act with
  | request op =>
    obtain ⟨-, rfl⟩ := ite_some_none_eq_some.mp stepped
    exact safe.queue _ player.inMap
  | wsDestroy =>
    obtain ⟨-, rfl⟩ := ite_some_none_eq_some.mp stepped
    exact safe.queue _ false
  | acquire index =>
    simp only [PlayerTracks.step] at stepped
    split at stepped
    case isTrue free =>
      obtain ⟨op, found, rfl⟩ := map_eq_some_iff.mp stepped
      have apart : player.AcquireApart op := condition op found
      exact (safe.queue (player.waiting.eraseIdx index) player.inMap).acquire free apart
    case isFalse => cases stepped
  | proceed found =>
    obtain ⟨holder, held, rfl⟩ := map_eq_some_iff.mp stepped
    exact safe.proceed held found
  | decoderEnds playback =>
    cases stepped
    exact safe.calm (calmer_modifyAt _ _ calming_stopped)
  | tick playback marker failed stuck other =>
    simp only [PlayerTracks.step] at stepped
    split at stepped
    case h_1 entry found =>
      split at stepped
      case isTrue runs =>
        cases stepped
        exact safe.tick found runs.1 runs.2 marker failed stuck other (condition entry found)
      case isFalse => cases stepped
    case h_2 => cases stepped
  | clear playback =>
    simp only [PlayerTracks.step] at stepped
    split at stepped
    case h_1 signal stopped own reason found =>
      split at stepped
      case isTrue => cases stepped
      case isFalse free =>
        cases stepped
        refine safe.clear found rfl rfl fun isOwn => ?_
        by_contra held
        exact free ⟨isOwn, held⟩
    case h_2 => cases stepped

end PlayerTracks

theorem PlayerTracks.new_endsSafe : ({} : PlayerTracks).EndsSafe := by
  apply endsSafe_empty rfl rfl rfl rfl
  · exact nofun
  · exact nofun
  · exact fun playback => .inl rfl
  · exact fun playback _ => rfl

theorem PlayerTracks.Told.ended {player : PlayerTracks} (told : player.Told) {playback : Nat}
    (started : .trackStart playback ∈ player.log) (left : ¬ player.Announced playback) :
    player.Ended playback := by
  have sent : TrackEvent.trackStart playback ∈ player.eventsOf playback :=
    List.mem_filter.mpr ⟨started, by simp [TrackEvent.playback]⟩
  by_cases current : player.track = some playback
  · rw [told.silent playback current left] at sent
    cases sent
  · rcases told.settled playback current with nothing | ⟨reason, onlyEnd⟩ | ended
    · rw [nothing] at sent
      cases sent
    · simp [onlyEnd] at sent
    · exact ended

/-- Under the condition every TrackStart is followed by at most one TrackEnd for its
track, and by exactly one when the player has let go of the track. -/
theorem started_track_ends_once (acts : List TrackAct) (player : PlayerTracks)
    (reached : trackSystem.run {} acts = some player)
    (meets : trackSystem.Meets PlayerTracks.EndsApart {} acts) (playback : Nat)
    (started : .trackStart playback ∈ player.log) :
    (player.eventsOf playback = [.trackStart playback] ∨ player.Ended playback) ∧
      (player.trackHandle ≠ some playback → player.Ended playback) := by
  have safe : player.EndsSafe :=
    trackSystem.run_invariant PlayerTracks.EndsApart PlayerTracks.EndsSafe
      (fun safe => safe.step) acts PlayerTracks.new_endsSafe meets reached
  constructor
  · by_cases announced : player.Announced playback
    · by_cases cleaning : player.cleaning = some playback
      · exact .inr (safe.told.cleaned playback announced cleaning)
      · exact .inl (safe.told.started playback announced cleaning)
    · exact .inr (safe.told.ended started announced)
  · intro released
    exact safe.told.ended started fun announced => released announced.1

def playFirst : List TrackAct := [.request (.play true false), .acquire 0, .proceed true]

/-- A track is replaced, the second one ends by itself, and the third one by DELETE. -/
def threeTracks : List TrackAct :=
  playFirst ++ [.request (.play true false), .acquire 0, .proceed true, .proceed true,
    .decoderEnds 1, .tick 1 false false false false, .clear 1] ++ playFirst ++
    [.request .delete, .acquire 0, .acquire 0]

theorem three_tracks_end_once :
    ∃ player, trackSystem.run {} threeTracks = some player ∧
      player.log = [.trackStart 0, .trackEnd 0 .replaced, .trackStart 1, .trackEnd 1 .finished,
        .trackStart 2, .trackEnd 2 .cleanup] ∧
      ∀ playback < 3, player.Ended playback := by
  have ended : (trackSystem.run {} threeTracks).map
      (fun player => (player.trackHandle, player.log)) =
      some (none, [.trackStart 0, .trackEnd 0 .replaced, .trackStart 1, .trackEnd 1 .finished,
        .trackStart 2, .trackEnd 2 .cleanup]) := by decide
  obtain ⟨player, reached, ended⟩ := map_eq_some_iff.mp ended
  simp only [Prod.mk.injEq] at ended
  obtain ⟨noHandle, log⟩ := ended
  refine ⟨player, reached, log, fun playback early => ?_⟩
  have started : TrackEvent.trackStart playback ∈ player.log := by
    rcases (by omega : playback = 0 ∨ playback = 1 ∨ playback = 2) with rfl | rfl | rfl
    all_goals simp [log]
  exact (started_track_ends_once threeTracks player reached (by decide) playback started).2
    (by simp [noHandle])

def stopByWebSocket : List TrackAct := playFirst ++ [.request .wsStop, .acquire 0]

def destroyByWebSocket : List TrackAct := playFirst ++ [.wsDestroy, .acquire 0]

/-- The decoder has ended, and another track is played before the next tick. -/
def replaceStopped : List TrackAct :=
  playFirst ++ [.decoderEnds 0, .request (.play true false), .acquire 0]

/-- The monitor waits for the lock to clear the player, and PATCH stop has it first. -/
def stopBeforeClear : List TrackAct :=
  playFirst ++ [.decoderEnds 0, .tick 0 false false false false, .request .patchStop, .acquire 0,
    .proceed true, .clear 0]

/-- Two DELETE requests read the player before one of them destroys it. -/
def deleteTwice : List TrackAct :=
  playFirst ++ [.request .delete, .request .delete, .acquire 0, .acquire 0, .acquire 0]

def sentEvents (acts : List TrackAct) : Option (Option Nat × List TrackEvent) :=
  (trackSystem.run {} acts).map fun player => (player.trackHandle, player.eventsOf 0)

theorem overlapping_ends :
    sentEvents stopByWebSocket = some (none, [.trackStart 0]) ∧
      sentEvents destroyByWebSocket = some (none, [.trackStart 0]) ∧
      sentEvents replaceStopped = some (none, [.trackStart 0]) ∧
      sentEvents stopBeforeClear =
        some (none, [.trackStart 0, .trackEnd 0 .stopped, .trackEnd 0 .finished]) ∧
      sentEvents deleteTwice =
        some (none, [.trackStart 0, .trackEnd 0 .cleanup, .trackEnd 0 .cleanup]) := by
  decide

theorem stop_before_clear_ends_twice :
    ¬ ∀ (acts : List TrackAct) (player : PlayerTracks),
      trackSystem.run {} acts = some player →
        ∀ playback, .trackStart playback ∈ player.log →
          (player.eventsOf playback = [.trackStart playback] ∨ player.Ended playback) ∧
            (player.trackHandle ≠ some playback → player.Ended playback) := by
  intro claim
  obtain ⟨player, reached, ended⟩ := map_eq_some_iff.mp overlapping_ends.2.2.2.1
  simp only [Prod.mk.injEq] at ended
  obtain ⟨noHandle, events⟩ := ended
  have started : TrackEvent.trackStart 0 ∈ player.log := by
    have sent : TrackEvent.trackStart 0 ∈ player.eventsOf 0 := by simp [events]
    exact (List.mem_filter.mp sent).1
  obtain ⟨reason, once⟩ := (claim _ player reached 0 started).2 (by simp [noHandle])
  simp [events] at once

end KizunaLink.Player
