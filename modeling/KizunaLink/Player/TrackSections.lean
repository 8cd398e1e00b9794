import KizunaLink.Player.TrackControl

/-!
# Sections and monitors

What the operations do while they hold the player lock, and what the monitor of a
playback does, keeps the control over the track and completes the events of a
track that is let go.
-/

set_option autoImplicit false

namespace KizunaLink.Player

open Option

namespace PlayerTracks

variable {player : PlayerTracks}

/-! ## The sections of the operations -/

variable {entry : Playback} {playbacks : List Playback} {playback : Nat}

theorem Place.handle_of_info (place : player.Place) (free : player.holder = none)
    (info : player.trackInfo = some playback) : player.Announced playback := by
  simp only [Place, free] at place
  exact ⟨place playback info, info⟩

section

variable (safe : player.EndsSafe)
include safe

theorem EndsSafe.stopTrack (free : player.holder = none)
    (cleaned : ∀ playback ∈ player.trackInfo, player.cleaning = some playback) :
    player.stopTrack.EndsSafe := by
  apply endsSafe_dropTrack safe.control _ safe.told.fresh free
  exact safe.told.settle fun playback announced => cleaned playback announced.2

theorem EndsSafe.replace (first : ∀ playback, player.trackInfo = some playback →
      player.Announced playback ∧ player.cleaning ≠ some playback) (decodes : Bool) :
    ((player.stopCurrentTrack true).armTrack decodes).EndsSafe := by
  simp only [stopCurrentTrack]
  split
  case h_1 info _ isInfo =>
    have isTrack := safe.control.info info isInfo
    have old := (safe.control.track info isTrack).2
    exact endsSafe_armTrack (safe.control.send _)
      (safe.told.settle_end isTrack (fun _ => (first info isInfo).2) .replaced)
      (safe.told.fresh_send _ old) decodes
  case h_2 noInfo =>
    apply endsSafe_armTrack safe.control _ safe.told.fresh decodes
    apply safe.told.settle
    intro playback announced
    exact absurd announced.2 (noInfo playback rfl)

theorem EndsSafe.beginPlay (free : player.holder = none)
    (decodes noReplace : Bool) (condition : player.AcquireApart (.play decodes noReplace)) :
    (player.acquire (.play decodes noReplace)).EndsSafe := by
  have announced : ∀ playback, player.trackInfo = some playback →
      player.Announced playback := fun playback info => safe.place.handle_of_info free info
  simp only [acquire]
  split
  case isTrue => exact safe
  case isFalse replaces =>
    have apart : ∀ playback, player.trackInfo = some playback →
        player.cleaning ≠ some playback ∧
          ∀ entry ∈ player.playbacks[playback]?, entry.stopped = false := by
      intro playback info
      refine condition ?_ playback info
      simpa [safe.control.info playback info] using replaces
    split
    case isTrue =>
      refine ⟨safe.control.calm _ (.refl _), safe.told.calm _ (.refl _), ?_, ?_⟩
      · exact fun playback info => (announced playback info).1
      · exact fun playback isAnnounced => (apart playback isAnnounced.2).1
    case isFalse silent =>
      -- an announced track would have a live handle and so be playing
      apply endsSafe_armTrack safe.control _ safe.told.fresh decodes
      apply safe.told.settle
      intro playback isAnnounced
      have old := (safe.control.track playback (safe.control.info playback isAnnounced.2)).2
      have found := List.getElem?_eq_getElem old
      have live := (apart playback isAnnounced.2).2 _ found
      simp [playing, isAnnounced.1, found, live] at silent

theorem EndsSafe.calm (calmer : Calmer player.playbacks playbacks) :
    EndsSafe { player with playbacks } := by
  refine ⟨safe.control.calm player.holder calmer, safe.told.calm player.holder calmer, ?_⟩
  have place := safe.place
  simp only [Place] at place ⊢
  split
  case h_1 free =>
    rw [free] at place
    exact place
  case h_2 decodes held =>
    rw [held] at place
    exact place
  case h_3 playback held =>
    rw [held] at place
    exact place
  case h_4 track held =>
    rw [held] at place
    refine ⟨place.1, fun playback announced => ⟨(place.2 playback announced).1, ?_⟩⟩
    intro later found active
    obtain ⟨entry, foundEntry, entryActive, _⟩ := calmer.entries playback later found active
    exact (place.2 playback announced).2 entry foundEntry entryActive

theorem EndsSafe.beginStop (condition : player.AcquireApart .patchStop) :
    player.beginStop.EndsSafe := by
  simp only [PlayerTracks.beginStop]
  split
  case h_1 noHandle =>
    refine ⟨safe.control.calm _ (.refl _), safe.told.calm _ (.refl _), rfl, ?_⟩
    rintro playback ⟨handle, _⟩
    cases noHandle.symm.trans handle
  case h_2 handle isHandle =>
    have calmer := (calmer_modifyAt player.playbacks player.stopSignal calming_signal).trans
      (calmer_modifyAt _ (some handle) calming_stopped)
    refine ⟨safe.control.calm _ calmer, safe.told.calm _ calmer, rfl, ?_⟩
    intro playback announced
    obtain ⟨apart, notClearing⟩ := condition playback announced.2
    refine ⟨apart, fun later found active => ?_⟩
    obtain ⟨entry, foundEntry, _, sameMonitor⟩ := calmer.entries playback later found active
    have signal := (safe.control.track playback (safe.control.info playback announced.2)).1
    rcases active.2 with ⟨_, unsignalled⟩ | clearing
    · simp only [modifyPlayback, getElem?_modifyAt, foundEntry, signal, map_some, if_true,
        Option.some.injEq] at found
      rw [← found] at unsignalled
      split at unsignalled <;> cases unsignalled
    · rw [sameMonitor, notClearing entry foundEntry] at clearing
      cases clearing

theorem EndsSafe.finishStop {track : Option Nat}
    (held : player.holder = some (.stopping track)) : (player.finishStop track).EndsSafe := by
  have place := safe.place
  simp only [Place, held] at place
  obtain ⟨rfl, apart⟩ := place
  -- the signal set at the beginning has silenced the only monitor that could act
  have inactive : ∀ (playback : Nat) (entry : Playback),
      player.playbacks[playback]? = some entry → ¬ entry.Active := by
    intro playback entry found active
    have announced := (safe.control.monitors playback entry found active).1
    exact (apart playback announced).2 entry found active
  simp only [PlayerTracks.finishStop]
  split
  case h_1 noTrack =>
    refine endsSafe_empty rfl rfl rfl rfl safe.control.cleaning inactive ?_ safe.told.fresh
    apply safe.told.settle
    intro playback announced
    cases noTrack.symm.trans (safe.control.info playback announced.2)
  case h_2 playback isTrack =>
    have old := (safe.control.track playback isTrack).2
    exact endsSafe_empty rfl rfl rfl rfl safe.control.cleaning inactive
      (safe.told.settle_end isTrack (fun announced => (apart playback announced).1) .stopped)
      (safe.told.fresh_send _ old)

theorem EndsSafe.queue (waiting : List TrackOp) (inMap : Bool) :
    EndsSafe { player with waiting, inMap } :=
  ⟨⟨safe.control.handle, safe.control.info, safe.control.track, safe.control.cleaning,
    safe.control.monitors⟩, ⟨safe.told.fresh, safe.told.silent, safe.told.started,
    safe.told.cleaned, safe.told.settled⟩, safe.place⟩

theorem EndsSafe.sendCleanup (free : player.holder = none) {info : Nat}
    (isInfo : player.trackInfo = some info) (apart : player.cleaning ≠ some info)
    (notClearing : ∀ entry ∈ player.playbacks[info]?, entry.monitor.isClearing = false) :
    EndsSafe { player.send (.trackEnd info .cleanup) with cleaning := some info } := by
  have announced := safe.place.handle_of_info free isInfo
  have isTrack := safe.control.info info isInfo
  have old := (safe.control.track info isTrack).2
  have only : ∀ playback, player.Announced playback → playback = info := by
    intro playback other
    exact Option.some.inj (other.2.symm.trans isInfo)
  have sent := safe.told.settle_end isTrack (fun _ => apart) .cleanup
  refine ⟨⟨safe.control.handle, safe.control.info, safe.control.track, ?_, ?_⟩,
    ⟨safe.told.fresh_send _ old, ?_, ?_, ?_, fun playback _ => sent playback⟩, ?_⟩
  · intro playback isCleaning
    cases isCleaning
    exact old
  · intro playback entry found active
    obtain ⟨isAnnounced, task, _⟩ := safe.control.monitors playback entry found active
    refine ⟨isAnnounced, task, fun own reason clearing => ?_⟩
    cases only playback isAnnounced
    have impossible := notClearing entry found
    rw [clearing] at impossible
    cases impossible
  · intro playback current unannounced
    cases Option.some.inj (isTrack.symm.trans current)
    exact absurd announced unannounced
  · intro playback isAnnounced notCleaning
    cases only playback isAnnounced
    exact absurd rfl notCleaning
  · intro playback isAnnounced _
    cases only playback isAnnounced
    refine ⟨.cleanup, ?_⟩
    have ended : (player.send (.trackEnd info .cleanup)).eventsOf info =
        player.eventsOf info ++ [.trackEnd info .cleanup] := eventsOf_send rfl
    rw [safe.told.started info announced apart] at ended
    exact ended
  · have place := safe.place
    simp only [Place, free] at place
    simp only [Place, send, free]
    exact place

theorem EndsSafe.cleanUp (free : player.holder = none)
    (condition : player.AcquireApart .delete) : player.cleanUp.EndsSafe := by
  simp only [PlayerTracks.cleanUp]
  split
  case h_1 track info isTrack isInfo =>
    obtain ⟨apart, _, notClearing⟩ := condition info isInfo
    have sent := safe.sendCleanup free isInfo apart notClearing
    split
    · exact sent.queue _ false
    · exact sent
  case h_2 =>
    split
    · exact safe.queue _ false
    · exact safe

end

theorem Control.inactive_of_noHandle (control : player.Control)
    (noHandle : player.trackHandle = none) (playback : Nat) (entry : Playback)
    (found : player.playbacks[playback]? = some entry) : ¬ entry.Active := by
  intro active
  have handle := (control.monitors playback entry found active).1.1
  rw [noHandle] at handle
  cases handle

section

variable (safe : player.EndsSafe)
include safe

section

variable (held : player.holder = some (.resolving playback))
include held

theorem EndsSafe.sendLoadFailed : (sendLoadFailed { player with holder := none }).EndsSafe := by
  have place := safe.place
  simp only [Place, held] at place
  obtain ⟨isTrack, noHandle, _⟩ := place
  have control := safe.control.calm none (.refl _)
  simp only [PlayerTracks.sendLoadFailed]
  split
  case h_1 noInfo =>
    refine ⟨control, safe.told.calm none (.refl _), ?_⟩
    intro other isInfo
    cases noInfo.symm.trans isInfo
  case h_2 info isInfo =>
    have infoTrack := safe.control.info info isInfo
    have old := (safe.control.track info infoTrack).2
    apply endsSafe_dropTrack (control.send _)
    · apply safe.told.settle_end infoTrack
      intro announced
      cases noHandle.symm.trans announced.1
    · exact safe.told.fresh_send _ old
    · rfl

theorem EndsSafe.launchSilent (noInfo : player.trackInfo = none)
    (calmer : Calmer player.playbacks playbacks) :
    EndsSafe { player with holder := none, playbacks, trackHandle := some playback } := by
  have place := safe.place
  simp only [Place, held] at place
  obtain ⟨isTrack, noHandle, _⟩ := place
  have control := safe.control.calm none calmer
  have told := safe.told.calm none calmer
  refine ⟨{ control with handle := ?_, monitors := ?_ },
    ⟨told.fresh, ?_, ?_, ?_, told.settled⟩, ?_⟩
  · intro other isHandle
    cases isHandle
    exact isTrack
  · intro other entry found active
    exact absurd active (control.inactive_of_noHandle noHandle other entry found)
  · intro other current _
    refine told.silent other current ?_
    rintro ⟨handle, _⟩
    cases noHandle.symm.trans handle
  · rintro other ⟨_, info⟩
    cases noInfo.symm.trans info
  · rintro other ⟨_, info⟩
    cases noInfo.symm.trans info
  · intro other info
    cases noInfo.symm.trans info

theorem EndsSafe.launchAnnounced (isInfo : player.trackInfo = some playback)
    (calmer : Calmer player.playbacks playbacks) :
    EndsSafe
      { player.send (.trackStart playback) with
        holder := none
        trackHandle := some playback
        trackTask := some playback
        playbacks := modifyAt playbacks (some playback) fun entry =>
          { entry with monitor := .ticking } } := by
  have place := safe.place
  simp only [Place, held] at place
  obtain ⟨isTrack, noHandle, notCleaning⟩ := place
  have control := safe.control.calm none calmer
  have told := safe.told.calm none calmer
  have unannounced : ¬ player.Announced playback := by
    rintro ⟨handle, _⟩
    cases noHandle.symm.trans handle
  have old := (safe.control.track playback isTrack).2
  refine ⟨⟨?_, control.info, ?_, ?_, ?_⟩, ⟨?_, ?_, ?_, ?_, ?_⟩, ?_⟩
  · intro other isHandle
    cases isHandle
    exact isTrack
  · intro other current
    rw [length_modifyAt]
    exact control.track other current
  · intro other isCleaning
    rw [length_modifyAt]
    exact control.cleaning other isCleaning
  · intro other later found active
    rw [getElem?_modifyAt] at found
    obtain ⟨entry, foundEntry, rfl⟩ := map_eq_some_iff.mp found
    split at active
    case isTrue same =>
      cases same
      rw [if_pos rfl]
      exact ⟨⟨rfl, isInfo⟩, rfl, by simp⟩
    case isFalse =>
      exact absurd active (control.inactive_of_noHandle noHandle other entry foundEntry)
  · intro other new
    rw [length_modifyAt, calmer.length] at new
    exact safe.told.fresh_send (.trackStart playback) old other new
  · intro other current silent
    cases Option.some.inj (isTrack.symm.trans current)
    exact absurd ⟨rfl, isInfo⟩ silent
  · rintro other ⟨handle, _⟩ _
    cases handle
    have sent : (player.send (.trackStart playback)).eventsOf playback =
        player.eventsOf playback ++ [.trackStart playback] := eventsOf_send rfl
    rw [safe.told.silent playback isTrack unannounced] at sent
    exact sent
  · rintro other ⟨handle, _⟩ isCleaning
    cases handle
    exact absurd isCleaning notCleaning
  · intro other notTrack
    have different : playback ≠ other := by
      rintro rfl
      exact notTrack isTrack
    have settled : (player.send (.trackStart playback)).Settled other :=
      (safe.told.settled other notTrack).send_other different
    exact settled
  · intro other info
    exact isInfo.symm.trans info

theorem EndsSafe.launch :
    (PlayerTracks.launch { player with holder := none } playback).EndsSafe := by
  have calmer := calmer_modifyAt player.playbacks (some playback) calming_playing
  have place := safe.place
  simp only [Place, held] at place
  simp only [PlayerTracks.launch]
  split
  case h_1 noInfo => exact safe.launchSilent held noInfo calmer
  case h_2 info isInfo =>
    cases Option.some.inj (place.1.symm.trans (safe.control.info info isInfo))
    exact safe.launchAnnounced held isInfo calmer

end

theorem EndsSafe.awaitClear
    (found : player.playbacks[playback]? = some entry) (active : entry.Active)
    (apart : player.cleaning ≠ some playback) {change : Playback → Playback}
    {reason : TrackEndReason} (clearing : (change entry).monitor = .clearing true reason) :
    EndsSafe { player with playbacks := modifyAt player.playbacks (some playback) change } := by
  obtain ⟨announced, task, _⟩ := safe.control.monitors playback entry found active
  refine ⟨⟨safe.control.handle, safe.control.info, ?_, ?_, ?_⟩, ⟨?_, safe.told.silent,
    safe.told.started, safe.told.cleaned, safe.told.settled⟩, ?_⟩
  · intro other isTrack
    rw [length_modifyAt]
    exact safe.control.track other isTrack
  · intro other isCleaning
    rw [length_modifyAt]
    exact safe.control.cleaning other isCleaning
  · intro other later foundLater laterActive
    rw [getElem?_modifyAt] at foundLater
    obtain ⟨before, foundBefore, rfl⟩ := map_eq_some_iff.mp foundLater
    split at laterActive
    case isTrue same =>
      cases same
      cases Option.some.inj (found.symm.trans foundBefore)
      rw [if_pos rfl]
      refine ⟨announced, task, fun own why isClearing => ?_⟩
      cases clearing.symm.trans isClearing
      exact ⟨rfl, apart⟩
    case isFalse different =>
      rw [if_neg different]
      exact safe.control.monitors other before foundBefore laterActive
  · intro other new
    rw [length_modifyAt] at new
    exact safe.told.fresh other new
  · have place := safe.place
    simp only [Place] at place ⊢
    split
    case h_1 free =>
      rw [free] at place
      exact place
    case h_2 decodes held =>
      rw [held] at place
      exact place
    case h_3 resolving held =>
      rw [held] at place
      exact place
    case h_4 track held =>
      rw [held] at place
      exact absurd active ((place.2 playback announced).2 entry found)

end

theorem beginClear_inMap (playback : Nat) (reason : TrackEndReason) (other : Bool)
    (inMap : player.inMap = true) :
    player.beginClear playback reason other =
      player.modifyPlayback (some playback) fun entry =>
        { entry with monitor := .clearing true reason } := by
  simp [beginClear, inMap]

theorem EndsSafe.tick (safe : player.EndsSafe) (found : player.playbacks[playback]? = some entry)
    (ticking : entry.monitor = .ticking) (running : entry.aborted = false)
    (marker failed stuck other : Bool)
    (condition : entry.stopSignal = false → entry.stopped = true ∨ marker = true →
      player.inMap = true ∧ player.cleaning ≠ some playback) :
    (player.tick playback entry marker failed stuck other).EndsSafe := by
  simp only [PlayerTracks.tick]
  split
  case isTrue => exact safe.calm (calmer_modifyAt _ _ calming_done)
  case isFalse unsignalled =>
    have noSignal : entry.stopSignal = false := by simpa using unsignalled
    have active : entry.Active := ⟨running, .inl ⟨ticking, noSignal⟩⟩
    split
    case isTrue stopped =>
      obtain ⟨inMap, apart⟩ := condition noSignal (.inl stopped)
      rw [beginClear_inMap _ _ _ inMap]
      exact safe.awaitClear found active apart rfl
    case isFalse =>
      split
      case isTrue atMarker =>
        obtain ⟨inMap, apart⟩ := condition noSignal (.inr atMarker)
        rw [beginClear_inMap]
        · simp only [modifyPlayback, modifyAt_modifyAt]
          exact safe.awaitClear found active apart rfl
        · exact inMap
      case isFalse =>
        split
        · exact safe.calm (calmer_modifyAt _ _ calming_stopped)
        · exact safe

theorem EndsSafe.clear (safe : player.EndsSafe) {own : Bool} {reason : TrackEndReason}
    (found : player.playbacks[playback]? = some entry)
    (clearing : entry.monitor = .clearing own reason) (running : entry.aborted = false)
    (free : own = true → player.holder = none) : (player.clear playback own reason).EndsSafe := by
  have active : entry.Active := ⟨running, .inr (by rw [clearing]; rfl)⟩
  obtain ⟨announced, task, atClear⟩ := safe.control.monitors playback entry found active
  obtain ⟨rfl, apart⟩ := atClear own reason clearing
  have isTrack := safe.control.info playback announced.2
  have old := (safe.control.track playback isTrack).2
  have calmer := calmer_modifyAt player.playbacks (some playback) calming_done
  simp only [PlayerTracks.clear, announced.1, decide_true, Bool.and_self, if_true]
  refine endsSafe_empty rfl rfl rfl (free rfl) ?_ ?_
    (safe.told.settle_end isTrack (fun _ => apart) reason) ?_
  · exact (safe.control.calm none calmer).cleaning
  · intro other later foundLater laterActive
    obtain ⟨before, foundBefore, activeBefore, _⟩ :=
      calmer.entries other later foundLater laterActive
    have isAnnounced := (safe.control.monitors other before foundBefore activeBefore).1
    cases Option.some.inj (announced.1.symm.trans isAnnounced.1)
    simp only [send, modifyPlayback, getElem?_modifyAt, found, map_some, if_true,
      Option.some.injEq] at foundLater
    rw [← foundLater] at laterActive
    exact absurd (calming_done entry laterActive).2 (by simp [clearing])
  · intro other new
    simp only [send, modifyPlayback, length_modifyAt] at new
    exact safe.told.fresh_send (.trackEnd playback reason) old other new

end PlayerTracks

end KizunaLink.Player
