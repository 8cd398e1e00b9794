import KizunaLink.Player.AllOrNothing

/-!
# Positions in milliseconds and in samples

`TrackHandle::seek` turns milliseconds into samples and `get_position` turns them back,
both with a product of `u64` before the quotient (engine/playback/handle.rs).  The second
product never wraps.  The first one wraps for a position of more than about twelve thousand
years, and exactly for these the position that is read back is another one.
-/

set_option autoImplicit false

namespace KizunaLink.Player

namespace TrackHandle

variable (handle : TrackHandle) (positionMs : Nat)

theorem seek_position_lt : (handle.seek positionMs).position * 1000 < 2 ^ 64 := by
  have wrapped : positionMs * 48000 % 2 ^ 64 < 2 ^ 64 := Nat.mod_lt _ (by decide)
  have rounded := Nat.div_mul_le_self (positionMs * 48000 % 2 ^ 64) 1000
  exact rounded.trans_lt wrapped

theorem getPosition_seek : (handle.seek positionMs).getPosition =
    positionMs * 48000 % 2 ^ 64 / 1000 * 1000 / 48000 := by
  rw [getPosition, Nat.mod_eq_of_lt (handle.seek_position_lt positionMs)]
  rfl

/-- A millisecond is 48 samples, so nothing is lost by rounding. -/
theorem getPosition_seek_of_lt (fits : positionMs * 48000 < 2 ^ 64) :
    (handle.seek positionMs).getPosition = positionMs := by
  have samples : positionMs * 48000 / 1000 * 1000 = positionMs * 48000 := by omega
  rw [getPosition_seek, Nat.mod_eq_of_lt fits, samples, Nat.mul_div_cancel _ (by decide)]

theorem getPosition_seek_lt (wraps : 2 ^ 64 ≤ positionMs * 48000) :
    (handle.seek positionMs).getPosition < positionMs := by
  have small := handle.seek_position_lt positionMs
  rw [getPosition_seek, Nat.div_lt_iff_lt_mul (by decide)]
  exact small.trans_le wraps

theorem getPosition_seek_iff :
    (handle.seek positionMs).getPosition = positionMs ↔ positionMs * 48000 < 2 ^ 64 := by
  constructor
  · intro unchanged
    by_contra wraps
    have smaller := handle.getPosition_seek_lt positionMs (Nat.le_of_not_lt wraps)
    omega
  · exact handle.getPosition_seek_of_lt positionMs

end TrackHandle

theorem handlePlayerState_handle (stage : Stage) (body : PlayerUpdate) (now : Nat)
    {handle : TrackHandle} (held : stage.player.trackHandle = some handle) {positionMs : Nat}
    (sought : body.position = some positionMs) (same : body.loadingNewTrack = false) :
    (stage.handlePlayerState body now).player.trackHandle.map TrackHandle.position =
      some (handle.seek positionMs).position := by
  rw [Stage.handlePlayerState_player, PlayerContext.applyState,
    PlayerContext.applyVolume_handle _ fun _ _ => rfl,
    PlayerContext.applyPaused_handle _ (fun _ _ => rfl) (fun _ _ => rfl)]
  simp [PlayerContext.applyPosition, sought, same, PlayerContext.seek, held]

/-- After a request that seeks a running track, the product of the second conversion fits,
and the position that was asked for is read back exactly if the first product fits. -/
theorem handlePlayerState_seek_exact (stage : Stage) (body : PlayerUpdate) (now : Nat)
    {handle : TrackHandle} (held : stage.player.trackHandle = some handle) {positionMs : Nat}
    (sought : body.position = some positionMs) (same : body.loadingNewTrack = false) :
    ∃ after, (stage.handlePlayerState body now).player.trackHandle = some after ∧
      after.position * 1000 < 2 ^ 64 ∧
      (after.getPosition = positionMs ↔ positionMs * 48000 < 2 ^ 64) := by
  obtain ⟨after, stored, position⟩ :=
    Option.map_eq_some_iff.mp (handlePlayerState_handle stage body now held sought same)
  have read : after.getPosition = (handle.seek positionMs).getPosition := by
    rw [TrackHandle.getPosition, position, TrackHandle.getPosition]
  refine ⟨after, stored, ?_, ?_⟩
  · rw [position]
    exact handle.seek_position_lt positionMs
  · rw [read]
    exact handle.getPosition_seek_iff positionMs

def runningStage : Stage where
  player := { PlayerContext.new "1" ⟨false, 10000, false⟩ with trackHandle := some { number := 0 } }
  fresh := 1

/-- The largest position whose first product fits. -/
theorem largest_position_exact :
    ∃ after,
      (runningStage.handlePlayerState { position := some 384307168202282 } 0).player.trackHandle =
        some after ∧
      after.getPosition = 384307168202282 := by
  obtain ⟨after, stored, _, exact⟩ := handlePlayerState_seek_exact runningStage
    { position := some 384307168202282 } 0 rfl rfl rfl
  exact ⟨after, stored, exact.mpr (by decide)⟩

/-- One millisecond more is read back as the start of the track. -/
theorem next_position_wraps :
    (runningStage.handlePlayerState { position := some 384307168202283 } 0).player.trackHandle.map
      TrackHandle.getPosition = some 0 := by
  decide

end KizunaLink.Player
