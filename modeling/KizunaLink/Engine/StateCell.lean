import KizunaLink.Engine.TrackSteps

/-!
# The state cell under concurrent calls

The calls of `TrackHandle` (engine/playback/handle.rs) with each load and each
store as a step of its own.  `play` and `pause` load the tape flag and store
afterwards; `get_state` loads the cell, looks at the command channel, and stores
afterwards.  The mixer and the decoder are those of `trackSystem`, whose handle
calls are the uninterrupted ones.

A call belongs to some task, and any number of them may be under way.  What they
have in common is what they have loaded: the stores that `play` and `pause` are
about to make, and how many calls of `get_state` are at each of their points.

`Stopped` is meant to be the last value of the cell.  A store that was decided
before the stop overwrites it, and then the mixer keeps a track that nobody owns.
-/

set_option autoImplicit false

namespace KizunaLink.Engine

open KizunaLink.Lib Option

/-- A call of `play` or `pause` with the tape flag that it has loaded. -/
inductive StateCall where
  | pause (tapeStop : Bool)
  | play (tapeStop : Bool)
  deriving DecidableEq, Repr

def StateCall.nextState : StateCall → PlaybackState
  | .pause tapeStop => if tapeStop then .stopping else .paused
  | .play tapeStop => if tapeStop then .starting else .playing

structure SharedTrack where
  track : Track
  tapeStopEnabled : Bool := false
  pendingStores : List StateCall := []
  readers : Nat := 0
  disconnected : Nat := 0
  deriving DecidableEq, Repr

/-- `engine` are the steps of the mixer and the decoder.  `stopTrack` is the part of
`Mixer::stop_track` and `stop_all` that concerns this track. -/
inductive CellAct where
  | engine (act : TrackAct)
  | setTapeStop (enabled : Bool)
  | beginPause
  | beginPlay
  | storeState (index : Nat)
  | stop
  | loadState
  | checkDisconnected
  | storeDisconnected
  | seek (positionMs : Nat)
  | stopTrack

/-- The calls that are split into their accesses here. -/
def TrackAct.ofHandle : TrackAct → Bool
  | .getState | .pause _ | .play _ => true
  | .push _ | .flush | .pushOpus _ | .dropEngine | .dropCommands | .retain _ | .load | .pull
  | .storeStopped _ | .storeRamp _ => false

namespace SharedTrack

variable (shared : SharedTrack)

def cell : PlaybackState := shared.track.cell

def setCell (state : PlaybackState) : SharedTrack :=
  { shared with track := { shared.track with cell := state } }

def begin (call : StateCall) : SharedTrack :=
  { shared with pendingStores := shared.pendingStores ++ [call] }

/-- A seek stores the position and sends a command; neither is part of this state.  The
mixer's own stop holds its lock, so no call of `mix` is under way. -/
def step : CellAct → Option SharedTrack
  | .engine act =>
    if act.ofHandle then none
    else (shared.track.step act).map fun track => { shared with track }
  | .setTapeStop enabled => some { shared with tapeStopEnabled := enabled }
  | .beginPause => some (shared.begin (.pause shared.tapeStopEnabled))
  | .beginPlay => some (shared.begin (.play shared.tapeStopEnabled))
  | .storeState index =>
    shared.pendingStores[index]?.map fun call =>
      { shared.setCell call.nextState with
        pendingStores := shared.pendingStores.eraseIdx index }
  | .stop => some (shared.setCell .stopped)
  | .loadState =>
    some (if shared.cell = .stopped then shared
      else { shared with readers := shared.readers + 1 })
  | .checkDisconnected =>
    if shared.readers = 0 then none
    else
      let shared := { shared with readers := shared.readers - 1 }
      some (if shared.track.commandsAlive then shared
        else { shared with disconnected := shared.disconnected + 1 })
  | .storeDisconnected =>
    if shared.disconnected = 0 then none
    else some { shared.setCell .stopped with disconnected := shared.disconnected - 1 }
  | .seek _ => some shared
  | .stopTrack =>
    if shared.track.inMixer ∧ shared.track.point = .idle then
      some { shared with track := { shared.track with cell := .stopped, inMixer := false } }
    else none

end SharedTrack

def cellSystem : System SharedTrack CellAct := ⟨SharedTrack.step⟩

def SharedTrack.new (capacity : Nat) : SharedTrack := { track := Track.new capacity }

namespace SharedTrack

variable {shared : SharedTrack}

/-! ## Stores that are on their way -/

theorem nextState_ne_stopped (call : StateCall) : call.nextState ≠ .stopped := by
  cases call with
  | pause tapeStop | play tapeStop => cases tapeStop <;> decide

/-- The current call of `mix` has loaded a state whose ramp it may end. -/
def rampPending (shared : SharedTrack) : Bool :=
  match shared.track.point with
  | .pulling loaded _ _ | .closing loaded | .ramping loaded =>
    loaded == .stopping || loaded == .starting
  | .idle | .retained _ => false

def storesStopped (shared : SharedTrack) : CellAct → Bool
  | .stop | .storeDisconnected | .stopTrack => true
  | .engine (.storeStopped tapeActive) =>
    shared.track.finished && shared.track.pending.isEmpty && !tapeActive
  | .engine (.push _) | .engine .flush | .engine (.pushOpus _) | .engine .dropEngine
  | .engine .dropCommands | .engine .getState | .engine (.pause _) | .engine (.play _)
  | .engine (.retain _) | .engine .load | .engine .pull | .engine (.storeRamp _)
  | .setTapeStop _ | .beginPause | .beginPlay | .storeState _ | .loadState | .checkDisconnected
  | .seek _ => false

def beginsStore : CellAct → Bool
  | .beginPause | .beginPlay => true
  | .engine _ | .setTapeStop _ | .storeState _ | .stop | .loadState | .checkDisconnected
  | .storeDisconnected | .seek _ | .stopTrack => false

/-- `Stopped` is stored when no `play` or `pause` is between its load and its store and no
call of `mix` is between its load of a ramping state and the end of the ramp; and no
`play` or `pause` begins after it. -/
structure Orderly (shared : SharedTrack) (act : CellAct) : Prop where
  stops : shared.storesStopped act = true →
    shared.pendingStores = [] ∧ shared.rampPending = false
  begins : beginsStore act = true → shared.cell ≠ .stopped

instance (act : CellAct) : Decidable (shared.Orderly act) :=
  decidable_of_iff
    ((shared.storesStopped act = true →
        shared.pendingStores = [] ∧ shared.rampPending = false) ∧
      (beginsStore act = true → shared.cell ≠ .stopped))
    ⟨fun both => ⟨both.1, both.2⟩, fun orderly => ⟨orderly.stops, orderly.begins⟩⟩

/-- When the cell holds `Stopped`, no other store is on its way. -/
def Settled (shared : SharedTrack) : Prop :=
  shared.cell = .stopped → shared.pendingStores = [] ∧ shared.rampPending = false

/-- A step after which `Stopped` is settled, and kept if it was there. -/
structure Advances (shared next : SharedTrack) : Prop where
  settled : next.Settled
  kept : shared.cell = .stopped → next.cell = .stopped

theorem rampPending_eq (shared : SharedTrack) :
    shared.rampPending = shared.track.point.loaded.any fun loaded =>
      loaded == .stopping || loaded == .starting := by
  unfold rampPending
  cases shared.track.point with
  | idle | retained _ | pulling _ _ _ | closing _ | ramping _ => rfl

theorem Settled.frame {next : SharedTrack} (settled : shared.Settled)
    (cell : next.cell = shared.cell) (stores : next.pendingStores = shared.pendingStores)
    (ramp : next.rampPending = true → shared.rampPending = true) : shared.Advances next := by
  refine ⟨fun stopped => ?_, fun stopped => cell.trans stopped⟩
  obtain ⟨none, noRamp⟩ := settled (cell ▸ stopped)
  refine ⟨stores.trans none, Bool.eq_false_iff.mpr fun pending => ?_⟩
  rw [ramp pending] at noRamp
  cases noRamp

theorem Settled.mix {track : Track} (settled : shared.Settled) {act : TrackAct}
    (orderly : shared.Orderly (.engine act)) (engine : act.ofHandle = false)
    (stepped : shared.track.step act = some track) :
    shared.Advances { shared with track } := by
  have steps := Track.stepped_of_step stepped
  have cell : Track.storesCell act = false → track.cell = shared.track.cell := steps.cell
  have ramp : Track.movesLoaded act = false →
      ({ shared with track } : SharedTrack).rampPending = shared.rampPending := by
    intro quiet
    rw [rampPending_eq, rampPending_eq, steps.loaded quiet]
  cases steps with
  | getState | pause _ | play _ => cases engine
  | push _ _ _ | flush _ | pushOpus _ _ | dropEngine | dropCommands _ | retain _ _ _
  | pull _ _ _ _ =>
    exact settled.frame (cell rfl) rfl fun pending => ramp rfl ▸ pending
  | load outLen retained =>
    rw [Track.load]
    split
    · exact settled.frame rfl rfl fun pending => by cases pending
    case isFalse plays =>
      -- a state that is mixed is not `Stopped`
      have running : shared.cell ≠ .stopped := fun stopped => plays (.inr stopped)
      exact ⟨fun stopped => absurd stopped running, fun stopped => absurd stopped running⟩
  | storeStopped loaded tapeActive closing =>
    cases stores : shared.storesStopped (.engine (.storeStopped tapeActive)) with
    | false =>
      have same : (shared.track.storeStopped loaded tapeActive).cell = shared.cell := by
        simp only [storesStopped] at stores
        simp [Track.storeStopped, stores, SharedTrack.cell]
      exact settled.frame same rfl fun pending => ramp rfl ▸ pending
    | true =>
      obtain ⟨none, noRamp⟩ := orderly.stops stores
      have stopped : (shared.track.storeStopped loaded tapeActive).cell = .stopped := by
        simp only [storesStopped] at stores
        simp [Track.storeStopped, stores]
      exact ⟨fun _ => ⟨none, (ramp rfl).trans noRamp⟩, fun _ => stopped⟩
  | storeRamp loaded rampCompleted ramping =>
    have ended : ∀ other, (shared.track.storeRamp loaded rampCompleted).cell = other →
        other ≠ .stopped → shared.rampPending = true →
        shared.Advances { shared with
          track := shared.track.storeRamp loaded rampCompleted } := by
      intro other stored running pending
      refine ⟨fun stopped => absurd (stored.symm.trans stopped) running, fun stopped => ?_⟩
      rw [(settled stopped).2] at pending
      cases pending
    have kept : (shared.track.storeRamp loaded rampCompleted).cell = shared.cell →
        shared.Advances { shared with
          track := shared.track.storeRamp loaded rampCompleted } :=
      fun same => settled.frame same rfl fun pending => by cases pending
    cases rampCompleted with
    | false => exact kept rfl
    | true =>
      cases loaded with
      | stopping => exact ended .paused rfl (by decide) (by simp [rampPending, ramping])
      | starting => exact ended .playing rfl (by decide) (by simp [rampPending, ramping])
      | playing | paused | stopped => exact kept rfl

theorem Settled.step {next : SharedTrack} {act : CellAct} (settled : shared.Settled)
    (orderly : shared.Orderly act) (stepped : cellSystem.step shared act = some next) :
    shared.Advances next := by
  have stops : ∀ after : SharedTrack, shared.storesStopped act = true →
      after.cell = .stopped → after.pendingStores = shared.pendingStores →
      after.rampPending = shared.rampPending → shared.Advances after := by
    intro after stores stopped same ramp
    obtain ⟨none, noRamp⟩ := orderly.stops stores
    exact ⟨fun _ => ⟨same.trans none, ramp.trans noRamp⟩, fun _ => stopped⟩
  have begins : ∀ call, beginsStore act = true → shared.Advances (shared.begin call) := by
    intro call beginning
    have running := orderly.begins beginning
    exact ⟨fun stopped => absurd stopped running, fun stopped => absurd stopped running⟩
  simp only [cellSystem] at stepped
  cases act with
  | engine act =>
    obtain ⟨engine, stepped⟩ := ite_none_left_eq_some.mp stepped
    obtain ⟨track, mixed, rfl⟩ := map_eq_some_iff.mp stepped
    exact settled.mix orderly (Bool.eq_false_iff.mpr engine) mixed
  | setTapeStop _ | seek _ =>
    cases stepped
    exact settled.frame rfl rfl id
  | beginPause | beginPlay =>
    cases stepped
    exact begins _ rfl
  | storeState index =>
    obtain ⟨call, found, rfl⟩ := map_eq_some_iff.mp stepped
    have waiting : shared.pendingStores ≠ [] := by
      intro none
      rw [none] at found
      cases found
    exact ⟨fun stopped => absurd stopped (nextState_ne_stopped call),
      fun stopped => absurd (settled stopped).1 waiting⟩
  | stop =>
    cases stepped
    exact stops _ rfl rfl rfl rfl
  | loadState =>
    cases stepped
    split
    · exact settled.frame rfl rfl id
    · exact settled.frame rfl rfl id
  | checkDisconnected =>
    obtain ⟨-, ⟨⟩⟩ := ite_none_left_eq_some.mp stepped
    split
    · exact settled.frame rfl rfl id
    · exact settled.frame rfl rfl id
  | storeDisconnected =>
    obtain ⟨-, ⟨⟩⟩ := ite_none_left_eq_some.mp stepped
    exact stops _ rfl rfl rfl rfl
  | stopTrack =>
    obtain ⟨-, rfl⟩ := ite_some_none_eq_some.mp stepped
    exact stops _ rfl rfl rfl rfl

theorem retain_of_stopped (stopped : shared.cell = .stopped)
    (inMixer : shared.track.inMixer = true) (idle : shared.track.point = .idle) (outLen : Nat) :
    cellSystem.step shared (.engine (.retain outLen)) =
      some { shared with track := { shared.track with inMixer := false } } := by
  have cell : shared.track.cell = .stopped := stopped
  simp [cellSystem, step, TrackAct.ofHandle, Track.step, Track.retain, inMixer, idle,
    cell]

end SharedTrack

open SharedTrack

/-- In a run whose steps are all orderly, once the cell has held `Stopped` it never holds
another value, and the next call of `mix` drops the track. -/
theorem stopped_is_absorbing (capacity : Nat) (before after : List CellAct)
    (middle final : SharedTrack)
    (meets : cellSystem.Meets Orderly (SharedTrack.new capacity) (before ++ after))
    (reached : cellSystem.run (SharedTrack.new capacity) before = some middle)
    (stopped : middle.cell = .stopped) (continued : cellSystem.run middle after = some final) :
    final.cell = .stopped ∧
      (final.track.inMixer = true → final.track.point = .idle → ∀ outLen,
        ∃ next, cellSystem.step final (.engine (.retain outLen)) = some next ∧
          next.track.inMixer = false) := by
  obtain ⟨front, back⟩ :=
    cellSystem.meets_of_append Orderly before after _ meets
  have settled : middle.Settled :=
    cellSystem.run_invariant Orderly Settled
      (fun settled orderly stepped => (settled.step orderly stepped).settled) before
      (fun stopped => by cases stopped) front reached
  have kept : final.Settled ∧ final.cell = .stopped :=
    cellSystem.run_invariant Orderly
      (fun shared => shared.Settled ∧ shared.cell = .stopped)
      (fun holds orderly stepped =>
        have advances := holds.1.step orderly stepped
        ⟨advances.settled, advances.kept holds.2⟩) after ⟨settled, stopped⟩
      (back middle reached) continued
  refine ⟨kept.2, fun inMixer idle outLen => ?_⟩
  exact ⟨_, retain_of_stopped kept.2 inMixer idle outLen, rfl⟩

/-- A pause, a stop, and a call of `get_state` after it. -/
theorem stopped_after_pause :
    ∃ middle final,
      cellSystem.run (SharedTrack.new 4) [.beginPause, .storeState 0, .stop] = some middle ∧
      middle.cell = .stopped ∧
      cellSystem.run middle [.loadState, .engine .dropEngine] = some final ∧
      final.cell = .stopped := by
  have outcome : (cellSystem.run (SharedTrack.new 4) [.beginPause, .storeState 0, .stop]).map
      cell = some .stopped := by decide
  obtain ⟨middle, reached, stopped⟩ := map_eq_some_iff.mp outcome
  have continued : ((cellSystem.run (SharedTrack.new 4) [.beginPause, .storeState 0, .stop]).bind
      fun middle => cellSystem.run middle [.loadState, .engine .dropEngine]).isSome := by decide
  rw [reached] at continued
  obtain ⟨final, ran⟩ := isSome_iff_exists.mp continued
  exact ⟨middle, final, reached, stopped, ran,
    (stopped_is_absorbing 4 _ _ middle final (by decide) reached stopped ran).1⟩

/-- The tape stop of a pause is under way, a call of `mix` has loaded its state, and the
track is stopped. -/
def stopInRamp : List CellAct :=
  [.setTapeStop true, .beginPause, .storeState 0, .engine (.retain frameSize), .engine .load, .stop]

def rampEnds : List CellAct :=
  [.engine .pull, .engine (.storeStopped true), .engine (.storeRamp true)]

theorem ramp_overwrites_stop :
    ∃ middle final,
      cellSystem.run (SharedTrack.new 4) stopInRamp = some middle ∧ middle.cell = .stopped ∧
      cellSystem.run middle rampEnds = some final ∧
      final.cell = .paused ∧ final.track.inMixer = true ∧ final.track.point = .idle := by
  refine ⟨_, _, rfl, rfl, rfl, rfl, rfl, rfl⟩

end KizunaLink.Engine
