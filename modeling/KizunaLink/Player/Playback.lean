import KizunaLink.Lib.System

/-!
# The tracks of one player

Model of the code that starts and ends tracks: `start_playback` and
`stop_current_track` (discord/player/manager/start.rs), the monitor task
(manager/monitor.rs), `PlayerContext::stop_track` and `destroy`
(discord/player/context.rs), `stop_player` (api/rest/routes/player/update.rs),
DELETE (api/rest/routes/player/destroy.rs) and the operations of
api/ws/opcodes.rs.

A step is what a task does between two await points.  An await inside a locked
section at which no other task can see or change what the section works on is
not a step of its own: the remaining ones are the response that is built before
`Replaced` is sent, the resolution of the track, and the engine lock of
`stop_player`.  An aborted monitor takes no further step.

Every call of `start_playback` makes a stop signal, a handle and a monitor of its
own, so all of them, and the metadata it stores in the player, go by the number
of the call.  The operations are those that have read this player from the
session's map; how far they overlap is left open.
-/

set_option autoImplicit false

namespace KizunaLink.Player

open KizunaLink.Lib

inductive TrackEndReason where
  | finished
  | loadFailed
  | stopped
  | replaced
  | cleanup
  deriving DecidableEq, Repr

inductive TrackEvent where
  | trackStart (playback : Nat)
  | trackEnd (playback : Nat) (reason : TrackEndReason)
  deriving DecidableEq, Repr

/-- The place of a monitor: at its interval, or at the lock of the player it found in
the map to clear it.  `own` says that this is the player it was started for. -/
inductive Monitor where
  | absent
  | ticking
  | clearing (own : Bool) (reason : TrackEndReason)
  | done
  deriving DecidableEq, Repr

/-- One call of `start_playback`.  `stopped` is the state of its handle: stored, or
read off the closed command channel of a decoder that has ended. -/
structure Playback where
  stopSignal : Bool := false
  stopped : Bool := false
  monitor : Monitor := .absent
  aborted : Bool := false
  deriving DecidableEq, Repr

inductive TrackOp where
  | play (decodes noReplace : Bool)
  | patchStop
  | wsStop
  | delete
  | destroy
  deriving DecidableEq, Repr

/-- The await at which an operation keeps the player's write lock. -/
inductive Holder where
  | replacing (decodes : Bool)
  | resolving (playback : Nat)
  | stopping (track : Option Nat)
  deriving DecidableEq, Repr

/-- The player with the operations on it and the events sent so far.  `cleaning` is
the last track whose end a DELETE has sent before it destroys the player. -/
structure PlayerTracks where
  track : Option Nat := none
  trackInfo : Option Nat := none
  trackHandle : Option Nat := none
  stopSignal : Option Nat := none
  trackTask : Option Nat := none
  inMap : Bool := true
  holder : Option Holder := none
  waiting : List TrackOp := []
  playbacks : List Playback := []
  cleaning : Option Nat := none
  log : List TrackEvent := []
  deriving DecidableEq, Repr

def modifyAt (playbacks : List Playback) (playback : Option Nat)
    (change : Playback → Playback) : List Playback :=
  match playback with
  | none => playbacks
  | some index => playbacks.modify index change

namespace PlayerTracks

variable (player : PlayerTracks)

def send (event : TrackEvent) : PlayerTracks := { player with log := player.log ++ [event] }

def modifyPlayback (playback : Option Nat) (change : Playback → Playback) : PlayerTracks :=
  { player with playbacks := modifyAt player.playbacks playback change }

/-- What `stop_track` and the end of `stop_current_track` do alike: signal, abort and
stop, and forget the track. -/
def dropTrack : PlayerTracks :=
  let player :=
    player.modifyPlayback player.stopSignal fun entry => { entry with stopSignal := true }
  let player := player.modifyPlayback player.trackTask fun entry => { entry with aborted := true }
  let player := player.modifyPlayback player.trackHandle fun entry => { entry with stopped := true }
  { player with track := none, trackInfo := none, trackHandle := none, trackTask := none }

def stopTrack : PlayerTracks := player.dropTrack

def playing : Bool :=
  match player.trackHandle with
  | none => false
  | some handle => (player.playbacks[handle]?.map fun entry => !entry.stopped).getD false

/-- `stop_current_track` after its test of the handle. -/
def stopCurrentTrack (active : Bool) : PlayerTracks :=
  match active, player.trackInfo with
  | true, some info => (player.send (.trackEnd info .replaced)).dropTrack
  | _, _ => player.dropTrack

/-- From the end of `stop_current_track` to the resolution of the new track. -/
def armTrack (decodes : Bool) : PlayerTracks :=
  { player with
    track := some player.playbacks.length
    trackInfo := if decodes then some player.playbacks.length else none
    stopSignal := some player.playbacks.length
    playbacks := player.playbacks ++ [{}]
    holder := some (.resolving player.playbacks.length) }

def sendLoadFailed : PlayerTracks :=
  match player.trackInfo with
  | none => player
  | some info => (player.send (.trackEnd info .loadFailed)).stopTrack

/-- The rest of `start_playback` for a track that was resolved.  Without metadata
there is a handle, but no event and no monitor. -/
def launch (playback : Nat) : PlayerTracks :=
  let player := player.modifyPlayback (some playback) fun entry => { entry with stopped := false }
  let player := { player with trackHandle := some playback }
  match player.trackInfo with
  | none => player
  | some info =>
    let player := player.send (.trackStart info)
    let player :=
      player.modifyPlayback (some playback) fun entry => { entry with monitor := .ticking }
    { player with trackTask := some playback }

def beginStop : PlayerTracks :=
  -- the monitor is neither aborted nor forgotten: it is left to see the signal
  let player := { player with holder := some (.stopping player.track) }
  match player.trackHandle with
  | none => player
  | some handle =>
    let player :=
      player.modifyPlayback player.stopSignal fun entry => { entry with stopSignal := true }
    player.modifyPlayback (some handle) fun entry => { entry with stopped := true }

def finishStop (track : Option Nat) : PlayerTracks :=
  let player :=
    { player with track := none, trackInfo := none, trackHandle := none, holder := none }
  match track with
  | none => player
  | some playback => player.send (.trackEnd playback .stopped)

/-- A DELETE reads the player, sends the event and removes the player from the map;
then it waits for the write lock. -/
def cleanUp : PlayerTracks :=
  let player :=
    match player.track, player.trackInfo with
    | some _, some info =>
      { player.send (.trackEnd info .cleanup) with cleaning := some info }
    | _, _ => player
  if player.inMap then { player with inMap := false, waiting := player.waiting ++ [.destroy] }
  -- the removal finds no entry, or another player of the guild
  else player

/-- The first section of an operation that gets the lock. -/
def acquire (op : TrackOp) : PlayerTracks :=
  match op with
  | .play decodes noReplace =>
    if noReplace && player.track.isSome then player
    else if player.playing then { player with holder := some (.replacing decodes) }
    else (player.stopCurrentTrack false).armTrack decodes
  | .patchStop => player.beginStop
  | .wsStop => player.stopTrack
  | .delete => player.cleanUp
  | .destroy => player.stopTrack

/-- The next section of the operation that has the lock; `found` is the answer of
`resolve_track`. -/
def proceed (holder : Holder) (found : Bool) : PlayerTracks :=
  match holder with
  | .replacing decodes => (player.stopCurrentTrack true).armTrack decodes
  | .resolving playback =>
    let player := { player with holder := none }
    if found then player.launch playback else player.sendLoadFailed
  | .stopping track => player.finishStop track

/-! ## The monitor -/

/-- `get_player` and the wait for its lock: the player, another one, or none. -/
def beginClear (playback : Nat) (reason : TrackEndReason) (other : Bool) : PlayerTracks :=
  if player.inMap || other then
    player.modifyPlayback (some playback) fun entry =>
      { entry with monitor := .clearing player.inMap reason }
  else
    (player.modifyPlayback (some playback) fun entry => { entry with monitor := .done }).send
      (.trackEnd playback reason)

/-- One round of `monitor_loop`.  The act says whether the position has passed the
end marker, whether the decoder left an error, whether the track is stuck, and
whether the map has another player of this guild. -/
def tick (playback : Nat) (entry : Playback) (marker failed stuck other : Bool) : PlayerTracks :=
  if entry.stopSignal then
    player.modifyPlayback (some playback) fun entry => { entry with monitor := .done }
  else if entry.stopped then
    player.beginClear playback (if failed then .loadFailed else .finished) other
  else if marker then
    (player.modifyPlayback (some playback) fun entry =>
      { entry with stopSignal := true, stopped := true }).beginClear playback .finished other
  else if stuck then
    player.modifyPlayback (some playback) fun entry => { entry with stopped := true }
  else player

/-- The locked section of `clear_player_state` and the event after it. -/
def clear (playback : Nat) (own : Bool) (reason : TrackEndReason) : PlayerTracks :=
  let player :=
    if own && player.trackHandle = some playback then
      { player with track := none, trackInfo := none, trackHandle := none }
    else player
  -- the event is sent whether or not the handle was still installed
  (player.modifyPlayback (some playback) fun entry => { entry with monitor := .done }).send
    (.trackEnd playback reason)

end PlayerTracks

inductive TrackAct where
  | request (op : TrackOp)
  | wsDestroy
  | acquire (index : Nat)
  | proceed (found : Bool)
  | decoderEnds (playback : Nat)
  | tick (playback : Nat) (marker failed stuck other : Bool)
  | clear (playback : Nat)
  deriving DecidableEq, Repr

def PlayerTracks.step (player : PlayerTracks) : TrackAct → Option PlayerTracks
  | .request op =>
    if player.inMap ∧ op ≠ .destroy then
      some { player with waiting := player.waiting ++ [op] }
    else none
  | .wsDestroy =>
    if player.inMap then
      some { player with inMap := false, waiting := player.waiting ++ [.destroy] }
    else none
  | .acquire index =>
    if player.holder = none then
      player.waiting[index]?.map fun op =>
        { player with waiting := player.waiting.eraseIdx index }.acquire op
    else none
  | .proceed found => player.holder.map fun holder => player.proceed holder found
  | .decoderEnds playback =>
    some (player.modifyPlayback (some playback) fun entry => { entry with stopped := true })
  | .tick playback marker failed stuck other =>
    match player.playbacks[playback]? with
    | some entry =>
      if entry.monitor = .ticking ∧ entry.aborted = false then
        some (player.tick playback entry marker failed stuck other)
      else none
    | none => none
  | .clear playback =>
    match player.playbacks[playback]? with
    | some { monitor := .clearing own reason, aborted := false, .. } =>
      if own = true ∧ player.holder ≠ none then none
      else some (player.clear playback own reason)
    | _ => none

def trackSystem : System PlayerTracks TrackAct := ⟨PlayerTracks.step⟩

/-! ## Launches and rounds

The steps with which other parts of a player go along: a launch that starts the tasks
of a track, and a round of its monitor that does not end it. -/

inductive TrackPart where
  | launch (playback : Nat)
  | round (playback : Nat) (stuck : Bool)
  | rest (act : TrackAct)
  deriving DecidableEq, Repr

namespace PlayerTracks

variable (player : PlayerTracks)

def resolved : Option Nat :=
  match player.holder, player.trackInfo with
  | some (.resolving playback), some _ => some playback
  | _, _ => none

def goesOn (playback : Nat) : Bool :=
  match player.playbacks[playback]? with
  | some entry => !entry.stopSignal && !entry.stopped
  | none => false

def part : TrackAct → TrackPart
  | .proceed true =>
    match player.resolved with
    | some playback => .launch playback
    | none => .rest (.proceed true)
  | .tick playback false failed stuck other =>
    if player.goesOn playback then .round playback stuck
    else .rest (.tick playback false failed stuck other)
  | act => .rest act

def stepPart : TrackPart → Option PlayerTracks
  | .launch playback =>
    if player.resolved = some playback then player.step (.proceed true) else none
  | .round playback stuck =>
    if player.goesOn playback then player.step (.tick playback false false stuck false) else none
  | .rest act => if player.part act = .rest act then player.step act else none

theorem stepPart_part (act : TrackAct) : player.stepPart (player.part act) = player.step act := by
  unfold part
  split
  · split
    · next resolved => exact if_pos resolved
    · next unresolved => simp [stepPart, part, unresolved]
  · next playback failed stuck other =>
      split
      · next goesOn =>
          -- what the decoder left and who is in the map are looked at in other rounds
          rw [stepPart, if_pos goesOn]
          unfold PlayerTracks.goesOn at goesOn
          cases found : player.playbacks[playback]? with
          | none => simp [found] at goesOn
          | some entry =>
            simp only [found, Bool.and_eq_true, Bool.not_eq_true'] at goesOn
            simp [step, found, tick, goesOn.1, goesOn.2]
      · next ended => simp [stepPart, part, ended]
  · next notLaunch notRound =>
      have whole : player.part act = .rest act := by
        unfold part
        split
        · exact (notLaunch rfl).elim
        · exact (notRound _ _ _ _ rfl).elim
        · rfl
      rw [stepPart, if_pos whole]

end PlayerTracks

end KizunaLink.Player
