import KizunaLink.Player.Playback

/-!
# The track a player controls

The player holds at most one track that was announced.  Its monitor is the only
one that can still act, and its events so far are the start alone, unless a
DELETE has sent its end and has still to destroy the player.  The events of every
other track are complete.

The ends of a track must not overlap for this: an operation has to find the track
in the state in which it is the one that sends the event.  The condition says so
for each of them.
-/

set_option autoImplicit false

namespace KizunaLink.Player

def TrackEvent.playback : TrackEvent → Nat
  | .trackStart playback => playback
  | .trackEnd playback _ => playback

def Monitor.isClearing : Monitor → Bool
  | .clearing _ _ => true
  | _ => false

def Playback.Active (entry : Playback) : Prop :=
  entry.aborted = false ∧
    (entry.monitor = .ticking ∧ entry.stopSignal = false ∨ entry.monitor.isClearing = true)

/-- A change after which a monitor can do no more than before. -/
def Calming (change : Playback → Playback) : Prop :=
  ∀ entry, (change entry).Active → entry.Active ∧ (change entry).monitor = entry.monitor

structure Calmer (before after : List Playback) : Prop where
  length : after.length = before.length
  entries : ∀ (playback : Nat) (later : Playback), after[playback]? = some later →
    later.Active → ∃ entry, before[playback]? = some entry ∧ entry.Active ∧
      later.monitor = entry.monitor

variable (playbacks : List Playback) (target : Option Nat)

theorem getElem?_modifyAt (playback : Nat) (change : Playback → Playback) :
    (modifyAt playbacks target change)[playback]? =
      playbacks[playback]?.map fun entry =>
        if target = some playback then change entry else entry := by
  cases target with
  | none => simp [modifyAt]
  | some index =>
    simp only [modifyAt, List.getElem?_modify, Option.some.injEq]
    rfl

@[simp] theorem length_modifyAt (change : Playback → Playback) :
    (modifyAt playbacks target change).length = playbacks.length := by
  cases target with
  | none => rfl
  | some index => simp [modifyAt]

theorem modifyAt_modifyAt (first second : Playback → Playback) :
    modifyAt (modifyAt playbacks target first) target second =
      modifyAt playbacks target (second ∘ first) := by
  cases target with
  | none => rfl
  | some index => exact List.modify_modify_eq _ _ _ _

theorem calmer_modifyAt {change : Playback → Playback} (calming : Calming change) :
    Calmer playbacks (modifyAt playbacks target change) := by
  refine ⟨length_modifyAt _ _ _, ?_⟩
  intro playback later found active
  rw [getElem?_modifyAt] at found
  obtain ⟨entry, foundEntry, rfl⟩ := Option.map_eq_some_iff.mp found
  refine ⟨entry, foundEntry, ?_⟩
  split at active
  case isTrue same =>
    rw [if_pos same]
    exact calming entry active
  case isFalse other =>
    rw [if_neg other]
    exact ⟨active, rfl⟩

theorem Calmer.refl : Calmer playbacks playbacks :=
  ⟨rfl, fun _ later found active => ⟨later, found, active, rfl⟩⟩

theorem Calmer.trans {first second third : List Playback} (one : Calmer first second)
    (two : Calmer second third) : Calmer first third := by
  refine ⟨two.length.trans one.length, ?_⟩
  intro playback later found active
  obtain ⟨middle, foundMiddle, middleActive, same⟩ := two.entries playback later found active
  obtain ⟨entry, foundEntry, entryActive, same'⟩ :=
    one.entries playback middle foundMiddle middleActive
  exact ⟨entry, foundEntry, entryActive, same.trans same'⟩

theorem calming_signal : Calming fun entry => { entry with stopSignal := true } := by
  rintro entry ⟨running, ⟨_, signal⟩ | clearing⟩
  · cases signal
  · exact ⟨⟨running, .inr clearing⟩, rfl⟩

theorem calming_stopped : Calming fun entry => { entry with stopped := true } :=
  fun _ active => ⟨active, rfl⟩

theorem calming_playing : Calming fun entry => { entry with stopped := false } :=
  fun _ active => ⟨active, rfl⟩

theorem calming_abort : Calming fun entry => { entry with aborted := true } := by
  rintro entry ⟨running, _⟩
  cases running

theorem calming_done : Calming fun entry => { entry with monitor := .done } := by
  rintro entry ⟨_, ⟨ticking, _⟩ | clearing⟩
  · cases ticking
  · cases clearing

namespace PlayerTracks

variable {player : PlayerTracks}

def eventsOf (player : PlayerTracks) (playback : Nat) : List TrackEvent :=
  player.log.filter fun event => event.playback = playback

def Announced (player : PlayerTracks) (playback : Nat) : Prop :=
  player.trackHandle = some playback ∧ player.trackInfo = some playback

def Ended (player : PlayerTracks) (playback : Nat) : Prop :=
  ∃ reason, player.eventsOf playback = [.trackStart playback, .trackEnd playback reason]

def Settled (player : PlayerTracks) (playback : Nat) : Prop :=
  player.eventsOf playback = [] ∨
    (∃ reason, player.eventsOf playback = [.trackEnd playback reason]) ∨ player.Ended playback

/-- The fields of the player and the monitors. -/
structure Control (player : PlayerTracks) : Prop where
  handle : ∀ playback, player.trackHandle = some playback → player.track = some playback
  info : ∀ playback, player.trackInfo = some playback → player.track = some playback
  track : ∀ playback, player.track = some playback →
    player.stopSignal = some playback ∧ playback < player.playbacks.length
  cleaning : ∀ playback, player.cleaning = some playback → playback < player.playbacks.length
  monitors : ∀ (playback : Nat) (entry : Playback), player.playbacks[playback]? = some entry →
    entry.Active → player.Announced playback ∧ player.trackTask = some playback ∧
      ∀ own reason, entry.monitor = .clearing own reason →
        own = true ∧ player.cleaning ≠ some playback

structure Told (player : PlayerTracks) : Prop where
  fresh : ∀ playback, player.playbacks.length ≤ playback → player.eventsOf playback = []
  silent : ∀ playback, player.track = some playback → ¬ player.Announced playback →
    player.eventsOf playback = []
  started : ∀ playback, player.Announced playback → player.cleaning ≠ some playback →
    player.eventsOf playback = [.trackStart playback]
  cleaned : ∀ playback, player.Announced playback → player.cleaning = some playback →
    player.Ended playback
  settled : ∀ playback, player.track ≠ some playback → player.Settled playback

/-- What the operation that has the lock relies on. -/
def Place (player : PlayerTracks) : Prop :=
  match player.holder with
  | none => ∀ playback, player.trackInfo = some playback → player.trackHandle = some playback
  | some (.replacing _) =>
    (∀ playback, player.trackInfo = some playback → player.trackHandle = some playback) ∧
      ∀ playback, player.Announced playback → player.cleaning ≠ some playback
  | some (.resolving playback) =>
    player.track = some playback ∧ player.trackHandle = none ∧
      player.cleaning ≠ some playback
  | some (.stopping track) =>
    track = player.track ∧
      ∀ playback, player.Announced playback → player.cleaning ≠ some playback ∧
        ∀ entry, player.playbacks[playback]? = some entry → ¬ entry.Active

structure EndsSafe (player : PlayerTracks) : Prop where
  control : player.Control
  told : player.Told
  place : player.Place

/-- An operation that gets the lock: a track that plays is replaced while its handle
is not stopped, stopped or deleted while its monitor is not about to clear it,
deleted while the player is in the map; none of this after a DELETE has sent its
end.  The WebSocket operations and the end of a DELETE find no track, or the one
whose end the DELETE has sent. -/
def AcquireApart (player : PlayerTracks) (op : TrackOp) : Prop :=
  match op with
  | .play _ noReplace =>
    noReplace = false → ∀ playback ∈ player.trackInfo, player.cleaning ≠ some playback ∧
      ∀ entry ∈ player.playbacks[playback]?, entry.stopped = false
  | .patchStop =>
    ∀ playback ∈ player.trackInfo, player.cleaning ≠ some playback ∧
      ∀ entry ∈ player.playbacks[playback]?, entry.monitor.isClearing = false
  | .delete =>
    ∀ playback ∈ player.trackInfo, player.cleaning ≠ some playback ∧ player.inMap = true ∧
      ∀ entry ∈ player.playbacks[playback]?, entry.monitor.isClearing = false
  | .wsStop => player.trackInfo = none
  | .destroy => ∀ playback ∈ player.trackInfo, player.cleaning = some playback

/-- The condition on a step: also, a monitor finds the end of its track while the
player is in the map and no DELETE has sent that end. -/
def EndsApart (player : PlayerTracks) (act : TrackAct) : Prop :=
  match act with
  | .acquire index => ∀ op ∈ player.waiting[index]?, player.AcquireApart op
  | .tick playback marker _ _ _ =>
    ∀ entry ∈ player.playbacks[playback]?, entry.stopSignal = false →
      entry.stopped = true ∨ marker = true →
        player.inMap = true ∧ player.cleaning ≠ some playback
  | _ => True

instance (op : TrackOp) : Decidable (player.AcquireApart op) := by
  unfold AcquireApart
  split <;> infer_instance

instance (act : TrackAct) : Decidable (player.EndsApart act) := by
  unfold EndsApart
  split <;> infer_instance

variable {event : TrackEvent} {playback : Nat}

theorem eventsOf_send (own : event.playback = playback) :
    (player.send event).eventsOf playback = player.eventsOf playback ++ [event] := by
  simp [eventsOf, send, own]

theorem eventsOf_send_other (other : event.playback ≠ playback) :
    (player.send event).eventsOf playback = player.eventsOf playback := by
  simp [eventsOf, send, other]

theorem Settled.send_other (settled : player.Settled playback) (other : event.playback ≠ playback) :
    (player.send event).Settled playback := by
  simp only [Settled, Ended] at settled ⊢
  rw [eventsOf_send_other other]
  exact settled

theorem Told.settle (told : player.Told)
    (cleaned : ∀ playback, player.Announced playback → player.cleaning = some playback)
    (playback : Nat) : player.Settled playback := by
  by_cases current : player.track = some playback
  · by_cases announced : player.Announced playback
    · exact .inr (.inr (told.cleaned playback announced (cleaned playback announced)))
    · exact .inl (told.silent playback current announced)
  · exact told.settled playback current

theorem Told.settle_end (told : player.Told) {ending : Nat} (current : player.track = some ending)
    (first : player.Announced ending → player.cleaning ≠ some ending) (reason : TrackEndReason)
    (playback : Nat) : (player.send (.trackEnd ending reason)).Settled playback := by
  by_cases same : ending = playback
  · subst same
    have sent : (player.send (.trackEnd ending reason)).eventsOf ending =
        player.eventsOf ending ++ [.trackEnd ending reason] := eventsOf_send rfl
    by_cases announced : player.Announced ending
    · rw [told.started ending announced (first announced)] at sent
      exact .inr (.inr ⟨reason, sent⟩)
    · rw [told.silent ending current announced] at sent
      exact .inr (.inl ⟨reason, sent⟩)
  · refine Settled.send_other (told.settled playback fun isTrack => ?_) same
    exact same (Option.some.inj (current.symm.trans isTrack))

theorem Told.fresh_send (told : player.Told) (event : TrackEvent)
    (old : event.playback < player.playbacks.length) (playback : Nat)
    (new : player.playbacks.length ≤ playback) : (player.send event).eventsOf playback = [] := by
  rw [eventsOf_send_other (by omega)]
  exact told.fresh playback new

theorem Control.send (control : player.Control) (event : TrackEvent) :
    (player.send event).Control :=
  { control with }

theorem Control.calm (control : player.Control) (holder : Option Holder)
    {playbacks : List Playback} (calmer : Calmer player.playbacks playbacks) :
    Control { player with holder, playbacks } := by
  refine ⟨control.handle, control.info, ?_, ?_, ?_⟩
  · intro playback isTrack
    rw [calmer.length]
    exact control.track playback isTrack
  · intro playback isCleaning
    rw [calmer.length]
    exact control.cleaning playback isCleaning
  · intro playback later found active
    obtain ⟨entry, foundEntry, entryActive, sameMonitor⟩ :=
      calmer.entries playback later found active
    rw [sameMonitor]
    exact control.monitors playback entry foundEntry entryActive

theorem Told.calm (told : player.Told) (holder : Option Holder) {playbacks : List Playback}
    (calmer : Calmer player.playbacks playbacks) : Told { player with holder, playbacks } := by
  refine { told with fresh := ?_ }
  intro playback new
  rw [calmer.length] at new
  exact told.fresh playback new

theorem calmer_dropTrack (player : PlayerTracks) :
    Calmer player.playbacks player.dropTrack.playbacks :=
  ((calmer_modifyAt _ _ calming_signal).trans (calmer_modifyAt _ _ calming_abort)).trans
    (calmer_modifyAt _ _ calming_stopped)

theorem Control.dropTrack_inactive (control : player.Control) {entry : Playback}
    (found : player.dropTrack.playbacks[playback]? = some entry) : ¬ entry.Active := by
  intro active
  obtain ⟨before, foundBefore, activeBefore, _⟩ :=
    (calmer_dropTrack player).entries playback entry found active
  obtain ⟨_, task, _⟩ := control.monitors playback before foundBefore activeBefore
  simp only [dropTrack, modifyPlayback, getElem?_modifyAt, foundBefore, Option.map_some, task,
    if_true, Option.some.injEq] at found
  have running := active.1
  rw [← found] at running
  split at running <;> cases running

theorem Control.dropTrack (control : player.Control) : player.dropTrack.Control := by
  refine ⟨nofun, nofun, nofun, ?_, ?_⟩
  · intro playback isCleaning
    rw [(calmer_dropTrack player).length]
    exact control.cleaning playback isCleaning
  · intro playback entry found active
    exact absurd active (control.dropTrack_inactive found)

theorem endsSafe_empty (noTrack : player.track = none) (noInfo : player.trackInfo = none)
    (noHandle : player.trackHandle = none) (free : player.holder = none)
    (cleaning : ∀ playback, player.cleaning = some playback → playback < player.playbacks.length)
    (inactive : ∀ (playback : Nat) (entry : Playback),
      player.playbacks[playback]? = some entry → ¬ entry.Active)
    (settled : ∀ playback, player.Settled playback)
    (fresh : ∀ playback, player.playbacks.length ≤ playback → player.eventsOf playback = []) :
    player.EndsSafe := by
  have none : ∀ playback, ¬ player.Announced playback := by
    rintro playback ⟨handle, _⟩
    rw [noHandle] at handle
    cases handle
  refine ⟨⟨?_, ?_, ?_, cleaning, ?_⟩, ⟨fresh, ?_, ?_, ?_, fun playback _ => settled playback⟩, ?_⟩
  · simp [noHandle]
  · simp [noInfo]
  · simp [noTrack]
  · exact fun playback entry found active => absurd active (inactive playback entry found)
  · simp [noTrack]
  · exact fun playback announced => absurd announced (none playback)
  · exact fun playback announced => absurd announced (none playback)
  · simp [Place, free, noInfo]

section

variable (control : player.Control) (settled : ∀ playback, player.Settled playback)
  (fresh : ∀ playback, player.playbacks.length ≤ playback → player.eventsOf playback = [])
include settled fresh

theorem told_dropTrack : player.dropTrack.Told := by
  refine ⟨?_, nofun, ?_, ?_, fun playback _ => settled playback⟩
  · intro playback new
    rw [(calmer_dropTrack player).length] at new
    exact fresh playback new
  · rintro playback ⟨handle, _⟩
    cases handle
  · rintro playback ⟨handle, _⟩
    cases handle

include control

theorem endsSafe_dropTrack (free : player.holder = none) : player.dropTrack.EndsSafe := by
  have told := told_dropTrack settled fresh
  exact endsSafe_empty rfl rfl rfl free control.dropTrack.cleaning
    (fun _ _ found => control.dropTrack_inactive found) settled told.fresh

theorem endsSafe_armTrack (decodes : Bool) : (player.dropTrack.armTrack decodes).EndsSafe := by
  have dropped := control.dropTrack
  have told := told_dropTrack settled fresh
  have longer : (player.dropTrack.armTrack decodes).playbacks.length =
      player.dropTrack.playbacks.length + 1 := by simp [armTrack]
  refine ⟨⟨nofun, ?_, ?_, ?_, ?_⟩, ⟨?_, ?_, ?_, ?_, ?_⟩, rfl, rfl, ?_⟩
  · intro playback isInfo
    obtain ⟨-, isInfo⟩ := Option.ite_none_right_eq_some.mp isInfo
    exact isInfo
  · intro playback isTrack
    cases isTrack
    exact ⟨rfl, by omega⟩
  · intro playback isCleaning
    have := dropped.cleaning playback isCleaning
    omega
  · intro playback entry found active
    rcases List.mem_append.mp (List.mem_of_getElem? found) with old | new
    · obtain ⟨index, foundOld⟩ := List.getElem?_of_mem old
      exact absurd active (control.dropTrack_inactive foundOld)
    · cases List.mem_singleton.mp new
      rcases active.2 with ⟨ticking, _⟩ | clearing
      · cases ticking
      · cases clearing
  · intro playback new
    rw [longer] at new
    exact told.fresh playback (by omega)
  · intro playback isTrack _
    cases isTrack
    exact told.fresh _ (Nat.le_refl _)
  · rintro playback ⟨handle, _⟩
    cases handle
  · rintro playback ⟨handle, _⟩
    cases handle
  · intro playback _
    exact settled playback
  · intro isCleaning
    exact Nat.lt_irrefl _ (dropped.cleaning _ isCleaning)

end

end PlayerTracks

end KizunaLink.Player
