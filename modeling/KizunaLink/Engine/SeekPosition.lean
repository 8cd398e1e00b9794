import KizunaLink.Engine.Position
import KizunaLink.Player.SeekArithmetic

/-!
# The position after a seek

`TrackHandle::seek` stores the new position at once and then sends a command
(engine/playback/handle.rs).  The decoder takes the command later: when the seek succeeds
it sends a flush marker, and when it fails it tells no one (`check_commands`,
engine/processor.rs).  All the while calls of `mix` add what they have filled to the same
position (engine/mix/mixer.rs).

Every access to the position and the channels is a step.  The frames of the decoder are
PCM: nothing in the repository sends the other kind.  Taking a command and sending the
marker, which waits for room, are one step.
-/

set_option autoImplicit false

namespace KizunaLink.Engine

open KizunaLink.Lib List Option
open KizunaLink.Player (TrackHandle)

/-! ## The model -/

structure Seek where
  number : Nat
  positionMs : Nat
  deriving DecidableEq, Repr

/-- `gain` is what a call of `mix` has still to add to the position; `sending` are the calls of
`seek` that have stored a position and not sent their command. -/
structure SeekTrack where
  track : Track
  position : Nat := 0
  gain : Nat := 0
  sending : List Seek := []
  commands : List Seek := []

inductive SeekAct where
  | track (act : TrackAct)
  | addPosition
  | store (seek : Seek)
  | send (seek : Seek)
  | handle (number : Nat)

namespace SeekAct

def isStore : SeekAct → Bool
  | .store _ => true
  | .track _ | .addPosition | .send _ | .handle _ => false

def wholeFrames : SeekAct → Bool
  | .track act => act.wholeFrames
  | .addPosition | .store _ | .send _ | .handle _ => true

/-- A step of this call of `seek`, or of the decoder with its command. -/
def ofSeek (number : Nat) : SeekAct → Bool
  | .store seek | .send seek => seek.number == number
  | .handle other => other == number
  | .track _ | .addPosition => false

end SeekAct

namespace SeekTrack

section Model

variable (state : SeekTrack)

/-- The handle of the track, as far as it reads shared cells. -/
def handle : TrackHandle where
  number := 0
  state := state.track.cell
  disconnected := !state.track.commandsAlive
  position := state.position

/-- Markers are sent for seeks only, and a call goes on when it has added to the position. -/
def allows : TrackAct → Bool
  | .flush | .pushOpus _ => false
  | .storeStopped _ => state.gain == 0
  | .push _ | .dropEngine | .dropCommands | .getState | .pause _ | .play _ | .retain _ | .load
  | .pull | .storeRamp _ => true

def addPosition : SeekTrack :=
  { state with position := (state.position + state.gain) % 2 ^ 64, gain := 0 }

def store (seek : Seek) : SeekTrack :=
  { state with
    position := (state.handle.seek seek.positionMs).position
    sending := state.sending ++ [seek] }

/-- A command for a decoder that is gone is dropped. -/
def send (seek : Seek) : SeekTrack :=
  { state with
    sending := state.sending.filter (·.number ≠ seek.number)
    commands := if state.track.commandsAlive then state.commands ++ [seek] else state.commands }

/-- `check_commands`: the marker waits for room, and is lost once the mixer has dropped the
track. -/
def checkCommands (succeeds : Nat → Bool) (number : Nat) : Option SeekTrack :=
  match state.commands with
  | [] => none
  | seek :: commands =>
    if seek.number = number ∧ state.track.engineAlive = true then
      if succeeds number = true ∧ state.track.inMixer = true then
        if state.track.hasRoom then some { state with track := state.track.flush, commands }
        else none
      else some { state with commands }
    else none

def step (succeeds : Nat → Bool) : SeekAct → Option SeekTrack
  | .track act =>
    if state.allows act then
      (state.track.step act).map fun track =>
        { state with track, gain := state.gain + state.track.positionGain act }
    else none
  | .addPosition => if state.gain = 0 then none else some state.addPosition
  | .store seek =>
    if ∀ other ∈ state.sending ++ state.commands, other.number ≠ seek.number then
      some (state.store seek)
    else none
  | .send seek => if seek ∈ state.sending then some (state.send seek) else none
  | .handle number => state.checkCommands succeeds number

def new (capacity : Nat) : SeekTrack := { track := Track.new capacity }

def reported : List Nat :=
  state.track.mixed.take (state.track.counted.length - 2 * state.gain)

/-- Of the samples reported since `stored`, those that had been pushed at `handling`, before the
decoder took the command. -/
def stale (stored handling : SeekTrack) : List Nat :=
  (state.reported.drop stored.reported.length).filter (· < handling.track.pushedCount)

def fresh (stored handling : SeekTrack) : List Nat :=
  (state.reported.drop stored.reported.length).filter fun sample =>
    !decide (sample < handling.track.pushedCount)

end Model

end SeekTrack

/-- Which seeks succeed is up to the format reader. -/
def seekSystem (succeeds : Nat → Bool) : System SeekTrack SeekAct :=
  ⟨fun state act => state.step succeeds act⟩

namespace SeekTrack

variable {succeeds : Nat → Bool} {state next : SeekTrack} {act : SeekAct}

inductive Stepped (succeeds : Nat → Bool) (state : SeekTrack) : SeekAct → SeekTrack → Prop where
  | track (act : TrackAct) (track : Track) (allowed : state.allows act = true)
      (stepped : state.track.step act = some track) :
      Stepped succeeds state (.track act)
        { state with track, gain := state.gain + state.track.positionGain act }
  | addPosition (owed : state.gain ≠ 0) : Stepped succeeds state .addPosition state.addPosition
  | store (seek : Seek)
      (fresh : ∀ other ∈ state.sending ++ state.commands, other.number ≠ seek.number) :
      Stepped succeeds state (.store seek) (state.store seek)
  | send (seek : Seek) (member : seek ∈ state.sending) :
      Stepped succeeds state (.send seek) (state.send seek)
  | seeked (seek : Seek) (commands : List Seek) (waiting : state.commands = seek :: commands)
      (alive : state.track.engineAlive = true) (succeeded : succeeds seek.number = true)
      (inMixer : state.track.inMixer = true) (room : state.track.hasRoom = true) :
      Stepped succeeds state (.handle seek.number)
        { state with track := state.track.flush, commands }
  | passed (seek : Seek) (commands : List Seek) (waiting : state.commands = seek :: commands)
      (alive : state.track.engineAlive = true)
      (unmarked : ¬ (succeeds seek.number = true ∧ state.track.inMixer = true)) :
      Stepped succeeds state (.handle seek.number) { state with commands }

variable (acts : List SeekAct) {start : List Nat} {base : Nat} {without : SeekTrack}

theorem stepped_of_step (stepped : (seekSystem succeeds).step state act = some next) :
    Stepped succeeds state act next := by
  change state.step succeeds act = some next at stepped
  cases act with
  | track act =>
    simp only [step] at stepped
    split at stepped
    case isTrue allowed =>
      obtain ⟨track, moved, rfl⟩ := map_eq_some_iff.mp stepped
      exact .track act track allowed moved
    case isFalse => cases stepped
  | addPosition =>
    simp only [step] at stepped
    split at stepped
    · cases stepped
    case isFalse owed =>
      cases stepped
      exact .addPosition owed
  | store seek =>
    obtain ⟨fresh, rfl⟩ := ite_some_none_eq_some.mp stepped
    exact .store seek fresh
  | send seek =>
    obtain ⟨member, rfl⟩ := ite_some_none_eq_some.mp stepped
    exact .send seek member
  | handle number =>
    simp only [step, checkCommands] at stepped
    split at stepped
    · cases stepped
    case h_2 seek commands waiting =>
      split at stepped
      case isFalse => cases stepped
      case isTrue first =>
        obtain ⟨rfl, alive⟩ := first
        split at stepped
        case isTrue marked =>
          obtain ⟨room, rfl⟩ := ite_some_none_eq_some.mp stepped
          exact .seeked seek commands waiting alive marked.1 marked.2 room
        case isFalse unmarked =>
          cases stepped
          exact .passed seek commands waiting alive unmarked

theorem Stepped.step (stepped : Stepped succeeds state act next) :
    (seekSystem succeeds).step state act = some next := by
  change state.step succeeds act = some next
  cases stepped with
  | track act track allowed stepped => simp [step, allowed, stepped]
  | addPosition owed => exact if_neg owed
  | store _ fresh | send _ fresh => exact if_pos fresh
  | seeked seek commands waiting alive succeeded inMixer room =>
    simp [step, checkCommands, waiting, alive, succeeded, inMixer, room]
  | passed seek commands waiting alive unmarked =>
    simp [step, checkCommands, waiting, alive, if_neg unmarked]

/-! ## What the position has been moved on for -/

structure Sound (state : SeekTrack) : Prop where
  paired : state.track.Paired
  owed : 2 * state.gain ≤ state.track.counted.length
  small : state.position < 2 ^ 64

theorem new_sound (capacity : Nat) : (new capacity).Sound :=
  ⟨Track.new_paired capacity, Nat.le_refl 0, Nat.two_pow_pos 64⟩

theorem Sound.track (sound : state.Sound) {act : TrackAct} {track : Track}
    (whole : act.wholeFrames = true) (stepped : state.track.Stepped act track) {moved : SeekTrack}
    (result : moved.track = track) (gain : moved.gain = state.gain + state.track.positionGain act)
    (position : moved.position = state.position) :
    moved.Sound ∧ moved.reported = state.reported := by
  subst result
  have counts := sound.paired.counted stepped
  have owed := sound.owed
  obtain ⟨more, mixed⟩ := stepped.mixed
  refine ⟨⟨sound.paired.step whole stepped, ?_, position ▸ sound.small⟩, ?_⟩
  · rw [gain, counts]
    omega
  · have same : moved.track.counted.length - 2 * moved.gain =
        state.track.counted.length - 2 * state.gain := by
      rw [gain, counts]
      omega
    have within := state.track.length_counted
    rw [reported, same, mixed, take_append_of_le_length (by omega)]
    rfl

theorem Sound.addPosition (sound : state.Sound) :
    state.addPosition.Sound ∧ ∃ more, state.addPosition.reported = state.reported ++ more ∧
      more.length = 2 * state.gain := by
  have owed := sound.owed
  have within := state.track.length_counted
  refine ⟨⟨sound.paired, Nat.zero_le _, Nat.mod_lt _ (by decide)⟩, ?_⟩
  refine ⟨(state.track.mixed.drop (state.track.counted.length - 2 * state.gain)).take
    (2 * state.gain), ?_, ?_⟩
  · change state.track.mixed.take (state.track.counted.length - 0) = _
    rw [reported, ← take_add]
    congr 1
    omega
  · rw [length_take, length_drop]
    omega

theorem Sound.store (sound : state.Sound) (seek : Seek) : (state.store seek).Sound := by
  refine ⟨sound.paired, sound.owed, ?_⟩
  have small := state.handle.seek_position_lt seek.positionMs
  change (state.handle.seek seek.positionMs).position < 2 ^ 64
  omega

/-- Since the position was `base` and these samples had been reported, it has been moved on by
those that came to them. -/
structure CountsFrom (start : List Nat) (base : Nat) (state : SeekTrack) : Prop where
  sound : state.Sound
  since : ∃ more, state.reported = start ++ more ∧ 2 ∣ more.length ∧
    state.position = (base + more.length / 2) % 2 ^ 64

theorem Sound.countsFrom (sound : state.Sound) : CountsFrom state.reported state.position state :=
  ⟨sound, [], (append_nil _).symm, Nat.dvd_zero 2, (Nat.mod_eq_of_lt sound.small).symm⟩

theorem CountsFrom.same (counts : CountsFrom start base state)
    (moved : next.Sound ∧ next.reported = state.reported)
    (position : next.position = state.position) : CountsFrom start base next := by
  refine ⟨moved.1, ?_⟩
  rw [moved.2, position]
  exact counts.since

theorem Sound.same (sound : state.Sound) (whole : act.wholeFrames = true)
    (quiet : act ≠ .addPosition) (stepped : Stepped succeeds state act next) :
    next.Sound ∧ next.reported = state.reported := by
  cases stepped with
  | track act track allowed stepped =>
    exact sound.track whole (Track.stepped_of_step stepped) rfl rfl rfl
  | addPosition _ => exact absurd rfl quiet
  | store seek _ => exact ⟨sound.store seek, rfl⟩
  | send _ _ | passed _ _ _ _ _ => exact ⟨{ sound with }, rfl⟩
  | seeked seek commands _ _ _ _ room => exact sound.track rfl (.flush room) rfl rfl rfl

theorem Stepped.position (stepped : Stepped succeeds state act next)
    (quiet : act ≠ .addPosition) (later : act.isStore = false) :
    next.position = state.position := by
  cases stepped with
  | track _ _ _ _ | send _ _ | seeked _ _ _ _ _ _ _ | passed _ _ _ _ _ => rfl
  | addPosition _ => exact absurd rfl quiet
  | store _ _ => cases later

theorem Sound.step (sound : state.Sound) (whole : act.wholeFrames = true)
    (stepped : Stepped succeeds state act next) : next.Sound := by
  by_cases adds : act = .addPosition
  · subst adds
    cases stepped
    exact sound.addPosition.1
  · exact (sound.same whole adds stepped).1

theorem CountsFrom.step (counts : CountsFrom start base state) (whole : act.wholeFrames = true)
    (later : act.isStore = false) (stepped : Stepped succeeds state act next) :
    CountsFrom start base next := by
  by_cases adds : act = .addPosition
  · subst adds
    cases stepped
    obtain ⟨soundly, more, adds, length⟩ := counts.sound.addPosition
    obtain ⟨earlier, reported, even, position⟩ := counts.since
    refine ⟨soundly, earlier ++ more, ?_, ?_, ?_⟩
    · rw [adds, reported, append_assoc]
    · rw [length_append]
      omega
    · change (state.position + state.gain) % 2 ^ 64 = _
      rw [position, length_append]
      omega
  · exact counts.same (counts.sound.same whole adds stepped) (stepped.position adds later)

theorem run_sound (whole : ∀ act ∈ acts, act.wholeFrames = true) (sound : state.Sound)
    (reached : (seekSystem succeeds).run state acts = some next) : next.Sound :=
  (seekSystem succeeds).run_invariant_of_forall Sound
    (fun sound whole stepped => sound.step whole (stepped_of_step stepped)) acts whole sound reached

theorem run_countsFrom (whole : ∀ act ∈ acts, act.wholeFrames = true)
    (later : ∀ act ∈ acts, act.isStore = false) (counts : CountsFrom start base state)
    (reached : (seekSystem succeeds).run state acts = some next) : CountsFrom start base next :=
  (seekSystem succeeds).run_invariant_of_forall (CountsFrom start base)
    (fun counts both stepped => counts.step both.1 both.2 (stepped_of_step stepped)) acts
    (fun act member => And.intro (whole act member) (later act member)) counts reached

/-- The same run with and without a seek that stored `base` over `other`. -/
structure Apart (number base other : Nat) (state without : SeekTrack) : Prop where
  track : without.track = state.track
  gain : without.gain = state.gain
  sending : without.sending = state.sending.filter (·.number ≠ number)
  commands : without.commands = state.commands.filter (·.number ≠ number)
  position : ∃ added, state.position = (base + added) % 2 ^ 64 ∧
    without.position = (other + added) % 2 ^ 64

theorem filter_filter_comm (seeks : List Seek) (number other : Nat) :
    (seeks.filter (·.number ≠ other)).filter (·.number ≠ number) =
      (seeks.filter (·.number ≠ number)).filter (·.number ≠ other) := by
  rw [List.filter_filter, List.filter_filter]
  exact filter_congr fun seek _ => Bool.and_comm _ _

theorem Sound.apart (sound : state.Sound) {seek : Seek}
    (fresh : ∀ other ∈ state.sending ++ state.commands, other.number ≠ seek.number) :
    Apart seek.number (state.store seek).position state.position (state.store seek) state := by
  obtain ⟨sending, commands⟩ := forall_mem_append.mp fresh
  refine ⟨rfl, rfl, ?_, ?_, 0, ?_, ?_⟩
  · change state.sending = (state.sending ++ [seek]).filter _
    rw [filter_append, filter_eq_self.mpr (by simpa using sending)]
    simp
  · exact (filter_eq_self.mpr (by simpa using commands)).symm
  · exact (Nat.mod_eq_of_lt (sound.store seek).small).symm
  · exact (Nat.mod_eq_of_lt sound.small).symm

section

variable {number base other : Nat} (apart : Apart number base other state without)
include apart

theorem Apart.dropped (failed : succeeds number = false) (later : act.isStore = false)
    (ofSeek : act.ofSeek number = true) (stepped : Stepped succeeds state act next) :
    Apart number base other next without := by
  have commands := apart.commands
  cases stepped with
  | track _ _ _ _ | addPosition _ => cases ofSeek
  | store _ _ => cases later
  | send seek member =>
    have same : seek.number = number := beq_iff_eq.mp ofSeek
    refine { apart with sending := ?_, commands := ?_ }
    · change _ = (state.sending.filter _).filter _
      rw [same, List.filter_filter, apart.sending]
      exact filter_congr fun seek _ => (Bool.and_self _).symm
    · simp only [send]
      split
      · rw [commands, filter_append]
        simp [same]
      · exact commands
  | seeked seek rest _ _ succeeded _ _ =>
    rw [beq_iff_eq.mp ofSeek, failed] at succeeded
    cases succeeded
  | passed seek rest waiting _ _ =>
    have same : seek.number = number := beq_iff_eq.mp ofSeek
    refine { apart with commands := ?_ }
    rw [commands, waiting, filter_cons_of_neg (by simp [same])]

theorem Apart.commands_cons {seek : Seek} {rest : List Seek}
    (waiting : state.commands = seek :: rest) (ofOther : seek.number ≠ number) :
    without.commands = seek :: rest.filter (·.number ≠ number) := by
  rw [apart.commands, waiting, filter_cons_of_pos (by simpa using ofOther)]

theorem Apart.matched (later : act.isStore = false) (ofOther : act.ofSeek number = false)
    (stepped : Stepped succeeds state act next) :
    ∃ after, Stepped succeeds without act after ∧ Apart number base other next after := by
  obtain ⟨track, gain, sending, commands, added, position, alone⟩ := id apart
  cases stepped with
  | store _ _ => cases later
  | track act moved allowed stepped =>
    rw [← track] at stepped
    refine ⟨_, .track act moved ?_ stepped, rfl, ?_, sending, commands, added, position, alone⟩
    · cases act with
      | storeStopped _ =>
        rw [allows, gain]
        exact allowed
      | _ => exact allowed
    · dsimp only
      rw [gain, track]
  | addPosition owed =>
    refine ⟨_, .addPosition (gain ▸ owed), track, rfl, sending, commands, added + state.gain,
      ?_, ?_⟩
    · change (state.position + state.gain) % 2 ^ 64 = _
      rw [position]
      omega
    · change (without.position + without.gain) % 2 ^ 64 = _
      rw [alone, gain]
      omega
  | send seek member =>
    have different : seek.number ≠ number := by simpa [SeekAct.ofSeek] using ofOther
    refine ⟨_, .send seek ?_, track, gain, ?_, ?_, added, position, alone⟩
    · rw [sending]
      exact mem_filter.mpr ⟨member, by simpa using different⟩
    · change without.sending.filter _ = (state.sending.filter _).filter _
      rw [sending, filter_filter_comm]
    · simp only [send, track]
      split
      · rw [commands, filter_append]
        simp [different]
      · exact commands
  | seeked seek rest waiting alive succeeded inMixer room =>
    have different : seek.number ≠ number := by simpa [SeekAct.ofSeek] using ofOther
    rw [← track] at alive inMixer room
    refine ⟨_, .seeked seek _ (apart.commands_cons waiting different) alive succeeded inMixer room,
      ?_, gain, sending, rfl, added, position, alone⟩
    dsimp only
    rw [track]
  | passed seek rest waiting alive unmarked =>
    have different : seek.number ≠ number := by simpa [SeekAct.ofSeek] using ofOther
    rw [← track] at alive unmarked
    exact ⟨_, .passed seek _ (apart.commands_cons waiting different) alive unmarked, track, gain,
      sending, rfl, added, position, alone⟩

end

theorem run_apart {number base other : Nat} (failed : succeeds number = false) (acts : List SeekAct)
    (later : ∀ act ∈ acts, act.isStore = false) (apart : Apart number base other state without)
    (reached : (seekSystem succeeds).run state acts = some next) :
    ∃ last, (seekSystem succeeds).run without (acts.filter fun act => !act.ofSeek number) =
        some last ∧ Apart number base other next last := by
  refine (seekSystem succeeds).run_without (SeekAct.ofSeek number)
    (fun act => act.isStore = false) (Apart number base other) ?_ ?_ acts later apart reached
  · intro state without act next apart later ofSeek stepped
    exact apart.dropped failed later ofSeek (stepped_of_step stepped)
  · intro state without act next apart later ofOther stepped
    obtain ⟨after, matched, stays⟩ := apart.matched later ofOther (stepped_of_step stepped)
    exact ⟨after, matched.step, stays⟩

/-! ## The flush marker -/

theorem run_reported (acts : List SeekAct) (whole : ∀ act ∈ acts, act.wholeFrames = true)
    (quiet : ∀ act ∈ acts, act ≠ .addPosition) (sound : state.Sound)
    (reached : (seekSystem succeeds).run state acts = some next) :
    next.reported = state.reported :=
  ((seekSystem succeeds).run_invariant_of_forall
    (fun other => other.Sound ∧ other.reported = state.reported)
    (fun holds both stepped =>
      have moved := holds.1.same both.1 both.2 (stepped_of_step stepped)
      ⟨moved.1, moved.2.trans holds.2⟩)
    acts (fun act member => And.intro (whole act member) (quiet act member)) ⟨sound, rfl⟩
    reached).2

/-- A call adds to the position of a track of the mixer, while no marker waits, and takes a marker
when nothing it has mixed is still to be added. -/
def keepsOut (state : SeekTrack) : SeekAct → Bool
  | .addPosition => state.track.inMixer && !state.track.frames.contains (.pcm [])
  | .track .pull =>
    state.track.frames.head? != some (.pcm []) || state.reported == state.track.mixed
  | .track _ | .store _ | .send _ | .handle _ => true

/-- The marker of the seek waits, or the mixer has taken it, or the track has left the mixer; and
the samples reported since `start` are from `limit` on. -/
inductive Flushed (limit : Nat) (start : List Nat) (state : SeekTrack) : Prop where
  | waiting (front back : List AudioFrame) (frames : state.track.frames = front ++ .pcm [] :: back)
      (pushed : limit ≤ state.track.pushedCount) (later : ∀ frame ∈ back, frame.IsFrom limit)
      (same : state.reported = start)
  | taken (fresh : state.track.Fresh limit start.length)
  | left (left : state.track.inMixer = false) (same : state.reported = start)

theorem Flushed.stale_eq_nil {stored handling : SeekTrack}
    (flushed : Flushed handling.track.pushedCount stored.reported state) :
    state.stale stored handling = [] := by
  refine filter_eq_nil_iff.mpr fun sample member => ?_
  cases flushed with
  | waiting _ _ _ _ _ same | left _ same =>
    rw [same, drop_length] at member
    cases member
  | taken fresh =>
    change sample ∈ (state.track.mixed.take _).drop _ at member
    rw [drop_take] at member
    simpa using fresh.mixed sample (mem_of_mem_take member)

theorem Stepped.moved (stepped : Stepped succeeds state act next) :
    next.track = state.track ∨
      ∃ inner, state.track.Stepped inner next.track ∧ (inner = .pull → act = .track .pull) := by
  cases stepped with
  | track act track _ stepped =>
    exact .inr ⟨act, Track.stepped_of_step stepped, fun pulls => pulls ▸ rfl⟩
  | seeked _ _ _ _ _ _ room => exact .inr ⟨.flush, .flush room, nofun⟩
  | addPosition _ | store _ _ | send _ _ | passed _ _ _ _ _ => exact .inl rfl

section

variable {limit : Nat} (sound : state.Sound)
include sound

theorem Flushed.pulled {front back : List AudioFrame} {loaded : PlaybackState}
    {outLen filled : Nat} (frames : state.track.frames = front ++ .pcm [] :: back)
    (pushed : limit ≤ state.track.pushedCount) (later : ∀ frame ∈ back, frame.IsFrom limit)
    (same : state.reported = start) (kept : next.reported = start)
    (pulling : state.track.point = .pulling loaded outLen filled)
    (keeps : state.keepsOut (.track .pull) = true)
    (pulled : next.track = state.track.pull loaded outLen filled) : Flushed limit start next := by
  by_cases full : outLen ≤ filled
  · rw [Track.pull, if_pos (.inl full)] at pulled
    exact .waiting front back (by rw [pulled, frames]) (by rw [pulled]; exact pushed) later kept
  have turn := state.track.pull_pulled loaded outLen filled
  rw [← pulled] at turn
  generalize nextTrack : next.track = track at turn
  cases turn with
  | close | finish _ _ _ _ _ | pop _ =>
    exact .waiting front back (by rw [nextTrack]; exact frames) (by rw [nextTrack]; exact pushed)
      later kept
  | receive frame rest _ waiting =>
    cases front with
    | cons first front =>
      cases waiting.symm.trans frames
      exact .waiting front back (by rw [nextTrack]; rfl) (by rw [nextTrack]; exact pushed) later
        kept
    | nil =>
      cases waiting.symm.trans frames
      have none := sound.paired.room loaded outLen filled pulling (Nat.not_le.mp full)
      have mixed : state.reported = state.track.mixed := by simpa [keepsOut, waiting] using keeps
      refine .taken ?_
      rw [nextTrack]
      exact ⟨pushed, later, forall_mem_nil _, by simp [none], by simp [← mixed, same]⟩

theorem Flushed.step (flushed : Flushed limit start state) (whole : act.wholeFrames = true)
    (keeps : state.keepsOut act = true) (stepped : Stepped succeeds state act next) :
    Flushed limit start next := by
  by_cases adds : act = .addPosition
  · subst adds
    cases stepped with
    | addPosition owed =>
      cases flushed with
      | waiting front back frames _ _ _ => simp [keepsOut, frames] at keeps
      | taken fresh => exact .taken fresh
      | left left _ => simp [keepsOut, left] at keeps
  have kept := (sound.same whole adds stepped).2
  obtain unchanged | ⟨inner, moved, pulls⟩ := stepped.moved
  · cases flushed with
    | waiting front back frames pushed later same =>
      exact .waiting front back (unchanged ▸ frames) (unchanged ▸ pushed) later (kept.trans same)
    | taken fresh => exact .taken (unchanged ▸ fresh)
    | left left same => exact .left (unchanged ▸ left) (kept.trans same)
  cases flushed with
  | taken fresh => exact .taken (fresh.step moved)
  | left left same =>
    refine .left ((moved.inMixer fun outLen retains => ?_).trans left) (kept.trans same)
    subst retains
    generalize next.track = track at moved
    cases moved with
    | retain _ inMixer _ => cases inMixer.symm.trans left
  | waiting front back frames pushed later same =>
    by_cases pull : inner = .pull
    · subst pull
      rw [pulls rfl] at keeps
      generalize nextTrack : next.track = track at moved
      cases moved with
      | pull loaded outLen filled pulling =>
        exact .pulled sound frames pushed later same (kept.trans same) pulling keeps nextTrack
    · obtain ⟨grows, more, appended, new⟩ := moved.frames pull
      refine .waiting front (back ++ more) (by rw [appended, frames]; simp)
        (Nat.le_trans pushed grows) ?_ (kept.trans same)
      exact forall_mem_append.mpr ⟨later, fun frame member => (new frame member).mono pushed⟩

end

theorem run_flushed {limit : Nat} (acts : List SeekAct)
    (whole : ∀ act ∈ acts, act.wholeFrames = true)
    (keeps : (seekSystem succeeds).Meets (fun state act => state.keepsOut act = true) state acts)
    (sound : state.Sound) (flushed : Flushed limit start state)
    (reached : (seekSystem succeeds).run state acts = some next) : Flushed limit start next :=
  ((seekSystem succeeds).run_invariant
    (fun state act => act.wholeFrames = true ∧ state.keepsOut act = true)
    (fun state => state.Sound ∧ Flushed limit start state)
    (fun ⟨sound, flushed⟩ both stepped =>
      have stepped := stepped_of_step stepped
      ⟨sound.step both.1 stepped, flushed.step sound both.1 both.2 stepped⟩)
    acts ⟨sound, flushed⟩
    ((seekSystem succeeds).meets_and acts
      ((seekSystem succeeds).meets_of_forall _ acts (fun act member _ => whole act member) state)
      keeps)
    reached).2

theorem flushed_of_handle {number : Nat} (succeeded : succeeds number = true)
    (same : state.reported = start) (sound : state.Sound)
    (stepped : Stepped succeeds state (.handle number) next) :
    Flushed state.track.pushedCount start next := by
  have kept := (sound.same rfl (by simp) stepped).2.trans same
  cases stepped with
  | seeked _ _ _ _ _ _ _ => exact .waiting state.track.frames [] rfl (Nat.le_refl _) nofun kept
  | passed _ _ _ _ unmarked =>
    exact .left (Bool.eq_false_of_not_eq_true fun inMixer => unmarked ⟨succeeded, inMixer⟩) kept

theorem reported_eq_mixed (state : SeekTrack) (outside : state.track.point.filled = 0)
    (added : state.gain = 0) : state.reported = state.track.mixed := by
  rw [reported, state.track.length_counted, outside, added]
  exact take_length

/-- The position since the last store, with the samples from before the seek and after it. -/
theorem CountsFrom.split {stored : SeekTrack} (handling : SeekTrack)
    (counts : CountsFrom stored.reported base state) :
    2 ∣ (state.stale stored handling).length + (state.fresh stored handling).length ∧
      state.position = (base + ((state.stale stored handling).length +
        (state.fresh stored handling).length) / 2) % 2 ^ 64 := by
  obtain ⟨more, reported, even, position⟩ := counts.since
  have since : state.reported.drop stored.reported.length = more := by
    rw [reported, drop_left]
  have length : more.length =
      (state.stale stored handling).length + (state.fresh stored handling).length := by
    rw [stale, fresh, since]
    exact length_eq_length_filter_add _
  rw [← length]
  exact ⟨even, position⟩

theorem getPosition_of_fits (state : SeekTrack) {positionMs frames : Nat}
    (fits : (positionMs * 48 + frames) * 1000 < 2 ^ 64)
    (position : state.position = (positionMs * 48000 % 2 ^ 64 / 1000 + frames) % 2 ^ 64) :
    state.handle.getPosition = positionMs + frames / 48 := by
  have samples : positionMs * 48000 % 2 ^ 64 / 1000 = positionMs * 48 := by omega
  have cell : state.handle.position = state.position := rfl
  have below : positionMs * 48 + frames < 2 ^ 64 := by omega
  rw [TrackHandle.getPosition, cell, position, samples, Nat.mod_eq_of_lt below,
    Nat.mod_eq_of_lt fits, Nat.mul_div_mul_right _ 48 (by decide : 0 < 1000),
    Nat.add_comm, Nat.add_mul_div_right _ _ (by decide), Nat.add_comm]

end SeekTrack

open SeekTrack

/-- A call of `seek` in any run and the handling of its command, with no later call.  If it
succeeds, the position is the one asked for plus the frames from after it, when no call adds
between the store and the handling, then none while a marker waits, and a marker is taken with
nothing mixed still to be added; it is wrong once an older sample is reported.  If it fails, all
goes on as without the call, with the same position exactly if it stored the one there was. -/
theorem position_after_seek (succeeds : Nat → Bool) (capacity : Nat) (seek : Seek)
    (before middle after : List SeekAct) (stored handling final : SeekTrack)
    (reached : (seekSystem succeeds).run (new capacity) before = some stored)
    (sought : (seekSystem succeeds).run stored (.store seek :: middle) = some handling)
    (handled : (seekSystem succeeds).run handling (.handle seek.number :: after) = some final)
    (last : ∀ act ∈ middle ++ after, act.isStore = false)
    (whole : ∀ act ∈ before ++ middle ++ after, act.wholeFrames = true) :
    (final.track.point.filled = 0 → final.gain = 0 → final.reported = final.track.mixed) ∧
    (succeeds seek.number = true →
      ((∀ act ∈ middle, act ≠ .addPosition) →
        (seekSystem succeeds).Meets (fun state act => state.keepsOut act = true) handling
          (.handle seek.number :: after) →
        final.stale stored handling = [] ∧
        final.position = ((stored.handle.seek seek.positionMs).position +
          (final.fresh stored handling).length / 2) % 2 ^ 64 ∧
        ((seek.positionMs * 48 + (final.fresh stored handling).length / 2) * 1000 < 2 ^ 64 →
          final.handle.getPosition =
            seek.positionMs + (final.fresh stored handling).length / 2 / 48)) ∧
      (final.stale stored handling ≠ [] → (final.stale stored handling).length < 2 ^ 64 →
        final.position ≠ ((stored.handle.seek seek.positionMs).position +
          (final.fresh stored handling).length / 2) % 2 ^ 64)) ∧
    (succeeds seek.number = false →
      ∃ without, (seekSystem succeeds).run stored
          ((middle ++ .handle seek.number :: after).filter fun act => !act.ofSeek seek.number) =
            some without ∧
        without.track = final.track ∧
        (final.position = without.position ↔
          (stored.handle.seek seek.positionMs).position = stored.position)) := by
  obtain ⟨wholeStart, wholeAfter⟩ := forall_mem_append.mp whole
  obtain ⟨wholeBefore, wholeMiddle⟩ := forall_mem_append.mp wholeStart
  obtain ⟨lastMiddle, lastAfter⟩ := forall_mem_append.mp last
  obtain ⟨next, stepped, between⟩ := (seekSystem succeeds).run_cons_some sought
  have sound := run_sound before wholeBefore (new_sound capacity) reached
  obtain ⟨fresh, rfl⟩ : (∀ other ∈ stored.sending ++ stored.commands,
      other.number ≠ seek.number) ∧ next = stored.store seek := by
    cases stepped_of_step stepped with
    | store _ fresh => exact ⟨fresh, rfl⟩
  have wholeHandle : ∀ act ∈ middle ++ .handle seek.number :: after, act.wholeFrames = true :=
    forall_mem_append.mpr ⟨wholeMiddle, forall_mem_cons.mpr ⟨rfl, wholeAfter⟩⟩
  have lastHandle : ∀ act ∈ middle ++ .handle seek.number :: after, act.isStore = false :=
    forall_mem_append.mpr ⟨lastMiddle, forall_mem_cons.mpr ⟨rfl, lastAfter⟩⟩
  have run : (seekSystem succeeds).run (stored.store seek)
      (middle ++ .handle seek.number :: after) = some final :=
    ((seekSystem succeeds).run_append middle _ _ handling between).trans handled
  refine ⟨final.reported_eq_mixed, fun succeeded => ?_, fun failed => ?_⟩
  · have counts : CountsFrom stored.reported (stored.handle.seek seek.positionMs).position final :=
      run_countsFrom _ wholeHandle lastHandle (sound.store seek).countsFrom run
    obtain ⟨even, position⟩ := counts.split handling
    refine ⟨fun quiet keeps => ?_, fun some short same => ?_⟩
    · have handlingSound := run_sound middle wholeMiddle (sound.store seek) between
      obtain ⟨taken, takes, rest⟩ := (seekSystem succeeds).run_cons_some handled
      have flushed := flushed_of_handle succeeded
        (run_reported middle wholeMiddle quiet (sound.store seek) between) handlingSound
        (stepped_of_step takes)
      have none : final.stale stored handling = [] :=
        (run_flushed after wholeAfter (keeps.2 taken takes)
          (handlingSound.step rfl (stepped_of_step takes)) flushed rest).stale_eq_nil
      rw [none, length_nil, Nat.zero_add] at position
      exact ⟨none, position, fun fits => final.getPosition_of_fits fits position⟩
    · have positive := length_pos_iff.mpr some
      rw [position] at same
      omega
  · obtain ⟨without, alone, apart⟩ := run_apart failed _ lastHandle (sound.apart fresh) run
    obtain ⟨added, position, otherwise⟩ := apart.position
    refine ⟨without, alone, apart.track, ?_⟩
    have small : (stored.handle.seek seek.positionMs).position < 2 ^ 64 := (sound.store seek).small
    have smaller := sound.small
    change final.position = ((stored.handle.seek seek.positionMs).position + added) % 2 ^ 64
      at position
    rw [position, otherwise]
    omega

def toOneSecond : Seek := ⟨0, 1000⟩

def frameCall (turns : Nat) : List SeekAct :=
  [.track (.retain 1920), .track .load] ++ List.replicate turns (.track .pull) ++
    [.addPosition, .track (.storeStopped false), .track (.storeRamp false)]

/-- Samples from before the seek are flushed, and a frame that is pushed after it counts: twenty
milliseconds. -/
theorem frame_after_seek_reported :
    ∃ stored handling final,
      (seekSystem fun _ => true).run (new 4) [.track (.push 1000)] = some stored ∧
      (seekSystem fun _ => true).run stored [.store toOneSecond, .send toOneSecond] =
        some handling ∧
      (seekSystem fun _ => true).run handling
        (.handle 0 :: .track (.push 1920) :: frameCall 5) = some final ∧
      final.handle.getPosition = 1020 := by
  have run : (((seekSystem fun _ => true).run (new 4) [.track (.push 1000)]).bind fun stored =>
      ((seekSystem fun _ => true).run stored [.store toOneSecond, .send toOneSecond]).bind
        fun handling => ((seekSystem fun _ => true).run handling
          (.handle 0 :: .track (.push 1920) :: frameCall 5)).map fun final =>
            (decide ((seekSystem fun _ => true).Meets (fun state act => state.keepsOut act = true)
              handling (.handle 0 :: .track (.push 1920) :: frameCall 5)),
              (final.fresh stored handling).length)) = some (true, 1920) := by
    decide +kernel
  obtain ⟨stored, pushed, rest⟩ := bind_eq_some_iff.mp run
  obtain ⟨handling, sought, rest⟩ := bind_eq_some_iff.mp rest
  obtain ⟨final, handled, found⟩ := map_eq_some_iff.mp rest
  obtain ⟨keeps, frame⟩ := Prod.mk.inj found
  obtain ⟨_, succeeded, _⟩ := position_after_seek (fun _ => true) 4 toOneSecond
    [.track (.push 1000)] [.send toOneSecond] (.track (.push 1920) :: frameCall 5) stored handling
    final pushed sought handled (by decide) (by decide)
  have reported := ((succeeded rfl).1 (by simp) (of_decide_eq_true keeps)).2.2
  rw [frame] at reported
  exact ⟨stored, handling, final, pushed, sought, handled, reported (by decide)⟩

/-- A frame that was pushed before the seek and is mixed before the decoder takes the command
counts as well, and a seek that fails moves the position by a second. -/
theorem stale_frame_and_failed_seek_reported :
    (∃ stored handling final,
      (seekSystem fun _ => true).run (new 4) [.track (.push 1920)] = some stored ∧
      (seekSystem fun _ => true).run stored
        (.store toOneSecond :: .send toOneSecond :: frameCall 3) = some handling ∧
      (seekSystem fun _ => true).run handling [.handle 0] = some final ∧
      final.fresh stored handling = [] ∧ final.handle.getPosition = 1020) ∧
    ∃ final, (seekSystem fun _ => false).run (new 4)
        [.store toOneSecond, .send toOneSecond, .handle 0] = some final ∧
      (new 4).handle.getPosition = 0 ∧ final.handle.getPosition = 1000 := by
  refine ⟨?_, ?_⟩
  · have run : (((seekSystem fun _ => true).run (new 4) [.track (.push 1920)]).bind
        fun stored => ((seekSystem fun _ => true).run stored
          (.store toOneSecond :: .send toOneSecond :: frameCall 3)).bind fun handling =>
            ((seekSystem fun _ => true).run handling [.handle 0]).map fun final =>
              (final.fresh stored handling, final.handle.getPosition)) = some ([], 1020) := by
      decide +kernel
    obtain ⟨stored, pushed, rest⟩ := bind_eq_some_iff.mp run
    obtain ⟨handling, sought, rest⟩ := bind_eq_some_iff.mp rest
    obtain ⟨final, handled, found⟩ := map_eq_some_iff.mp rest
    obtain ⟨nothing, position⟩ := Prod.mk.inj found
    exact ⟨stored, handling, final, pushed, sought, handled, nothing, position⟩
  · have run : ((seekSystem fun _ => false).run (new 4)
        [.store toOneSecond, .send toOneSecond, .handle 0]).map
          (fun final => final.handle.getPosition) = some 1000 := by
      decide +kernel
    obtain ⟨final, reached, position⟩ := map_eq_some_iff.mp run
    exact ⟨final, reached, rfl, position⟩

end KizunaLink.Engine
