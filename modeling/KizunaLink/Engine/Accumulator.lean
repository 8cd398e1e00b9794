import KizunaLink.Engine.Mixer

/-!
# The accumulator of the mixer

Model of `Mixer::mix` (engine/mix/mixer.rs) over all its tracks, up to the sum in
`mix_buf`; what follows it (the limiter, the sound-effect layers and the copy into the
caller's buffer) reads that sum only.  A call visits the tracks one after the other: it
reads the state of a track, drains what is left of its last frame, pulls frames until
the buffer is full, and stores what the track's handle sees.  Other threads write the
state cells at any time.

What `try_pop_frame` answers and what the effects decide is part of the act, so a frame
may have any samples and any length.  Sums are those of a release build, which wrap.
-/

set_option autoImplicit false

namespace KizunaLink.Engine

open KizunaLink.Lib List

/-- An `i32`, for what it stands for. -/
def wrapI32 (value : Int) : Int := value.bmod (2 ^ 32)

def addInto : List Int → List Int16 → List Int
  | acc :: room, sample :: samples => wrapI32 (acc + sample.toInt) :: addInto room samples
  | acc :: room, [] => acc :: room
  | [], _ => []

def accumulate (mixBuf : List Int) (filled : Nat) (samples : List Int16) : List Int :=
  mixBuf.take filled ++ addInto (mixBuf.drop filled) samples

/-- `earlier` and `added` are the samples that the track has contributed in earlier calls and
in the current one, and `popped` those of the frames from its flow. -/
structure MixerTrack where
  id : Nat
  cell : PlaybackState := .playing
  pending : List Int16 := []
  pendingPos : Nat := 0
  finished : Bool := false
  position : Nat := 0
  isBuffering : Bool := false
  popped : List Int16 := []
  earlier : List Int16 := []
  added : List Int16 := []
  deriving DecidableEq, Repr

namespace MixerTrack

variable (track : MixerTrack)

def leftover : List Int16 := track.pending.drop track.pendingPos

def contributed : List Int16 := track.earlier ++ track.added

/-- The leftover goes to the front of the output buffer, as much of it as fits. -/
def drain (outLen : Nat) : MixerTrack :=
  if track.pendingPos < track.pending.length then
    let avail := min outLen track.leftover.length
    let drained := decide (track.pending.length ≤ track.pendingPos + avail)
    { track with
      pending := if drained then [] else track.pending
      pendingPos := if drained then 0 else track.pendingPos + avail
      added := track.added ++ track.leftover.take avail }
  else track

/-- A frame that was popped goes behind it, and what does not fit becomes the leftover. -/
def takeFrame (room : Nat) (frame : List Int16) : MixerTrack :=
  let count := min frame.length room
  { track with
    pending := if count < frame.length then track.pending ++ frame.drop count else track.pending
    pendingPos := if count < frame.length then 0 else track.pendingPos
    popped := track.popped ++ frame
    added := track.added ++ frame.take count }

/-- `fetch_add` wraps. -/
def report (filled : Nat) : MixerTrack :=
  if 0 < filled then
    { track with position := (track.position + filled / 2) % 2 ^ 64, isBuffering := false }
  else if track.finished then track
  else { track with isBuffering := true }

def storeStopped (tapeActive : Bool) : MixerTrack :=
  if track.finished && track.pending.isEmpty && !tapeActive then { track with cell := .stopped }
  else track

def storeRamp (loaded : PlaybackState) (rampCompleted : Bool) : MixerTrack :=
  match rampCompleted, loaded with
  | true, .stopping => { track with cell := .paused }
  | true, .starting => { track with cell := .playing }
  | _, _ => track

/-- Another thread stores the state of the track with this number. -/
def storeCell (id : Nat) (cell : PlaybackState) : MixerTrack :=
  if track.id = id then { track with cell } else track

def begin : MixerTrack := { track with earlier := track.contributed, added := [] }

end MixerTrack

/-! ## The mixer -/

/-- What `try_pop_frame` answers. -/
inductive PopAnswer where
  | frame (samples : List Int16)
  | empty
  | failed
  deriving DecidableEq, Repr

/-- Where a call stands: between two tracks, or in the first of those it has still to visit. -/
inductive BusPoint where
  | idle
  | looping
  | pulling (loaded : PlaybackState) (filled : Nat)
  | closing (loaded : PlaybackState)
  | ramping (loaded : PlaybackState)
  deriving DecidableEq, Repr

/-- The tracks that the current call has visited, and the others; `hasAudio` is what the call
returns if no sound-effect layer is there. -/
structure MixBus where
  visited : List MixerTrack := []
  waiting : List MixerTrack := []
  mixBuf : List Int := []
  outLen : Nat := 0
  hasAudio : Bool := false
  point : BusPoint := .idle
  created : Nat := 0
  deriving DecidableEq, Repr

namespace MixBus

variable (bus : MixBus)

def tracks : List MixerTrack := bus.visited ++ bus.waiting

def addTrack (cell : PlaybackState) : MixBus :=
  { bus with
    waiting := bus.waiting ++ [{ id := bus.created, cell }]
    created := bus.created + 1 }

def keep (stays : MixerTrack → Bool) : MixBus :=
  { bus with visited := [], waiting := bus.tracks.filter stays }

def setCell (id : Nat) (cell : PlaybackState) : MixBus :=
  { bus with
    visited := bus.visited.map (·.storeCell id cell)
    waiting := bus.waiting.map (·.storeCell id cell) }

/-- The accumulator is cleared, and tracks that are stopped leave the mixer. -/
def beginMix (outLen : Nat) : MixBus :=
  { bus with
    visited := []
    waiting := (bus.tracks.filter (·.cell ≠ .stopped)).map MixerTrack.begin
    mixBuf := List.replicate outLen 0
    outLen
    hasAudio := false
    point := .looping }

def leave (track : MixerTrack) (rest : List MixerTrack) : MixBus :=
  { bus with visited := bus.visited ++ [track], waiting := rest, point := .looping }

def enter (track : MixerTrack) (rest : List MixerTrack) : MixBus :=
  if track.cell = .paused ∨ track.cell = .stopped then bus.leave track rest
  else
    let avail := min bus.outLen track.leftover.length
    { bus with
      waiting := track.drain bus.outLen :: rest
      mixBuf := accumulate bus.mixBuf 0 (track.leftover.take avail)
      point := .pulling track.cell avail }

def close (track : MixerTrack) (rest : List MixerTrack) (loaded : PlaybackState) (filled : Nat) :
    MixBus :=
  { bus with
    waiting := track.report filled :: rest
    hasAudio := bus.hasAudio || decide (0 < filled)
    point := .closing loaded }

/-- One turn of the loop that pulls frames. -/
def pull (track : MixerTrack) (rest : List MixerTrack) (loaded : PlaybackState) (filled : Nat)
    (answer : PopAnswer) : MixBus :=
  if bus.outLen ≤ filled ∨ track.finished = true then bus.close track rest loaded filled
  else
    match answer with
    | .frame frame =>
      let count := min frame.length (bus.outLen - filled)
      { bus with
        waiting := track.takeFrame (bus.outLen - filled) frame :: rest
        mixBuf := accumulate bus.mixBuf filled (frame.take count)
        point := .pulling loaded (filled + count) }
    | .empty => bus.close track rest loaded filled
    | .failed => bus.close { track with finished := true } rest loaded filled

end MixBus

inductive BusAct where
  | addTrack (cell : PlaybackState)
  | stopTrack (id : Nat)
  | stopAll
  | setCell (id : Nat) (cell : PlaybackState)
  | mix (outLen : Nat)
  | enter
  | pull (answer : PopAnswer)
  | storeStopped (tapeActive : Bool)
  | storeRamp (rampCompleted : Bool)
  | finish
  deriving DecidableEq, Repr

def MixBus.step (bus : MixBus) : BusAct → Option MixBus
  | .addTrack cell => if bus.point = .idle then some (bus.addTrack cell) else none
  | .stopTrack id => if bus.point = .idle then some (bus.keep (·.id ≠ id)) else none
  | .stopAll => if bus.point = .idle then some (bus.keep fun _ => false) else none
  | .setCell id cell => some (bus.setCell id cell)
  | .mix outLen => if bus.point = .idle then some (bus.beginMix outLen) else none
  | .enter =>
    match bus.point, bus.waiting with
    | .looping, track :: rest => some (bus.enter track rest)
    | _, _ => none
  | .pull answer =>
    match bus.point, bus.waiting with
    | .pulling loaded filled, track :: rest => some (bus.pull track rest loaded filled answer)
    | _, _ => none
  | .storeStopped tapeActive =>
    match bus.point, bus.waiting with
    | .closing loaded, track :: rest =>
      some { bus with
        waiting := track.storeStopped tapeActive :: rest
        point := .ramping loaded }
    | _, _ => none
  | .storeRamp rampCompleted =>
    match bus.point, bus.waiting with
    | .ramping loaded, track :: rest =>
      some (bus.leave (track.storeRamp loaded rampCompleted) rest)
    | _, _ => none
  | .finish =>
    match bus.point, bus.waiting with
    | .looping, [] => some { bus with point := .idle }
    | _, _ => none

def mixBusSystem : System MixBus BusAct := ⟨MixBus.step⟩

/-! ## What the accumulator holds -/

/-- What a list of samples adds at an index. -/
def sampleAt (samples : List Int16) (index : Nat) : Int :=
  (samples[index]?.map Int16.toInt).getD 0

variable (samples : List Int16)

theorem sampleAt_of_length_le {samples : List Int16} {index : Nat}
    (past : samples.length ≤ index) : sampleAt samples index = 0 := by
  simp [sampleAt, List.getElem?_eq_none past]

theorem sampleAt_append (front back : List Int16) (index : Nat) :
    sampleAt (front ++ back) index =
      sampleAt front index + if front.length ≤ index then sampleAt back (index - front.length)
        else 0 := by
  by_cases past : front.length ≤ index
  · rw [if_pos past, sampleAt_of_length_le past, Int.zero_add, sampleAt,
      List.getElem?_append_right past]
    rfl
  · rw [if_neg past, Int.add_zero, sampleAt, List.getElem?_append_left (by omega)]
    rfl

theorem wrapI32_add (value more : Int) : wrapI32 (wrapI32 value + more) = wrapI32 (value + more) :=
  Int.bmod_add_bmod

@[simp]
theorem length_addInto (room : List Int) (samples : List Int16) :
    (addInto room samples).length = room.length := by
  induction room generalizing samples with
  | nil => rfl
  | cons acc room ih => cases samples <;> simp [addInto, ih]

theorem getElem?_addInto {room : List Int} {index : Nat} {value : Int}
    (stands : room[index]? = some (wrapI32 value)) :
    (addInto room samples)[index]? = some (wrapI32 (value + sampleAt samples index)) := by
  induction room generalizing samples index with
  | nil => simp at stands
  | cons acc room ih =>
    cases samples with
    | nil => simpa [addInto, sampleAt] using stands
    | cons sample samples =>
      cases index with
      | zero =>
        have stands : acc = wrapI32 value := by simpa using stands
        simp [addInto, sampleAt, stands, wrapI32_add]
      | succ index =>
        have later := ih samples (by simpa using stands)
        simpa [addInto, sampleAt] using later

@[simp]
theorem length_accumulate (mixBuf : List Int) (filled : Nat) (samples : List Int16) :
    (accumulate mixBuf filled samples).length = mixBuf.length := by
  simp only [accumulate, length_append, length_take, length_addInto, length_drop]
  omega

theorem getElem?_accumulate {mixBuf : List Int} {index : Nat} {others : Int} {added : List Int16}
    (fits : added.length ≤ mixBuf.length)
    (stands : mixBuf[index]? = some (wrapI32 (others + sampleAt added index))) :
    (accumulate mixBuf added.length samples)[index]? =
      some (wrapI32 (others + sampleAt (added ++ samples) index)) := by
  have front : (mixBuf.take added.length).length = added.length := by simpa using fits
  rw [sampleAt_append, accumulate]
  by_cases past : added.length ≤ index
  · rw [if_pos past, List.getElem?_append_right (by omega), front]
    have room : (mixBuf.drop added.length)[index - added.length]? =
        some (wrapI32 (others + sampleAt added index)) := by
      rw [List.getElem?_drop, Nat.add_sub_cancel' past, stands]
    rw [getElem?_addInto samples room]
    congr 2
    ring
  · rw [if_neg past, List.getElem?_append_left (by omega), List.getElem?_take_of_lt (by omega),
      stands, Int.add_zero]

def totalAt (tracks : List MixerTrack) (index : Nat) : Int :=
  (tracks.map fun track => sampleAt track.added index).sum

theorem totalAt_middle (visited rest : List MixerTrack) (track : MixerTrack) (index : Nat) :
    totalAt (visited ++ track :: rest) index =
      totalAt visited index + totalAt rest index + sampleAt track.added index := by
  simp only [totalAt, map_append, map_cons, sum_append, sum_cons]
  ring

theorem totalAt_map {change : MixerTrack → MixerTrack} (tracks : List MixerTrack) (index : Nat)
    (same : ∀ track, (change track).added = track.added) :
    totalAt (tracks.map change) index = totalAt tracks index := by
  simp [totalAt, List.map_map, Function.comp_def, same]

theorem totalAt_fresh {tracks : List MixerTrack} (index : Nat)
    (fresh : ∀ track ∈ tracks, track.added = []) : totalAt tracks index = 0 := by
  induction tracks with
  | nil => rfl
  | cons track tracks ih =>
    have first : track.added = [] := fresh track (by simp)
    have others := ih fun other inside => fresh other (by simp [inside])
    rw [totalAt, map_cons, sum_cons, first, sampleAt_of_length_le (Nat.zero_le _)]
    simpa [totalAt] using others

/-! ## What a track keeps -/

namespace MixerTrack

/-- What was popped is what was contributed and the leftover; the cursor is in the pending
samples as long as there are any. -/
structure Kept (track : MixerTrack) : Prop where
  popped : track.popped = track.contributed ++ track.leftover
  cursor : track.pending = [] ∨ track.pendingPos < track.pending.length

variable {track : MixerTrack}

theorem Kept.begin (kept : track.Kept) : track.begin.Kept where
  popped := by
    rw [show track.begin.contributed = track.contributed by simp [MixerTrack.begin, contributed]]
    exact kept.popped
  cursor := kept.cursor

def drained (track : MixerTrack) (outLen : Nat) : List Int16 :=
  track.leftover.take (min outLen track.leftover.length)

theorem leftover_eq_nil_of_le (past : track.pending.length ≤ track.pendingPos) :
    track.leftover = [] :=
  drop_eq_nil_of_le past

theorem drain_of_le (past : track.pending.length ≤ track.pendingPos) (outLen : Nat) :
    track.drain outLen = track :=
  if_neg (by omega)

theorem added_drain (track : MixerTrack) (outLen : Nat) :
    (track.drain outLen).added = track.added ++ track.drained outLen := by
  by_cases past : track.pending.length ≤ track.pendingPos
  · simp [drain_of_le past, drained, leftover_eq_nil_of_le past]
  · rw [drain, if_pos (by omega)]
    rfl

theorem drain_of_lt (inside : track.pendingPos < track.pending.length) (outLen : Nat) :
    track.drain outLen =
      { track with
        pending := if track.leftover.length ≤ outLen then [] else track.pending
        pendingPos := if track.leftover.length ≤ outLen then 0 else track.pendingPos + outLen
        added := track.added ++ track.drained outLen } := by
  have size : track.leftover.length = track.pending.length - track.pendingPos := by
    simp [leftover]
  by_cases whole : track.leftover.length ≤ outLen
  · have last : track.pending.length ≤ track.pendingPos + track.leftover.length := by omega
    simp [drain, drained, if_pos inside, whole, last]
  · have more : ¬ track.pending.length ≤ track.pendingPos + outLen := by omega
    have part : min outLen track.leftover.length = outLen := by omega
    simp [drain, drained, if_pos inside, whole, part, more]

theorem Kept.drain (kept : track.Kept) (outLen : Nat) : (track.drain outLen).Kept := by
  rcases kept.cursor with none | inside
  · rw [drain_of_le (by simp [none])]
    exact kept
  · have whole : track.drained outLen ++ track.leftover.drop outLen = track.leftover := by
      rw [drained, ← take_eq_take_min, take_append_drop]
    have left : (track.drain outLen).leftover = track.leftover.drop outLen := by
      rw [drain_of_lt inside, leftover]
      by_cases all : track.leftover.length ≤ outLen
      · simp [all, drop_eq_nil_of_le all]
      · simp only [if_neg all]
        rw [leftover, drop_drop]
    constructor
    · rw [left, drain_of_lt inside, contributed]
      simp only [kept.popped, contributed, append_assoc, whole]
    · rw [drain_of_lt inside]
      by_cases all : track.leftover.length ≤ outLen
      · simp [all]
      · simp only [all, if_false]
        rw [leftover, length_drop] at all
        exact .inr (by omega)

theorem Kept.pending_drain_eq_nil (kept : track.Kept) {outLen : Nat}
    (room : track.leftover.length < outLen) : (track.drain outLen).pending = [] := by
  rcases kept.cursor with none | inside
  · rw [drain_of_le (by simp [none]), none]
  · rw [drain_of_lt inside]
    exact if_pos (by omega)

theorem length_drained (track : MixerTrack) (outLen : Nat) :
    (track.drained outLen).length = min outLen track.leftover.length := by
  simp [drained]

/-- A frame is popped when nothing is pending, so what does not fit is all that is left. -/
theorem Kept.takeFrame (kept : track.Kept) (nothing : track.pending = []) (room : Nat)
    (frame : List Int16) : (track.takeFrame room frame).Kept := by
  have before : track.popped = track.contributed := by
    simpa [leftover, nothing] using kept.popped
  by_cases fits : frame.length ≤ room
  · have whole : min frame.length room = frame.length := Nat.min_eq_left fits
    refine ⟨?_, .inl (by simp [MixerTrack.takeFrame, whole, nothing])⟩
    simp [MixerTrack.takeFrame, whole, before, contributed, leftover, nothing]
  · have part : min frame.length room = room := Nat.min_eq_right (by omega)
    have some : room < frame.length := by omega
    refine ⟨?_, .inr (by simp [MixerTrack.takeFrame, part, some])⟩
    simp [MixerTrack.takeFrame, part, some, before, contributed, leftover, nothing]

theorem pending_takeFrame {room : Nat} {frame : List Int16} (nothing : track.pending = [])
    (fits : frame.length ≤ room) : (track.takeFrame room frame).pending = [] := by
  simp [takeFrame, Nat.min_eq_left fits, nothing]

/-- What the mixer tells others does not touch the samples. -/
structure SameSamples (track other : MixerTrack) : Prop where
  pending : other.pending = track.pending
  pendingPos : other.pendingPos = track.pendingPos
  popped : other.popped = track.popped
  earlier : other.earlier = track.earlier
  added : other.added = track.added

theorem SameSamples.trans {track other last : MixerTrack} (first : track.SameSamples other)
    (second : other.SameSamples last) : track.SameSamples last where
  pending := second.pending.trans first.pending
  pendingPos := second.pendingPos.trans first.pendingPos
  popped := second.popped.trans first.popped
  earlier := second.earlier.trans first.earlier
  added := second.added.trans first.added

theorem SameSamples.kept {track other : MixerTrack} (same : track.SameSamples other)
    (kept : track.Kept) : other.Kept where
  popped := by
    rw [contributed, leftover, same.popped, same.earlier, same.added, same.pending,
      same.pendingPos]
    exact kept.popped
  cursor := by
    rw [same.pending, same.pendingPos]
    exact kept.cursor

theorem sameSamples_storeCell (track : MixerTrack) (id : Nat) (cell : PlaybackState) :
    track.SameSamples (track.storeCell id cell) := by
  unfold storeCell
  split <;> exact ⟨rfl, rfl, rfl, rfl, rfl⟩

theorem sameSamples_report (track : MixerTrack) (filled : Nat) :
    track.SameSamples (track.report filled) := by
  unfold report
  split
  · exact ⟨rfl, rfl, rfl, rfl, rfl⟩
  · split <;> exact ⟨rfl, rfl, rfl, rfl, rfl⟩

theorem sameSamples_storeStopped (track : MixerTrack) (tapeActive : Bool) :
    track.SameSamples (track.storeStopped tapeActive) := by
  unfold storeStopped
  split <;> exact ⟨rfl, rfl, rfl, rfl, rfl⟩

theorem sameSamples_storeRamp (track : MixerTrack) (loaded : PlaybackState)
    (rampCompleted : Bool) : track.SameSamples (track.storeRamp loaded rampCompleted) := by
  unfold storeRamp
  split <;> exact ⟨rfl, rfl, rfl, rfl, rfl⟩

end MixerTrack

/-! ## Whole calls -/

namespace MixBus

/-- The accumulator holds the sum of what the tracks have contributed in the current call. -/
structure Sums (bus : MixBus) : Prop where
  size : bus.mixBuf.length = bus.outLen
  value : ∀ index < bus.outLen, bus.mixBuf[index]? = some (wrapI32 (totalAt bus.tracks index))

def unvisited (bus : MixBus) : List MixerTrack :=
  match bus.point with
  | .idle => []
  | .looping => bus.waiting
  | .pulling _ _ | .closing _ | .ramping _ => bus.waiting.tail

structure Accounted (bus : MixBus) : Prop where
  kept : ∀ track ∈ bus.tracks, track.Kept
  sums : bus.point ≠ .idle → bus.Sums
  fresh : ∀ track ∈ bus.unvisited, track.added = []
  -- a frame is pulled only behind all that was pending
  current : ∀ loaded filled, bus.point = .pulling loaded filled → ∀ track ∈ bus.waiting.head?,
    track.added.length = filled ∧ (filled < bus.outLen → track.pending = [])

variable {track other : MixerTrack} {bus : MixBus} {rest : List MixerTrack}

theorem accounted_empty : ({} : MixBus).Accounted where
  kept := by simp [tracks]
  sums := by simp
  fresh := by simp [unvisited]
  current := by simp

section

variable (safe : bus.Accounted)
include safe

theorem Accounted.addTrack (idle : bus.point = .idle)
    (cell : PlaybackState) : (bus.addTrack cell).Accounted where
  kept := by
    intro track inside
    have inside : track ∈ bus.tracks ∨ track = { id := bus.created, cell } := by
      simpa [MixBus.addTrack, tracks, or_assoc] using inside
    rcases inside with old | rfl
    · exact safe.kept track old
    · exact ⟨rfl, .inl rfl⟩
  sums running := absurd idle running
  fresh := by simp [unvisited, MixBus.addTrack, idle]
  current loaded filled point := by simp [MixBus.addTrack, idle] at point

theorem Accounted.keep (idle : bus.point = .idle)
    (stays : MixerTrack → Bool) : (bus.keep stays).Accounted where
  kept := by
    intro track inside
    have inside : track ∈ bus.tracks.filter stays := by
      simpa [MixBus.keep, tracks] using inside
    exact safe.kept track (mem_of_mem_filter inside)
  sums running := absurd idle running
  fresh := by simp [unvisited, MixBus.keep, idle]
  current loaded filled point := by simp [MixBus.keep, idle] at point

theorem Accounted.setCell (id : Nat) (cell : PlaybackState) : (bus.setCell id cell).Accounted := by
  have tracks_eq : (bus.setCell id cell).tracks = bus.tracks.map (·.storeCell id cell) := by
    simp [MixBus.setCell, tracks]
  have unvisited_eq :
      (bus.setCell id cell).unvisited = bus.unvisited.map (·.storeCell id cell) := by
    unfold unvisited
    rw [show (bus.setCell id cell).point = bus.point from rfl]
    split <;> simp [MixBus.setCell]
  have same (track : MixerTrack) := track.sameSamples_storeCell id cell
  refine ⟨?_, ?_, ?_, ?_⟩
  · intro track inside
    rw [tracks_eq] at inside
    obtain ⟨old, old_inside, rfl⟩ := List.mem_map.mp inside
    exact (same old).kept (safe.kept old old_inside)
  · intro running
    refine ⟨(safe.sums running).size, fun index bound => ?_⟩
    rw [tracks_eq, totalAt_map _ _ fun track => (same track).added]
    exact (safe.sums running).value index bound
  · intro track inside
    rw [unvisited_eq] at inside
    obtain ⟨old, old_inside, rfl⟩ := List.mem_map.mp inside
    rw [(same old).added]
    exact safe.fresh old old_inside
  · intro loaded filled point track first
    have first : track ∈ (bus.waiting.head?).map (·.storeCell id cell) := by
      simpa [MixBus.setCell] using first
    obtain ⟨old, old_first, rfl⟩ := Option.map_eq_some_iff.mp first
    rw [(same old).added, (same old).pending]
    exact safe.current loaded filled point old old_first

theorem Accounted.beginMix (outLen : Nat) : (bus.beginMix outLen).Accounted := by
  have begun : ∀ track ∈ (bus.beginMix outLen).waiting,
      ∃ old ∈ bus.tracks, track = old.begin := by
    intro track inside
    obtain ⟨old, old_inside, rfl⟩ := List.mem_map.mp inside
    exact ⟨old, mem_of_mem_filter old_inside, rfl⟩
  have fresh : ∀ track ∈ (bus.beginMix outLen).waiting, track.added = [] := by
    intro track inside
    obtain ⟨old, -, rfl⟩ := begun track inside
    rfl
  refine ⟨?_, ?_, fresh, fun _ _ point => by simp [MixBus.beginMix] at point⟩
  · intro track inside
    obtain ⟨old, old_inside, rfl⟩ := begun track inside
    exact (safe.kept old old_inside).begin
  · intro _
    refine ⟨length_replicate, fun index bound => ?_⟩
    have bound : index < outLen := bound
    rw [show (bus.beginMix outLen).tracks = (bus.beginMix outLen).waiting from rfl,
      totalAt_fresh index fresh]
    exact List.getElem?_replicate_of_lt bound

section

variable (waits : bus.waiting = track :: rest)
include waits

theorem Accounted.kept_replaced
    (kept : other.Kept) : ∀ each ∈ bus.visited ++ other :: rest, each.Kept := by
  intro each inside
  rcases mem_append.mp inside with before | inside
  · exact safe.kept each (by simp [tracks, before])
  · rcases mem_cons.mp inside with rfl | after
    · exact kept
    · exact safe.kept each (by simp [tracks, waits, after])

theorem Accounted.replace (same : track.SameSamples other) :
    (∀ each ∈ bus.visited ++ other :: rest, each.Kept) ∧
      ∀ index, totalAt (bus.visited ++ other :: rest) index = totalAt bus.tracks index := by
  have kept : track.Kept := safe.kept track (by simp [tracks, waits])
  refine ⟨safe.kept_replaced waits (same.kept kept), fun index => ?_⟩
  rw [tracks, waits, totalAt_middle, totalAt_middle, same.added]

theorem Accounted.leave (same : track.SameSamples other) (running : bus.point ≠ .idle)
    (fresh : ∀ track ∈ rest, track.added = []) : (bus.leave other rest).Accounted := by
  obtain ⟨kept, total⟩ := safe.replace waits same
  have tracks_eq : (bus.leave other rest).tracks = bus.visited ++ other :: rest := by
    simp [MixBus.leave, tracks]
  refine ⟨by rwa [tracks_eq], fun _ => ⟨(safe.sums running).size, fun index bound => ?_⟩, fresh,
    fun _ _ point => by simp [MixBus.leave] at point⟩
  rw [tracks_eq, total]
  exact (safe.sums running).value index bound

theorem Accounted.stay {next : MixBus} (same : track.SameSamples other)
    (running : bus.point ≠ .idle) (fresh : ∀ track ∈ rest, track.added = [])
    (visited : next.visited = bus.visited) (waiting : next.waiting = other :: rest)
    (mixBuf : next.mixBuf = bus.mixBuf) (outLen : next.outLen = bus.outLen)
    (point : ∃ loaded, next.point = .closing loaded ∨ next.point = .ramping loaded) :
    next.Accounted := by
  obtain ⟨kept, total⟩ := safe.replace waits same
  have tracks_eq : next.tracks = bus.visited ++ other :: rest := by
    rw [tracks, visited, waiting]
  have unvisited_eq : next.unvisited = rest := by
    obtain ⟨loaded, closing | ramping⟩ := point
    · simp [unvisited, closing, waiting]
    · simp [unvisited, ramping, waiting]
  refine ⟨by rwa [tracks_eq], fun _ => ⟨?_, fun index bound => ?_⟩, by rwa [unvisited_eq], ?_⟩
  · rw [mixBuf, outLen, (safe.sums running).size]
  · rw [mixBuf, tracks_eq, total]
    exact (safe.sums running).value index (outLen ▸ bound)
  · intro loaded filled pulling
    obtain ⟨loaded, closing | ramping⟩ := point
    · simp [closing] at pulling
    · simp [ramping] at pulling

theorem Accounted.contribute (running : bus.point ≠ .idle) (samples : List Int16)
    (fits : track.added.length ≤ bus.outLen) (added : other.added = track.added ++ samples) :
    (accumulate bus.mixBuf track.added.length samples).length = bus.outLen ∧
      ∀ index < bus.outLen, (accumulate bus.mixBuf track.added.length samples)[index]? =
        some (wrapI32 (totalAt (bus.visited ++ other :: rest) index)) := by
  have sums := safe.sums running
  refine ⟨by rw [length_accumulate, sums.size], fun index bound => ?_⟩
  have stands := sums.value index bound
  rw [tracks, waits, totalAt_middle] at stands
  rw [totalAt_middle, added]
  exact getElem?_accumulate samples (by rw [sums.size]; exact fits) stands

theorem Accounted.enter (looping : bus.point = .looping) : (bus.enter track rest).Accounted := by
  have running : bus.point ≠ .idle := by simp [looping]
  have unvisited_eq : bus.unvisited = track :: rest := by simp [unvisited, looping, waits]
  have fresh : ∀ other ∈ rest, other.added = [] := fun other inside =>
    safe.fresh other (by simp [unvisited_eq, inside])
  have untouched : track.added = [] := safe.fresh track (by simp [unvisited_eq])
  have kept : track.Kept := safe.kept track (by simp [tracks, waits])
  unfold MixBus.enter
  split
  · exact safe.leave waits ⟨rfl, rfl, rfl, rfl, rfl⟩ running fresh
  · have sums := safe.contribute waits running (track.drained bus.outLen) (by simp [untouched])
      (track.added_drain bus.outLen)
    rw [untouched] at sums
    refine ⟨safe.kept_replaced waits (kept.drain bus.outLen), fun _ => ⟨sums.1, sums.2⟩, fresh, ?_⟩
    intro loaded filled point first inside
    obtain rfl : track.drain bus.outLen = first := by simpa using inside
    obtain ⟨-, rfl⟩ : track.cell = loaded ∧ min bus.outLen track.leftover.length = filled := by
      simpa using point
    constructor
    · rw [track.added_drain, untouched, nil_append, track.length_drained]
    · intro room
      have room : min bus.outLen track.leftover.length < bus.outLen := room
      exact kept.pending_drain_eq_nil (by omega)

theorem Accounted.pull {loaded : PlaybackState} {filled : Nat}
    (pulling : bus.point = .pulling loaded filled) (answer : PopAnswer) :
    (bus.pull track rest loaded filled answer).Accounted := by
  have running : bus.point ≠ .idle := by simp [pulling]
  have fresh : ∀ other ∈ rest, other.added = [] := fun other inside =>
    safe.fresh other (by simpa [unvisited, pulling, waits] using inside)
  have kept : track.Kept := safe.kept track (by simp [tracks, waits])
  obtain ⟨rfl, nothing⟩ := safe.current loaded filled pulling track (by simp [waits])
  have close_safe : ∀ other : MixerTrack, track.SameSamples other →
      (bus.close other rest loaded track.added.length).Accounted := by
    intro other same
    have reported := other.sameSamples_report track.added.length
    exact safe.stay waits (same.trans reported) running fresh rfl rfl rfl rfl ⟨loaded, .inl rfl⟩
  unfold MixBus.pull
  split
  · exact close_safe track ⟨rfl, rfl, rfl, rfl, rfl⟩
  · rename_i goes
    have room : track.added.length < bus.outLen := by
      have := mt .inl goes
      omega
    cases answer with
    | frame frame =>
      have sums := safe.contribute waits running
        (frame.take (min frame.length (bus.outLen - track.added.length))) (by omega)
        (show (track.takeFrame (bus.outLen - track.added.length) frame).added = _ from rfl)
      refine ⟨safe.kept_replaced waits (kept.takeFrame (nothing room) _ frame),
        fun _ => ⟨sums.1, sums.2⟩, fresh, ?_⟩
      intro other count point first inside
      obtain rfl : track.takeFrame (bus.outLen - track.added.length) frame = first := by
        simpa using inside
      obtain ⟨-, rfl⟩ : loaded = other ∧
          track.added.length + min frame.length (bus.outLen - track.added.length) = count := by
        simpa using point
      constructor
      · simp [MixerTrack.takeFrame]
      · intro more
        have more : track.added.length + min frame.length (bus.outLen - track.added.length) <
          bus.outLen := more
        exact MixerTrack.pending_takeFrame (nothing room) (by omega)
    | empty => exact close_safe track ⟨rfl, rfl, rfl, rfl, rfl⟩
    | failed => exact close_safe _ ⟨rfl, rfl, rfl, rfl, rfl⟩

end

theorem Accounted.step {next : MixBus} (act : BusAct)
    (stepped : bus.step act = some next) : next.Accounted := by
  cases act with
  | addTrack cell =>
    obtain ⟨idle, ⟨⟩⟩ := Option.ite_none_right_eq_some.mp stepped
    exact safe.addTrack idle cell
  | stopTrack _ | stopAll =>
    obtain ⟨idle, ⟨⟩⟩ := Option.ite_none_right_eq_some.mp stepped
    exact safe.keep idle _
  | setCell id cell =>
    cases stepped
    exact safe.setCell id cell
  | mix outLen =>
    obtain ⟨-, ⟨⟩⟩ := Option.ite_none_right_eq_some.mp stepped
    exact safe.beginMix outLen
  | enter =>
    simp only [MixBus.step] at stepped
    split at stepped
    · rename_i looping waits
      cases stepped
      exact safe.enter waits looping
    · cases stepped
  | pull answer =>
    simp only [MixBus.step] at stepped
    split at stepped
    · rename_i pulling waits
      cases stepped
      exact safe.pull waits pulling answer
    · cases stepped
  | storeStopped tapeActive =>
    simp only [MixBus.step] at stepped
    split at stepped
    · rename_i loaded track rest closing waits
      cases stepped
      exact safe.stay waits (track.sameSamples_storeStopped tapeActive) (by simp [closing])
        (fun other inside => safe.fresh other (by simpa [unvisited, closing, waits] using inside))
        rfl rfl rfl rfl ⟨loaded, .inr rfl⟩
    · cases stepped
  | storeRamp rampCompleted =>
    simp only [MixBus.step] at stepped
    split at stepped
    · rename_i loaded track rest ramping waits
      cases stepped
      exact safe.leave waits (track.sameSamples_storeRamp loaded rampCompleted)
        (by simp [ramping])
        (fun other inside => safe.fresh other (by simpa [unvisited, ramping, waits] using inside))
    · cases stepped
  | finish =>
    simp only [MixBus.step] at stepped
    split at stepped
    · cases stepped
      exact ⟨safe.kept, fun running => absurd rfl running, by simp [unvisited], by simp⟩
    · cases stepped

end

end MixBus

theorem mixBusSystem_accounted {acts : List BusAct} {bus : MixBus}
    (ran : mixBusSystem.run {} acts = some bus) : bus.Accounted :=
  mixBusSystem.run_invariant_of_step MixBus.Accounted
    (fun safe stepped => safe.step _ stepped) acts MixBus.accounted_empty ran

/-- Whatever the lengths of the buffers and of the frames are and whatever other threads store:
what a track has contributed is the front of what was popped from its flow and the rest is
pending, and all through a call the accumulator is the sum of what its tracks contributed. -/
theorem mixer_conserves_samples {acts : List BusAct} {bus : MixBus}
    (ran : mixBusSystem.run {} acts = some bus) :
    (∀ track ∈ bus.tracks,
      track.popped = track.contributed ++ track.pending.drop track.pendingPos) ∧
    (bus.point ≠ .idle → bus.mixBuf.length = bus.outLen ∧ ∀ index < bus.outLen,
      bus.mixBuf[index]? =
        some (wrapI32 (bus.tracks.map fun track => sampleAt track.added index).sum)) := by
  have safe := mixBusSystem_accounted ran
  exact ⟨fun track inside => (safe.kept track inside).popped,
    fun running => ⟨(safe.sums running).size, (safe.sums running).value⟩⟩

/-- Two tracks, a frame longer than the buffer, and a second call with another length. -/
def twoTracks : List BusAct :=
  [.addTrack .playing, .addTrack .playing, .mix 2,
    .enter, .pull (.frame [1, 2, 3, 4]), .pull .empty, .storeStopped false, .storeRamp false,
    .enter, .pull (.frame [10]), .pull .empty, .storeStopped false, .storeRamp false, .finish,
    .mix 3, .enter, .pull (.frame [5]), .pull .empty, .storeStopped false, .storeRamp false,
    .enter, .pull (.frame [20, 30]), .pull .empty]

theorem two_tracks_conserved : ∃ bus, mixBusSystem.run {} twoTracks = some bus ∧
    bus.mixBuf = [23, 34, 5] ∧ ∀ track ∈ bus.tracks,
      track.popped = track.contributed ++ track.pending.drop track.pendingPos := by
  obtain ⟨bus, ran, sums⟩ : ∃ bus, mixBusSystem.run {} twoTracks = some bus ∧
      bus.mixBuf = [23, 34, 5] := by
    refine ⟨_, rfl, by decide⟩
  exact ⟨bus, ran, sums, (mixer_conserves_samples ran).1⟩

end KizunaLink.Engine
