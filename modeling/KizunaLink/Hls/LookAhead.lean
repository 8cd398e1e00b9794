import KizunaLink.Hls.Delivery

/-!
# How far the HLS prefetcher reads ahead

A batch has at most four segments and is appended to the look-ahead buffer, which the
reader takes as a whole.  So the buffer holds at most four segments as long as the
reader takes what one batch has stored before the next one is stored.  Nothing in the
code sees to that: a `read` below the low-water mark wakes the prefetcher whether or
not the look-ahead buffer is empty.
-/

set_option autoImplicit false

namespace KizunaLink.Hls

open KizunaLink.Lib List

variable {Seconds : Type}

/-- The bytes are those of at most `count` segments in a row. -/
def Stream.AtMost (stream : Stream Seconds) (count : Nat) (bytes : Bytes) : Prop :=
  ∃ first taken, taken ≤ count ∧
    bytes = ((stream.segments.drop first).take taken).flatMap stream.bytesOf

theorem Stream.atMost_nil (stream : Stream Seconds) (count : Nat) : stream.AtMost count [] :=
  ⟨0, 0, Nat.zero_le count, by rw [take_zero, flatMap_nil]⟩

theorem Batch.Sound.atMost {stream : Stream Seconds} {pending : List (Resource Seconds)}
    {first count : Nat} {held : Bytes} {batch : Batch Seconds}
    (sound : batch.Sound stream pending first held) (few : batch.resources.length ≤ count) :
    stream.AtMost count batch.tmpBuf := by
  refine ⟨batch.segIdx, batch.position, sound.bounded.trans few, ?_⟩
  rw [sound.ahead, take_append_of_le_length sound.bounded, sound.fetched]

def PrefetchPoint.batchSize : PrefetchPoint Seconds → Nat
  | .fetching batch | .fetched batch _ => batch.resources.length
  | .top | .exited => 0

def HlsAct.playsOn : HlsAct → Bool
  | .read _ _ | .readLocked | .takeCommand | .fetchNext _ | .store => true
  | .seek _ | .raiseAbort | .postSeek | .finishSeek | .drop | .postStop => false

namespace HlsReader

/-- A batch is stored when the reader has taken the one before. -/
def StoresInTurn (reader : HlsReader Seconds) (act : HlsAct) : Prop :=
  act = .store → reader.shared.nextBuf = []

instance (reader : HlsReader Seconds) (act : HlsAct) : Decidable (reader.StoresInTurn act) :=
  inferInstanceAs (Decidable (_ → _))

/-- The reader is in no seek, and neither the batch in flight nor the look-ahead buffer is
of more than four segments. -/
structure Ahead (stream : Stream Seconds) (reader : HlsReader Seconds) : Prop where
  point : reader.point = .idle ∨ ∃ size, reader.point = .reading size
  batch : reader.prefetcher.batchSize ≤ prefetchSegments
  buffered : stream.AtMost prefetchSegments reader.shared.nextBuf

variable {stream : Stream Seconds} {reader : HlsReader Seconds}

section

variable (ahead : reader.Ahead stream)
include ahead

theorem Ahead.settled (delivers : reader.Delivers stream) : reader.Settled stream := by
  have phase := delivers.phase
  unfold Phase at phase
  rcases ahead.point with idle | ⟨size, reading⟩
  · rwa [idle] at phase
  · rw [reading] at phase
    exact phase.1

theorem Ahead.read (idle : reader.point = .idle) (size : Nat)
    (locked : Bool) : (reader.read size locked).Ahead stream := by
  unfold HlsReader.read
  split
  · exact ⟨.inl idle, ahead.batch, ahead.buffered⟩
  · split
    · -- waking the prefetcher changes neither the batch nor the buffer
      unfold wakeEarly
      split
      · exact ⟨.inl rfl, ahead.batch, ahead.buffered⟩
      · exact ⟨.inl rfl, ahead.batch, ahead.buffered⟩
    · exact ⟨.inr ⟨size, rfl⟩, ahead.batch, ahead.buffered⟩

theorem Ahead.readLocked (size : Nat) : (reader.readLocked size).Ahead stream := by
  unfold HlsReader.readLocked
  split
  · exact ⟨.inl rfl, ahead.batch, stream.atMost_nil _⟩
  · split
    · exact ⟨.inl rfl, ahead.batch, ahead.buffered⟩
    · split
      · exact ⟨.inl rfl, ahead.batch, ahead.buffered⟩
      · exact { ahead with }

theorem Ahead.takeCommand (continues : reader.shared.command = .continue) :
    (reader.takeCommand stream).Ahead stream := by
  simp only [HlsReader.takeCommand, continues]
  unfold beginBatch
  split
  · exact { ahead with }
  · refine ⟨ahead.point, ?_, ahead.buffered⟩
    simp only [PrefetchPoint.batchSize, length_take]
    omega

theorem Ahead.fetchNext {batch : Batch Seconds}
    (fetching : reader.prefetcher = .fetching batch) (failure : Option String) :
    (reader.fetchNext stream batch failure).Ahead stream := by
  have few := ahead.batch
  rw [fetching] at few
  obtain ⟨_, _, later, same, rfl | ⟨_, rfl⟩, -, kept⟩ := fetchNext_eq stream reader batch failure
  all_goals
    rw [same]
    exact ⟨ahead.point, (congrArg List.length kept).trans_le few, ahead.buffered⟩

theorem Ahead.store (settled : reader.Settled stream)
    {batch : Batch Seconds} {fetchError : Option String}
    (fetched : reader.prefetcher = .fetched batch fetchError)
    (taken : reader.shared.nextBuf = []) : (reader.store batch fetchError).Ahead stream := by
  have few := ahead.batch
  rw [fetched] at few
  have sound : batch.Sound stream reader.shared.pending reader.start
      (reader.delivered ++ reader.remaining ++ reader.shared.nextBuf) := by
    have ready := settled.ready
    cases fetchError <;> simp only [Ready, fetched] at ready <;> exact ready.2.2.1
  have stores : Stores reader batch (reader.store batch fetchError) :=
    stores_store fetchError fun overtaken => overtaken.2 settled.command
  refine ⟨?_, ?_, ?_⟩
  · rw [stores.point]
    exact ahead.point
  · rcases stores.rests with rests | rests
    · rw [rests]
      exact Nat.zero_le _
    · rw [rests]
      exact Nat.zero_le _
  · rw [stores.nextBuf, taken, nil_append]
    exact sound.atMost few

end

theorem ahead_new {mapFailure firstFailure : Option String}
    (opened : new stream mapFailure firstFailure = .ok reader) : reader.Ahead stream := by
  obtain ⟨segment, rest, bytes, -, -, rfl⟩ := new_ok opened
  exact ⟨.inl rfl, Nat.zero_le _, stream.atMost_nil _⟩

section Durations

variable [Zero Seconds] [Add Seconds] [LE Seconds] [DecidableLE Seconds] [LT Seconds]
  [DecidableLT Seconds]

theorem Ahead.step {next : HlsReader Seconds} {act : HlsAct} (ahead : reader.Ahead stream)
    (delivers : reader.Delivers stream) (plays : act.playsOn = true)
    (inTurn : reader.StoresInTurn act)
    (stepped : (hlsSystem stream).step reader act = some next) : next.Ahead stream := by
  cases steps_of_step stepped with
  | read size locked idle => exact ahead.read idle size locked
  | readLocked reading => exact ahead.readLocked _
  | takeCommand top needed => exact ahead.takeCommand (ahead.settled delivers).command
  | fetchNext failure fetching => exact ahead.fetchNext fetching failure
  | store fetched => exact ahead.store (ahead.settled delivers) fetched (inTurn rfl)
  | seek _ _ | raiseAbort _ | postSeek _ | finishSeek _ _ | drop _ | postStop _ => cases plays

/-- Without seeks, and with every batch stored in turn, the look-ahead buffer never holds
the bytes of more than `PREFETCH_SEGMENTS` segments. -/
theorem lookahead_bounded_in_turn (stream : Stream Seconds)
    (mapFailure firstFailure : Option String) (reader final : HlsReader Seconds)
    (acts : List HlsAct) (opened : new stream mapFailure firstFailure = .ok reader)
    (plays : ∀ act ∈ acts, act.playsOn = true)
    (inTurn : (hlsSystem stream).Meets StoresInTurn reader acts)
    (reached : (hlsSystem stream).run reader acts = some final) :
    stream.AtMost prefetchSegments final.shared.nextBuf := by
  have meets := (hlsSystem stream).meets_and acts
    ((hlsSystem stream).meets_of_forall (fun _ act => act.playsOn = true) acts
      (fun act member _ => plays act member) reader) inTurn
  have both := (hlsSystem stream).run_invariant _
    (fun reader => reader.Delivers stream ∧ reader.Ahead stream)
    (fun holds ok stepped =>
      ⟨holds.1.step stepped, holds.2.step holds.1 ok.1 ok.2 stepped⟩)
    acts ⟨delivers_new opened, ahead_new opened⟩ meets reached
  exact both.2.buffered

end Durations

def nineSegments : Stream Nat where
  map := none
  segments := List.replicate 9 ⟨[1], none⟩
  extractAdts := id
  ofMillis := fun positionMs => positionMs / 1000

def nineSegmentsReader : HlsReader Nat where
  buf := [1]
  shared := { pending := List.replicate 8 ⟨[1], none⟩, currentSegmentIndex := 1 }

def fetchFour : List HlsAct :=
  [.takeCommand, .fetchNext none, .fetchNext none, .fetchNext none, .fetchNext none,
    .fetchNext none, .store]

/-- The first batch is taken before the second one is stored. -/
theorem two_batches_in_turn :
    ∃ final,
      (hlsSystem nineSegments).run nineSegmentsReader
        (fetchFour ++ [.read 4 false, .read 4 false, .readLocked] ++ fetchFour) = some final ∧
      final.shared.nextBuf = [1, 1, 1, 1] ∧
      nineSegments.AtMost prefetchSegments final.shared.nextBuf := by
  have outcome : ((hlsSystem nineSegments).run nineSegmentsReader
      (fetchFour ++ [.read 4 false, .read 4 false, .readLocked] ++ fetchFour)).map
        (fun reader => reader.shared.nextBuf) = some [1, 1, 1, 1] := by decide
  obtain ⟨final, reached, buffered⟩ := Option.map_eq_some_iff.mp outcome
  refine ⟨final, reached, buffered, ?_⟩
  exact lookahead_bounded_in_turn nineSegments none none nineSegmentsReader final _ rfl
    (by decide) (by decide) reached

/-- One `read` below the low-water mark wakes the prefetcher with the first batch still in
the look-ahead buffer. -/
theorem early_wake_stores_eight :
    ∃ final,
      new nineSegments none none = .ok nineSegmentsReader ∧
      (hlsSystem nineSegments).run nineSegmentsReader
        (fetchFour ++ [.read 1 true] ++ fetchFour) = some final ∧
      final.shared.nextBuf.length = 8 ∧
      ¬ nineSegments.AtMost prefetchSegments final.shared.nextBuf := by
  have outcome : ((hlsSystem nineSegments).run nineSegmentsReader
      (fetchFour ++ [.read 1 true] ++ fetchFour)).map
        (fun reader => reader.shared.nextBuf.length) = some 8 := by decide
  obtain ⟨final, reached, eight⟩ := Option.map_eq_some_iff.mp outcome
  refine ⟨final, rfl, reached, eight, ?_⟩
  rintro ⟨first, taken, few, same⟩
  -- four segments have four bytes
  have oneByte : (nineSegments.bytesOf ⟨[1], none⟩).length = 1 := rfl
  have short : final.shared.nextBuf.length ≤ taken := by
    rw [same, show nineSegments.segments = List.replicate 9 ⟨[1], none⟩ from rfl,
      drop_replicate, take_replicate, length_flatMap, map_replicate, oneByte,
      sum_replicate_nat, Nat.mul_one]
    exact Nat.min_le_left _ _
  rw [eight] at short
  exact absurd (short.trans few) (by decide)

end HlsReader

end KizunaLink.Hls
