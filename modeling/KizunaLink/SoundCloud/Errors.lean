import KizunaLink.SoundCloud.Reader

/-!
# Failures of the SoundCloud HLS reader

After a fetch has failed fatally, reads deliver what was buffered before the failure and
then report its error, provided that the prefetcher does not go on: a swap or the end of
a seek wakes it, and it fetches the segments behind the failed one if there are any.
The error is reported once; what reads answer behind it is the end of the stream.
-/

set_option autoImplicit false

namespace KizunaLink.SoundCloud

open KizunaLink.Lib List Option

variable {Seconds : Type}

def Below (bound : Nat) (bytes : List Tagged) : Prop := ∀ byte ∈ bytes, byte.1 < bound

variable (stream : Stream Seconds)

theorem Below.mono {bound other : Nat} {bytes : List Tagged} (below : Below bound bytes)
    (le : bound ≤ other) : Below other bytes :=
  fun byte inside => Nat.lt_of_lt_of_le (below byte inside) le

theorem below_append {bound : Nat} {front back : List Tagged} :
    Below bound (front ++ back) ↔ Below bound front ∧ Below bound back := by
  simp only [Below, mem_append]
  exact ⟨fun all => ⟨fun byte inside => all byte (.inl inside),
    fun byte inside => all byte (.inr inside)⟩,
    fun both byte inside => inside.elim (both.1 byte) (both.2 byte)⟩

theorem below_nil (bound : Nat) : Below bound [] := fun _ inside => absurd inside (by simp)

theorem below_demux (segment : Segment Seconds) :
    Below (segment.number + 1) (stream.demux segment) := by
  intro byte inside
  obtain ⟨value, -, rfl⟩ := List.mem_map.mp inside
  exact Nat.lt_succ_self _

theorem Stream.number_eq {index : Nat} {segment : Segment Seconds}
    (there : stream.segments[index]? = some segment) : segment.number = index := by
  have bound : index < stream.segments.length := (List.getElem?_eq_some_iff.mp there).1
  have place : (stream.segments.map (·.number))[index]? = some segment.number := by
    rw [List.getElem?_map, there]
    rfl
  rw [stream.numbered, List.getElem?_range bound] at place
  exact (Option.some.inj place).symm

theorem below_flatMap_demux (count : Nat) :
    Below count ((stream.segments.take count).flatMap stream.demux) := by
  intro byte inside
  obtain ⟨segment, taken, made⟩ := mem_flatMap.mp inside
  obtain ⟨index, bound, rfl⟩ := mem_take_iff_getElem.mp taken
  have inside : index < stream.segments.length := by omega
  have below := below_demux stream _ byte made
  rw [stream.number_eq (List.getElem?_eq_getElem inside)] at below
  omega

/-! ## The order of the segments -/

/-- The prefetcher works on the segments from `first` on, which are not stored. -/
def PrefetchPoint.WorksFrom (stream : Stream Seconds) (first : Nat)
    (pending : List (Segment Seconds)) : PrefetchPoint Seconds → Prop
  | .top | .exited => pending = stream.segments.drop first
  | .fetching batch =>
    batch.segments ++ pending = stream.segments.drop first ∧
      batch.position ≤ batch.segments.length ∧ Below (first + batch.position) batch.tmpBuf
  | .fetched batch fetchError =>
    batch.segments ++ pending = stream.segments.drop first ∧
      batch.position ≤ batch.segments.length ∧ Below (first + batch.position) batch.tmpBuf ∧
      (fetchError ≠ none → batch.position < batch.segments.length)

def PrefetchPoint.Seeking : PrefetchPoint Seconds → Prop
  | .fetching batch | .fetched batch _ => batch.seeking = true
  | .top | .exited => False

def ReaderPoint.Seeks : ReaderPoint → Prop
  | .seeking _ _ => True
  | .idle | .reading _ | .dropped => False

namespace SoundCloudHlsReader

variable {stream : Stream Seconds} {reader next : SoundCloudHlsReader Seconds}

def Quiet (reader : SoundCloudHlsReader Seconds) : Prop :=
  (∀ target, reader.shared.command ≠ .seek target) ∧ ¬ reader.prefetcher.Seeking

/-- A hard seek is posted, then fetched, then answered. -/
inductive Awaits (reader : SoundCloudHlsReader Seconds) : Prop where
  | posted (target : Nat) (command : reader.shared.command = .seek target)
      (other : ¬ reader.prefetcher.Seeking) (waits : reader.shared.seekDone = false)
  | fetched (command : reader.shared.command = .continue) (seeking : reader.prefetcher.Seeking)
      (waits : reader.shared.seekDone = false)
  | answered (command : reader.shared.command = .continue) (top : reader.prefetcher = .top)
      (rests : reader.shared.needData = false)

/-- The segments are fetched and buffered in their order.  While a seek is posted, the next
buffer has bytes that will be cleared. -/
structure Ordered (stream : Stream Seconds) (reader : SoundCloudHlsReader Seconds) : Prop where
  quiet : ¬ reader.point.Seeks → reader.Quiet
  awaits : reader.point.Seeks → reader.buf = [] ∧ reader.Awaits
  works : ∃ first, reader.prefetcher.WorksFrom stream first reader.shared.pending ∧
    ((∃ target, reader.shared.command = .seek target) ∨
      Below first (reader.buf ++ reader.shared.nextBuf))

variable {fetchError : Option String} {batch : Batch Seconds}

theorem ordered_new {opened : SoundCloudHlsReader Seconds}
    (created : new stream none = .ok opened) :
    Ordered stream opened ∧ opened.failure = none := by
  unfold new at created
  split at created
  · cases created
  · obtain rfl := Except.ok.inj created
    refine ⟨⟨fun _ => ⟨by simp, by simp [PrefetchPoint.Seeking]⟩,
      fun seeks => seeks.elim, min prefetchSegments stream.segments.length, rfl, .inr ?_⟩, rfl⟩
    rw [append_nil]
    exact below_flatMap_demux stream _

section

variable (ordered : Ordered stream reader)
include ordered

theorem Ordered.frame (before : ¬ reader.point.Seeks) (after : ¬ next.point.Seeks)
    (command : next.shared.command = reader.shared.command)
    (pending : next.shared.pending = reader.shared.pending)
    (prefetcher : next.prefetcher = reader.prefetcher)
    (bytes : ∀ byte ∈ next.buf ++ next.shared.nextBuf, byte ∈ reader.buf ++ reader.shared.nextBuf) :
    Ordered stream next := by
  refine ⟨fun _ => ?_, fun seeks => absurd seeks after, ?_⟩
  · rw [Quiet, command, prefetcher]
    exact ordered.quiet before
  · obtain ⟨first, works, below⟩ := ordered.works
    rw [command, pending, prefetcher]
    exact ⟨first, works, below.imp_right fun below byte inside => below byte (bytes byte inside)⟩

theorem Ordered.serve (before : ¬ reader.point.Seeks) (size : Nat) :
    Ordered stream (reader.serve size) := by
  have after : (reader.serve size).point = .idle := rfl
  exact ordered.frame before (by rw [after]; exact id) rfl rfl rfl fun _ inside => inside

theorem Ordered.wakeEarly (before : ¬ reader.point.Seeks) (locked : Bool) :
    Ordered stream (reader.wakeEarly locked) := by
  unfold SoundCloudHlsReader.wakeEarly
  split
  · exact ordered.frame before before rfl rfl rfl fun _ inside => inside
  · exact ordered

omit ordered in
theorem wakeEarly_point (locked : Bool) : (reader.wakeEarly locked).point = reader.point := by
  unfold wakeEarly
  split <;> rfl

theorem Ordered.readTurn {size : Nat} (reading : reader.point = .reading size) (locked : Bool) :
    Ordered stream (reader.readTurn size locked) := by
  have before : ¬ reader.point.Seeks := by simp [reading, ReaderPoint.Seeks]
  unfold SoundCloudHlsReader.readTurn
  split
  · exact (ordered.wakeEarly before locked).serve (by rwa [wakeEarly_point]) size
  · unfold readLocked
    split
    · refine ordered.frame before before rfl rfl rfl fun byte inside => ?_
      have inside : byte ∈ reader.shared.nextBuf ++ [] := inside
      rw [append_nil] at inside
      exact mem_append_right _ inside
    · have idle : ¬ ReaderPoint.idle.Seeks := by simp [ReaderPoint.Seeks]
      split
      · exact ordered.frame before idle rfl rfl rfl fun _ inside => inside
      · split
        · exact ordered.frame before idle rfl rfl rfl fun _ inside => inside
        · exact ordered.frame before before rfl rfl rfl fun _ inside => inside

theorem Ordered.finishSeek {target skip : Nat} (seeking : reader.point = .seeking target skip)
    (done : reader.shared.seekDone = true) : Ordered stream (reader.finishSeek skip) := by
  obtain ⟨empty, awaits⟩ := ordered.awaits (by simp [seeking, ReaderPoint.Seeks])
  obtain ⟨first, works, below⟩ := ordered.works
  have idle : ¬ ReaderPoint.idle.Seeks := by simp [ReaderPoint.Seeks]
  cases awaits with
  | posted _ _ _ waits | fetched _ _ waits => simp [waits] at done
  | answered command top rests =>
    refine ⟨fun _ => ⟨?_, ?_⟩, fun seeks => absurd seeks idle, first, works, .inr ?_⟩
    · show ∀ target, reader.shared.command ≠ .seek target
      simp [command]
    · show ¬ reader.prefetcher.Seeking
      simp [top, PrefetchPoint.Seeking]
    · have below := below.resolve_left (by simp [command])
      rw [empty, nil_append] at below
      show Below first (reader.shared.nextBuf ++ [])
      rwa [append_nil]

theorem Ordered.postStop (idle : reader.point = .idle) : Ordered stream reader.postStop := by
  have quiet := ordered.quiet (by simp [idle, ReaderPoint.Seeks])
  obtain ⟨first, works, below⟩ := ordered.works
  refine ⟨fun _ => ⟨by simp [SoundCloudHlsReader.postStop], quiet.2⟩, fun seeks => seeks.elim,
    first, works, .inr ?_⟩
  exact below.resolve_left fun ⟨target, command⟩ => quiet.1 target command

end

/-! ## Steps of the prefetcher -/

theorem Ordered.takeCommand (ordered : Ordered stream reader) (top : reader.prefetcher = .top)
    (needed : reader.shared.needData = true) : Ordered stream (reader.takeCommand stream) := by
  obtain ⟨first, works, below⟩ := ordered.works
  rw [top] at works
  unfold SoundCloudHlsReader.takeCommand
  split
  · rename_i stop
    have before : ¬ reader.point.Seeks := by
      intro seeks
      cases (ordered.awaits seeks).2 with
      | posted _ command | fetched command | answered command => simp [command] at stop
    refine ⟨fun _ => ⟨by simp, by simp [PrefetchPoint.Seeking]⟩, fun seeks => absurd seeks before,
      first, works, .inr (below.resolve_left (by simp [stop]))⟩
  · rename_i target command
    have seeks : reader.point.Seeks := by
      by_contra not
      exact (ordered.quiet not).1 target command
    obtain ⟨empty, awaits⟩ := ordered.awaits seeks
    have waits : reader.shared.seekDone = false := by
      cases awaits with
      | posted _ _ _ waits => exact waits
      | fetched _ _ waits => exact waits
      | answered _ _ rests => simp [rests] at needed
    refine ⟨fun not => absurd seeks not, fun _ => ⟨empty, .fetched rfl rfl waits⟩, target, ?_,
      .inr ?_⟩
    · exact ⟨take_append_drop _ _, Nat.zero_le _, below_nil _⟩
    · show Below target (reader.buf ++ [])
      rw [empty]
      exact below_nil _
  · rename_i command
    have before : ¬ reader.point.Seeks := by
      intro seeks
      cases (ordered.awaits seeks).2 with
      | posted target posted => simp [posted] at command
      | fetched _ seeking => simp [top, PrefetchPoint.Seeking] at seeking
      | answered _ _ rests => simp [rests] at needed
    have below := below.resolve_left (by simp [command])
    unfold beginBatch
    split
    · refine ⟨fun _ => ⟨by simp [command], ?_⟩, fun seeks => absurd seeks before, first, ?_,
        .inr below⟩
      · show ¬ reader.prefetcher.Seeking
        simp [top, PrefetchPoint.Seeking]
      · show reader.prefetcher.WorksFrom stream first reader.shared.pending
        rw [top]
        exact works
    · refine ⟨fun _ => ⟨by simp [command], by simp [PrefetchPoint.Seeking]⟩,
        fun seeks => absurd seeks before, first, ?_, .inr below⟩
      exact ⟨(take_append_drop _ _).trans works, Nat.zero_le _, below_nil _⟩

theorem number_of_batch {first : Nat} {pending : List (Segment Seconds)}
    (order : batch.segments ++ pending = stream.segments.drop first) {place : Nat}
    {segment : Segment Seconds} (there : batch.segments[place]? = some segment) :
    segment.number = first + place := by
  have bound : place < batch.segments.length := (List.getElem?_eq_some_iff.mp there).1
  apply stream.number_eq
  rw [← List.getElem?_drop, ← order, List.getElem?_append_left bound, there]

theorem drop_batch {first : Nat} {pending : List (Segment Seconds)}
    (order : batch.segments ++ pending = stream.segments.drop first) :
    pending = stream.segments.drop (first + batch.segments.length) := by
  rw [← drop_drop, ← order, drop_left]

section

variable (ordered : Ordered stream reader)
include ordered

theorem Ordered.proceed {point : PrefetchPoint Seconds}
    (same : point.Seeking ↔ reader.prefetcher.Seeking) (working : reader.prefetcher ≠ .top)
    (works : ∀ first, reader.prefetcher.WorksFrom stream first reader.shared.pending →
      point.WorksFrom stream first reader.shared.pending) :
    Ordered stream { reader with prefetcher := point } := by
  obtain ⟨first, works_first, below⟩ := ordered.works
  refine ⟨fun not => ⟨(ordered.quiet not).1,
      fun seeking => (ordered.quiet not).2 (same.mp seeking)⟩,
    fun seeks => ⟨(ordered.awaits seeks).1, ?_⟩, first, works first works_first, below⟩
  cases (ordered.awaits seeks).2 with
  | posted target command other waits =>
    exact .posted target command (fun seeking => other (same.mp seeking)) waits
  | fetched command seeking waits => exact .fetched command (same.mpr seeking) waits
  | answered command top rests => exact absurd top working

theorem Ordered.fetchNext
    (fetching : reader.prefetcher = .fetching batch) (fetchError : Option String) :
    Ordered stream (reader.fetchNext stream batch fetchError) := by
  have working : reader.prefetcher ≠ .top := by simp [fetching]
  have ends (error : Option String)
      (bounded : error ≠ none → batch.position < batch.segments.length) :
      Ordered stream { reader with prefetcher := .fetched batch error } := by
    refine ordered.proceed (by rw [fetching]; rfl) working fun first works => ?_
    rw [fetching] at works
    exact ⟨works.1, works.2.1, works.2.2, bounded⟩
  unfold SoundCloudHlsReader.fetchNext
  split
  · exact ends none (by simp)
  · rename_i segment there
    have bound : batch.position < batch.segments.length := (List.getElem?_eq_some_iff.mp there).1
    split
    · exact ends none (by simp)
    · split
      · exact ends _ fun _ => bound
      · refine ordered.proceed (by rw [fetching]; rfl) working fun first works => ?_
        rw [fetching] at works
        obtain ⟨order, -, below⟩ := works
        have made := below_demux stream segment
        rw [number_of_batch order there] at made
        have further : first + batch.position ≤ first + (batch.position + 1) := by omega
        exact ⟨order, bound, below_append.mpr ⟨below.mono further, made⟩⟩

section

variable (fetched : reader.prefetcher = .fetched batch fetchError)
include fetched

section

variable (stores : ¬ (batch.seeking = false ∧ reader.shared.command ≠ .continue))
include stores

theorem Ordered.command_of_store : (∀ target, reader.shared.command ≠ .seek target) ∧
      (reader.point.Seeks → batch.seeking = true ∧ reader.shared.command = .continue) := by
  have seeking_iff : reader.prefetcher.Seeking ↔ batch.seeking = true := by rw [fetched]; rfl
  have waits (seeks : reader.point.Seeks) :
      batch.seeking = true ∧ reader.shared.command = .continue := by
    cases (ordered.awaits seeks).2 with
    | posted target command other =>
      exact absurd ⟨by simpa [seeking_iff] using other, by simp [command]⟩ stores
    | fetched command seeking => exact ⟨seeking_iff.mp seeking, command⟩
    | answered _ top => simp [fetched] at top
  refine ⟨fun target command => ?_, waits⟩
  by_cases seeks : reader.point.Seeks
  · simp [(waits seeks).2] at command
  · exact (ordered.quiet seeks).1 target command

theorem Ordered.below_of_store :
    ∃ first, batch.segments ++ reader.shared.pending = stream.segments.drop first ∧
      batch.position ≤ batch.segments.length ∧
      (fetchError ≠ none → batch.position < batch.segments.length) ∧
      Below (first + batch.position)
        (reader.buf ++ (reader.shared.nextBuf ++ batch.tmpBuf)) := by
  obtain ⟨first, works, below⟩ := ordered.works
  rw [fetched] at works
  obtain ⟨order, bounded, fresh, failed⟩ := works
  have below := below.resolve_left fun ⟨target, command⟩ =>
    (ordered.command_of_store fetched stores).1 target command
  refine ⟨first, order, bounded, failed, ?_⟩
  rw [← append_assoc]
  exact below_append.mpr ⟨below.mono (by omega), fresh⟩

theorem Ordered.stored {shared failure}
    (nextBuf : shared.nextBuf = reader.shared.nextBuf ++ batch.tmpBuf)
    (command : shared.command = reader.shared.command)
    (pending : shared.pending = reader.shared.pending) (rests : shared.needData = false) :
    Ordered stream { reader with shared, prefetcher := .top, failure } := by
  obtain ⟨posted, waits⟩ := ordered.command_of_store fetched stores
  obtain ⟨first, order, bounded, -, below⟩ := ordered.below_of_store fetched stores
  refine ⟨fun _ => ⟨by rwa [command], by simp [PrefetchPoint.Seeking]⟩, fun seeks => ?_,
    first + batch.segments.length, ?_, .inr ?_⟩
  · exact ⟨(ordered.awaits seeks).1, .answered (command.trans (waits seeks).2) rfl rests⟩
  · rw [pending]
    exact drop_batch order
  · rw [nextBuf]
    exact below.mono (by omega)

end

theorem Ordered.store : Ordered stream (reader.store batch fetchError) := by
  unfold SoundCloudHlsReader.store
  split
  · rename_i overtaken
    obtain ⟨first, works, below⟩ := ordered.works
    rw [fetched] at works
    have other : ¬ reader.prefetcher.Seeking := by
      rw [fetched]
      simp [PrefetchPoint.Seeking, overtaken.1]
    refine ⟨fun not => ⟨(ordered.quiet not).1, by simp [PrefetchPoint.Seeking]⟩,
      fun seeks => ⟨(ordered.awaits seeks).1, ?_⟩, first + batch.segments.length,
      drop_batch works.1, below.imp_right fun below => below.mono (by omega)⟩
    cases (ordered.awaits seeks).2 with
    | posted target command _ waits =>
      exact .posted target command (by simp [PrefetchPoint.Seeking]) waits
    | fetched _ seeking => exact absurd seeking other
    | answered command => exact absurd command overtaken.2
  · rename_i stores
    split
    · exact ordered.stored fetched stores rfl rfl rfl rfl
    · exact ordered.stored fetched stores rfl rfl rfl rfl

end

end

section Durations

variable [Zero Seconds] [Add Seconds] [LE Seconds] [DecidableLE Seconds]

theorem Ordered.seekToByte (ordered : Ordered stream reader) (idle : reader.point = .idle)
    (targetByte : Nat) : Ordered stream (reader.seekToByte stream targetByte) := by
  have before : ¬ reader.point.Seeks := by simp [idle, ReaderPoint.Seeks]
  have quiet := ordered.quiet before
  simp only [SoundCloudHlsReader.seekToByte]
  split
  · exact ordered.frame before before rfl rfl rfl fun _ inside => inside
  · obtain ⟨first, works, -⟩ := ordered.works
    exact ⟨fun not => absurd trivial not, fun _ => ⟨rfl, .posted _ rfl quiet.2 rfl⟩, first, works,
      .inl ⟨_, rfl⟩⟩

theorem Ordered.seek (ordered : Ordered stream reader) (idle : reader.point = .idle)
    (whence : Whence) : Ordered stream (reader.seek stream whence) := by
  cases whence with
  | start offset => exact ordered.seekToByte idle offset
  | current delta => exact ordered.seekToByte idle (addSigned reader.totalBytesRead delta)
  | fromEnd delta => exact ordered.seekToByte idle stream.byteLen

theorem Ordered.step (ordered : Ordered stream reader) (act : ReaderAct)
    (stepped : reader.step stream act = some next) : Ordered stream next := by
  cases steps_of_step stepped with
  | read size idle =>
    exact ordered.frame (by simp [idle, ReaderPoint.Seeks]) (by simp [ReaderPoint.Seeks]) rfl rfl
      rfl fun _ inside => inside
  | readTurn locked reading => exact ordered.readTurn reading locked
  | seek whence idle => exact ordered.seek idle whence
  | finishSeek seeking done => exact ordered.finishSeek seeking done
  | drop idle => exact ordered.postStop idle
  | takeCommand top needed => exact ordered.takeCommand top needed
  | fetchNext fetchError fetching => exact ordered.fetchNext fetching fetchError
  | store fetched => exact ordered.store fetched

end Durations

end SoundCloudHlsReader

/-! ## What reads answer after a failure -/

/-- Behind the failure the prefetcher has nothing to fetch, or nothing wakes it: no byte was left
in the next buffer, and no seek waits for its end. -/
def Failure.Clean (failure : Failure) : Prop :=
  failure.morePending = false ∨ (failure.seeking = false ∧ failure.keptBytes = false)

instance (failure : Failure) : Decidable failure.Clean := inferInstanceAs (Decidable (_ ∨ _))

/-- A read has delivered bytes that were buffered before the failed segment. -/
def Failure.Buffered (failure : Failure) (answer : Nat × ReadAnswer) : Prop :=
  ∃ bytes, answer.2 = .ok bytes ∧ (0 < answer.1 → bytes ≠ []) ∧ Below failure.segment bytes

namespace SoundCloudHlsReader

variable {stream : Stream Seconds} {reader next : SoundCloudHlsReader Seconds}

/-- The prefetcher has nothing to do until the next seek. -/
inductive Rests (reader : SoundCloudHlsReader Seconds) : Prop where
  | exited (exited : reader.prefetcher = .exited)
  | last (top : reader.prefetcher = .top) (last : reader.shared.pending = [])
  | asleep (top : reader.prefetcher = .top) (empty : reader.shared.nextBuf = [])
      (asleep : reader.shared.needData = false ∨ reader.shared.command = .stop)
      (owner : ¬ reader.point.Seeks)

structure Unreported (failure : Failure) (reader : SoundCloudHlsReader Seconds) : Prop where
  answers : ∀ answer ∈ failure.answers, failure.Buffered answer
  below : Below failure.segment (reader.buf ++ reader.shared.nextBuf)
  error : reader.shared.error = some failure.text
  eos : reader.shared.eos = true
  command : ∀ target, reader.shared.command ≠ .seek target
  rests : reader.Rests

/-- The first answer that is not of buffered bytes is the error. -/
def Reported (failure : Failure) : Prop :=
  ∃ before size rest, failure.answers = before ++ (size, .error failure.text) :: rest ∧
    ∀ answer ∈ before, failure.Buffered answer

def Told (reader : SoundCloudHlsReader Seconds) : Prop :=
  ∀ failure, reader.failure = some failure → failure.Clean →
    reader.Unreported failure ∨ Reported failure

variable {batch : Batch Seconds} {failure : Failure}

theorem Reported.append (reported : Reported failure) (answer : Nat × ReadAnswer) :
    Reported { failure with answers := failure.answers ++ [answer] } := by
  obtain ⟨before, size, rest, split, buffered⟩ := reported
  refine ⟨before, size, rest ++ [answer], ?_, buffered⟩
  show failure.answers ++ [answer] = _
  rw [split, append_assoc, cons_append]

/-- The buffer and the wishes of the reader matter only to a prefetcher that is asleep. -/
theorem Rests.frame (rests : reader.Rests) (prefetcher : next.prefetcher = reader.prefetcher)
    (pending : next.shared.pending = reader.shared.pending)
    (asleep : reader.prefetcher = .top → reader.shared.nextBuf = [] →
      reader.shared.needData = false ∨ reader.shared.command = .stop →
      ¬ reader.point.Seeks → next.Rests) : next.Rests := by
  cases rests with
  | exited exited => exact .exited (prefetcher.trans exited)
  | last top last => exact .last (prefetcher.trans top) (pending.trans last)
  | asleep top empty sleeps owner => exact asleep top empty sleeps owner

theorem buffered_append {answer : Nat × ReadAnswer}
    (all : ∀ answer ∈ failure.answers, failure.Buffered answer) (one : failure.Buffered answer) :
    ∀ other ∈ failure.answers ++ [answer], failure.Buffered other := by
  intro other inside
  rcases mem_append.mp inside with old | new
  · exact all other old
  · rw [mem_singleton.mp new]
    exact one

section

variable (unreported : reader.Unreported failure)
include unreported

theorem Unreported.wakeEarly (locked : Bool) : reader.wakeEarly locked = reader :=
  if_neg fun wakes => by simp [unreported.eos] at wakes

theorem Unreported.serve (some : reader.pos < reader.buf.length) (size : Nat) :
    (reader.serve size).Unreported
      { failure with
        answers := failure.answers ++ [(size, .ok (reader.remaining.take size))] } := by
  have idle : (reader.serve size).point = .idle := rfl
  have buffered : failure.Buffered (size, .ok (reader.remaining.take size)) := by
    refine ⟨_, rfl, fun positive => ?_, fun byte inside => ?_⟩
    · apply ne_nil_of_length_pos
      show 0 < ((reader.buf.drop reader.pos).take size).length
      rw [length_take, length_drop]
      have positive : 0 < size := positive
      omega
    · apply unreported.below byte
      exact mem_append_left _ (mem_of_mem_drop (mem_of_mem_take inside))
  exact { unreported with
    answers := buffered_append unreported.answers buffered
    rests := unreported.rests.frame rfl rfl fun top empty asleep _ =>
      .asleep top empty asleep (by rw [idle]; exact id) }

theorem Unreported.below_taken : Below failure.segment (reader.shared.nextBuf ++ []) := by
  rw [append_nil]
  exact (below_append.mp unreported.below).2

/-- Bytes are left in the next buffer only where nothing more is pending. -/
theorem Unreported.swap (some : reader.shared.nextBuf ≠ []) : reader.swap.Unreported failure := by
  exact { unreported with
    below := unreported.below_taken
    rests := unreported.rests.frame rfl rfl fun _ empty => absurd empty some }

theorem Unreported.not_working (working : reader.prefetcher ≠ .top)
    (alive : reader.prefetcher ≠ .exited) : False := by
  cases unreported.rests with
  | exited exited => exact alive exited
  | last top => exact working top
  | asleep top => exact working top

end

theorem told_storeFailed (ordered : Ordered stream reader) {error : String}
    (fetched : reader.prefetcher = .fetched batch (some error))
    (stores : ¬ (batch.seeking = false ∧ reader.shared.command ≠ .continue)) :
    (reader.storeFailed batch error).Told := by
  obtain ⟨posted, waits⟩ := ordered.command_of_store fetched stores
  obtain ⟨first, order, -, failed, below⟩ := ordered.below_of_store fetched stores
  have bound : batch.position < batch.segments.length := failed (by simp)
  have number := number_of_batch order (List.getElem?_eq_getElem bound)
  rintro failure ⟨⟩ clean
  refine .inl ⟨by simp, ?_, rfl, rfl, posted, ?_⟩
  · show Below (((batch.segments[batch.position]?).map (·.number)).getD 0) _
    rw [List.getElem?_eq_getElem bound, map_some, getD_some, number]
    exact below
  · rcases clean with last | ⟨other, empty⟩
    · have last : reader.shared.pending = [] := by simpa using last
      exact .last rfl last
    · have empty : reader.shared.nextBuf ++ batch.tmpBuf = [] := by simpa using empty
      refine .asleep rfl empty (.inl rfl) fun seeks => ?_
      have seeking := (waits seeks).1
      have other : batch.seeking = false := other
      simp [seeking] at other

section

variable (told : reader.Told)
include told

theorem Told.answer {size : Nat} {given : ReadAnswer}
    (failure_eq : next.failure = reader.failure.map fun failure =>
      { failure with answers := failure.answers ++ [(size, given)] })
    (unreported : ∀ failure, reader.Unreported failure →
      next.Unreported { failure with answers := failure.answers ++ [(size, given)] } ∨
        Reported { failure with answers := failure.answers ++ [(size, given)] }) :
    next.Told := by
  intro failure failed clean
  rw [failure_eq] at failed
  obtain ⟨old, old_failed, rfl⟩ := map_eq_some_iff.mp failed
  rcases told old old_failed clean with open_ | reported
  · exact unreported old open_
  · exact .inr (reported.append _)

theorem Told.same (failure_eq : next.failure = reader.failure)
    (unreported : ∀ failure, reader.Unreported failure → next.Unreported failure) :
    next.Told := by
  intro failure failed clean
  rw [failure_eq] at failed
  exact (told failure failed clean).imp_left (unreported failure)

theorem Told.serve (some : reader.pos < reader.buf.length) (size : Nat)
    (locked : Bool) : ((reader.wakeEarly locked).serve size).Told := by
  have answered : ((reader.wakeEarly locked).serve size).failure =
      reader.failure.map fun failure =>
        { failure with
          answers := failure.answers ++ [(size, .ok (reader.remaining.take size))] } := by
    unfold wakeEarly
    split <;> rfl
  refine told.answer answered fun failure unreported => .inl ?_
  rw [unreported.wakeEarly locked]
  exact unreported.serve some size

theorem Told.readLocked (size : Nat) : (reader.readLocked size).Told := by
  unfold SoundCloudHlsReader.readLocked
  split
  · rename_i some
    exact told.same rfl fun failure unreported => unreported.swap some
  · split
    · rename_i error there
      refine told.answer rfl fun failure unreported => .inr ?_
      rw [unreported.error] at there
      cases there
      exact ⟨failure.answers, size, [], rfl, unreported.answers⟩
    · rename_i none
      have taken : ∀ failure, ¬ reader.Unreported failure := fun failure unreported => by
        simp [unreported.error] at none
      split
      · exact told.answer rfl fun failure unreported => absurd unreported (taken failure)
      · exact told.same rfl fun failure unreported => absurd unreported (taken failure)

theorem Told.readTurn (size : Nat) (locked : Bool) : (reader.readTurn size locked).Told := by
  unfold SoundCloudHlsReader.readTurn
  split
  · rename_i some
    exact told.serve some size locked
  · exact told.readLocked size

theorem Told.finishSeek {target skip : Nat}
    (seeking : reader.point = .seeking target skip) : (reader.finishSeek skip).Told := by
  refine told.same rfl fun failure unreported => ?_
  exact { unreported with
    below := unreported.below_taken
    rests := unreported.rests.frame rfl rfl fun _ _ _ owner =>
      absurd (by simp [seeking, ReaderPoint.Seeks]) owner }

theorem Told.postStop : reader.postStop.Told := by
  refine told.same rfl fun failure unreported => ?_
  exact { unreported with
    command := fun target => by simp [SoundCloudHlsReader.postStop]
    rests := unreported.rests.frame rfl rfl fun top empty _ _ =>
      .asleep top empty (.inr rfl) id }

theorem Told.takeCommand (top : reader.prefetcher = .top)
    (needed : reader.shared.needData = true) : (reader.takeCommand stream).Told := by
  unfold SoundCloudHlsReader.takeCommand
  split
  · refine told.same rfl fun failure unreported => ?_
    exact { unreported with command := by simp, rests := .exited rfl }
  · rename_i target posted
    exact told.same rfl fun failure unreported => absurd posted (unreported.command target)
  · rename_i command
    have last : ∀ failure, reader.Unreported failure → reader.shared.pending = [] := by
      intro failure unreported
      cases unreported.rests with
      | exited exited => simp [top] at exited
      | last _ last => exact last
      | asleep _ _ asleep => simp [needed, command] at asleep
    unfold beginBatch
    split
    · refine told.same rfl fun failure unreported => ?_
      exact { unreported with eos := rfl, rests := .last top (last failure unreported) }
    · rename_i more
      refine told.same rfl fun failure unreported => ?_
      simp [last failure unreported] at more

theorem Told.working (working : reader.prefetcher ≠ .top)
    (alive : reader.prefetcher ≠ .exited) (failure_eq : next.failure = reader.failure) :
    next.Told :=
  told.same failure_eq fun _ unreported => (unreported.not_working working alive).elim

theorem Told.fetchNext (fetching : reader.prefetcher = .fetching batch)
    (fetchError : Option String) : (reader.fetchNext stream batch fetchError).Told := by
  apply told.working (by simp [fetching]) (by simp [fetching])
  unfold SoundCloudHlsReader.fetchNext
  split
  · rfl
  · split
    · rfl
    · split <;> rfl

theorem Told.store (ordered : Ordered stream reader)
    {fetchError : Option String} (fetched : reader.prefetcher = .fetched batch fetchError) :
    (reader.store batch fetchError).Told := by
  have working : reader.prefetcher ≠ .top := by simp [fetched]
  have alive : reader.prefetcher ≠ .exited := by simp [fetched]
  unfold SoundCloudHlsReader.store
  split
  · exact told.working working alive rfl
  · rename_i stores
    split
    · exact told_storeFailed ordered fetched stores
    · exact told.working working alive rfl

section Durations

variable [Zero Seconds] [Add Seconds] [LE Seconds] [DecidableLE Seconds]

theorem Told.seekToByte (targetByte : Nat) : (reader.seekToByte stream targetByte).Told := by
  simp only [SoundCloudHlsReader.seekToByte]
  split
  · refine told.same rfl fun failure unreported => ?_
    refine ⟨unreported.answers, unreported.below, unreported.error, unreported.eos,
      unreported.command, unreported.rests.frame rfl rfl ?_⟩
    intro top empty asleep owner
    exact .asleep top empty asleep owner
  · intro failure failed
    cases failed

theorem Told.seek (whence : Whence) : (reader.seek stream whence).Told := by
  have moved (targetByte : Nat) : (reader.seekToByte stream targetByte).Told :=
    told.seekToByte targetByte
  cases whence with
  | start offset => exact moved offset
  | current delta => exact moved (addSigned reader.totalBytesRead delta)
  | fromEnd delta => exact moved stream.byteLen

theorem Told.step (ordered : Ordered stream reader) (act : ReaderAct)
    (stepped : reader.step stream act = some next) : next.Told := by
  cases steps_of_step stepped with
  | read size idle =>
    refine told.same rfl fun failure unreported => ?_
    exact { unreported with
      rests := unreported.rests.frame rfl rfl fun top empty asleep _ =>
        .asleep top empty asleep id }
  | @readTurn size locked reading => exact told.readTurn size locked
  | seek whence idle => exact told.seek whence
  | finishSeek seeking done => exact told.finishSeek seeking
  | drop idle => exact told.postStop
  | takeCommand top needed => exact told.takeCommand top needed
  | fetchNext fetchError fetching => exact told.fetchNext fetching fetchError
  | store fetched => exact told.store ordered fetched

end Durations

end

end SoundCloudHlsReader

section Durations

variable [Zero Seconds] [Add Seconds] [LE Seconds] [DecidableLE Seconds]

theorem run_ordered_told {stream : Stream Seconds} {opened reader : SoundCloudHlsReader Seconds}
    {acts : List ReaderAct} (created : SoundCloudHlsReader.new stream none = .ok opened)
    (ran : (readerSystem stream).run opened acts = some reader) :
    reader.Ordered stream ∧ reader.Told := by
  obtain ⟨ordered, none⟩ := SoundCloudHlsReader.ordered_new created
  refine (readerSystem stream).run_invariant_of_step
    (fun reader => reader.Ordered stream ∧ reader.Told) ?_ acts ⟨ordered, ?_⟩ ran
  · intro state act next holds stepped
    exact ⟨holds.1.step act stepped, holds.2.step holds.1 act stepped⟩
  · intro failure failed
    rw [none] at failed
    cases failed

/-- After a clean failure, and up to the next hard seek, reads deliver bytes that were buffered
before the failed segment, and the first other answer is the error.  As long as it is not
reported, a read that finds both buffers used up reports it. -/
theorem error_reported_first {stream : Stream Seconds}
    {opened reader : SoundCloudHlsReader Seconds} {acts : List ReaderAct} {failure : Failure}
    (created : SoundCloudHlsReader.new stream none = .ok opened)
    (ran : (readerSystem stream).run opened acts = some reader)
    (failed : reader.failure = some failure) (clean : failure.Clean) :
    (∃ before after, failure.answers = before ++ after ∧
      (∀ answer ∈ before, failure.Buffered answer) ∧
      (after = [] ∨ ∃ size rest, after = (size, .error failure.text) :: rest)) ∧
    ((∀ answer ∈ failure.answers, answer.2 ≠ .error failure.text) →
      reader.buf.length ≤ reader.pos → reader.shared.nextBuf = [] →
      ∀ size locked, (reader.readTurn size locked).failure =
        some { failure with answers := failure.answers ++ [(size, .error failure.text)] }) := by
  rcases (run_ordered_told created ran).2 failure failed clean with unreported | reported
  · refine ⟨⟨failure.answers, [], by simp, unreported.answers, .inl rfl⟩, ?_⟩
    intro _ consumed empty size locked
    rw [SoundCloudHlsReader.readTurn, if_neg (by omega), SoundCloudHlsReader.readLocked,
      if_neg (by simp [empty]), unreported.error]
    show reader.failure.map _ = _
    rw [failed]
    rfl
  · obtain ⟨before, size, rest, split, buffered⟩ := reported
    refine ⟨⟨before, _, split, buffered, .inr ⟨size, rest, rfl⟩⟩, fun silent => ?_⟩
    exact absurd rfl (silent (size, .error failure.text) (by rw [split]; simp))

end Durations

def sevenSegments : Stream Nat where
  segments := (List.range 7).map fun number => ⟨number, [UInt8.ofNat number], some 1⟩
  numbered := by decide
  extractAdts := id
  secondsAt := id
  bytesAt := id

def lastFails : List ReaderAct :=
  [.takeCommand, .fetchNext none, .fetchNext none, .fetchNext none, .fetchNext none, .store,
    .read 8, .readTurn true, .read 8, .readTurn true,
    .takeCommand, .fetchNext (some "gone"), .store, .readTurn true, .read 8, .readTurn true]

theorem last_failure_reported : ∃ opened reader failure,
    SoundCloudHlsReader.new sevenSegments none = .ok opened ∧
    (readerSystem sevenSegments).run opened lastFails = some reader ∧
    reader.failure = some failure ∧ failure.answers =
      [(8, .ok [(3, 3), (4, 4), (5, 5)]), (8, .error "gone")] ∧
    ∃ before after, failure.answers = before ++ after ∧
      (∀ answer ∈ before, failure.Buffered answer) ∧
      (after = [] ∨ ∃ size rest, after = (size, .error failure.text) :: rest) := by
  obtain ⟨opened, created, seen⟩ : ∃ opened,
      SoundCloudHlsReader.new sevenSegments none = .ok opened ∧
      ((readerSystem sevenSegments).run opened lastFails).bind (·.failure) =
        some ⟨6, "gone", false, false, false,
          [(8, .ok [(3, 3), (4, 4), (5, 5)]), (8, .error "gone")]⟩ :=
    ⟨_, rfl, by decide⟩
  obtain ⟨reader, ran, failed⟩ := bind_eq_some_iff.mp seen
  exact ⟨opened, reader, _, created, ran, failed, rfl,
    (error_reported_first created ran failed (by decide)).1⟩

/-- Segment 4 fails behind segment 3, and segment 6 is fetched after the swap. -/
def fourthFails : List ReaderAct :=
  [.takeCommand, .fetchNext none, .fetchNext (some "gone"), .store,
    .read 8, .readTurn true, .read 8, .readTurn true,
    .takeCommand, .fetchNext none, .fetchNext none, .store,
    .readTurn true, .read 8, .readTurn true, .readTurn true, .read 8, .readTurn true,
    .read 8, .readTurn true]

/-- After segment 4 has failed, a read delivers segment 6; then the error is reported, and the
next read reports the end of the stream. -/
theorem failure_forgotten : ∃ opened,
    SoundCloudHlsReader.new sevenSegments none = .ok opened ∧
    ((readerSystem sevenSegments).run opened fourthFails).bind
        (fun reader => reader.failure.map fun failure => (failure.segment, failure.answers)) =
      some (4, [(8, .ok [(0, 0), (1, 1), (2, 2)]), (8, .ok [(3, 3)]), (8, .ok [(6, 6)]),
        (8, .error "gone"), (8, .ok [])]) :=
  ⟨_, rfl, by decide⟩

end KizunaLink.SoundCloud
