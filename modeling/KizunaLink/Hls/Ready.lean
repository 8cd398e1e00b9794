import KizunaLink.Hls.Reader

/-!
# What the HLS prefetcher has ready

What has been read since the last seek, what is left of the active buffer, the
look-ahead buffer and the finished part of the batch in flight are, in this order,
the init segment and the segments from the seek's target on.  `Ready` says this of
the prefetcher's side, for whatever bytes are held; each step of the prefetcher
keeps it or adds the bytes of the batch that it stores.
-/

set_option autoImplicit false

namespace KizunaLink.Hls

open KizunaLink.Lib List

variable {Seconds : Type}

namespace Stream

variable (stream : Stream Seconds)

def bytesOf (resource : Resource Seconds) : Bytes :=
  (demux stream.extractAdts resource.body).toOption.getD []

def span (first last : Nat) : Bytes :=
  stream.map.getD [] ++ ((stream.segments.take last).drop first).flatMap stream.bytesOf

def content (first : Nat) : Bytes :=
  stream.map.getD [] ++ (stream.segments.drop first).flatMap stream.bytesOf

variable {stream}

theorem span_self (first : Nat) : stream.span first first = stream.map.getD [] := by
  rw [span, drop_eq_nil_of_le (length_take_le first stream.segments), flatMap_nil, append_nil]

theorem span_append {first middle : Nat} (ordered : first ≤ middle)
    (within : middle ≤ stream.segments.length) (count : Nat) :
    stream.span first (middle + count) =
      stream.span first middle ++
        ((stream.segments.drop middle).take count).flatMap stream.bytesOf := by
  have long : first ≤ (stream.segments.take middle).length := by
    rw [length_take]
    omega
  rw [span, take_add, drop_append_of_le_length long, flatMap_append, ← append_assoc, span]

theorem span_length (first : Nat) :
    stream.span first stream.segments.length = stream.content first := by
  rw [span, take_length, content]

theorem span_prefix (first last : Nat) : stream.span first last <+: stream.content first := by
  refine prefix_append_right_inj _ |>.mpr ?_
  have split : stream.segments.drop first =
      (stream.segments.take last).drop first ++
        (stream.segments.drop last).drop (first - (stream.segments.take last).length) := by
    rw [← drop_append, take_append_drop]
  rw [split, flatMap_append]
  exact prefix_append _ _

theorem bytesOf_of_fetched {resource : Resource Seconds} {failure : Option String}
    {bytes : Bytes} (fetched : stream.fetchAndDemux resource failure = .ok bytes) :
    stream.bytesOf resource = bytes := by
  cases failure with
  | some error => cases fetched
  | none =>
    simp only [fetchAndDemux] at fetched
    rw [bytesOf, fetched]
    rfl

end Stream

/-- The batch is what stands at `segIdx`, before the pending segments; the bytes are
those of the part that is done, which follow the segments from `first` on in `held`. -/
structure Batch.Sound (stream : Stream Seconds) (pending : List (Resource Seconds))
    (first : Nat) (held : Bytes) (batch : Batch Seconds) : Prop where
  ahead : stream.segments.drop batch.segIdx = batch.resources ++ pending
  bounded : batch.position ≤ batch.resources.length
  ordered : first ≤ batch.segIdx
  within : batch.segIdx ≤ stream.segments.length
  fetched : batch.tmpBuf = (batch.resources.take batch.position).flatMap stream.bytesOf
  held : held = stream.span first batch.segIdx

namespace Batch.Sound

variable {stream : Stream Seconds} {pending : List (Resource Seconds)} {first : Nat}
  {held : Bytes} {batch : Batch Seconds}

section

variable (sound : batch.Sound stream pending first held)
include sound

theorem next {resource : Resource Seconds}
    (found : batch.resources[batch.position]? = some resource) {bytes : Bytes}
    (gives : stream.bytesOf resource = bytes) :
    { batch with position := batch.position + 1, tmpBuf := batch.tmpBuf ++ bytes }.Sound
      stream pending first held := by
  obtain ⟨bound, rfl⟩ := List.getElem?_eq_some_iff.mp found
  refine { sound with bounded := bound, fetched := ?_ }
  simp only
  rw [take_succ_eq_append_getElem bound, flatMap_append, ← sound.fetched, flatMap_singleton, gives]

theorem stored : held ++ batch.tmpBuf = stream.span first (batch.segIdx + batch.position) := by
  have part : (stream.segments.drop batch.segIdx).take batch.position =
      batch.resources.take batch.position := by
    rw [sound.ahead, take_append_of_le_length sound.bounded]
  rw [Stream.span_append sound.ordered sound.within, part, ← sound.fetched, ← sound.held]

theorem drop_length : stream.segments.drop (batch.segIdx + batch.resources.length) = pending := by
  rw [← drop_drop, sound.ahead, drop_left]

theorem length_le : batch.segIdx + batch.resources.length ≤ stream.segments.length := by
  have lengths := congrArg List.length sound.ahead
  rw [length_drop, length_append] at lengths
  have within := sound.within
  omega

end

end Batch.Sound

namespace HlsReader

/-- The stream from segment `first` on is held as far as it has been stored, and the
prefetcher goes on from there.  A batch in flight is of the kind `seeking`. -/
def Ready (stream : Stream Seconds) (seeking : Bool) (first : Nat) (held : Bytes)
    (reader : HlsReader Seconds) : Prop :=
  match reader.prefetcher with
  | .top =>
    first ≤ reader.shared.currentSegmentIndex ∧
      reader.shared.currentSegmentIndex ≤ stream.segments.length ∧
      stream.segments.drop reader.shared.currentSegmentIndex = reader.shared.pending ∧
      held = stream.span first reader.shared.currentSegmentIndex ∧
      (reader.shared.eos = true → reader.shared.pending = [])
  | .fetching batch =>
    batch.seeking = seeking ∧ batch.segIdx = reader.shared.currentSegmentIndex ∧
      batch.Sound stream reader.shared.pending first held ∧ reader.shared.eos = false
  | .fetched batch none =>
    batch.seeking = seeking ∧ batch.segIdx = reader.shared.currentSegmentIndex ∧
      batch.Sound stream reader.shared.pending first held ∧ reader.shared.eos = false ∧
      batch.position = batch.resources.length
  | .fetched batch (some _) =>
    batch.seeking = seeking ∧ batch.segIdx = reader.shared.currentSegmentIndex ∧
      batch.Sound stream reader.shared.pending first held ∧ reader.shared.eos = false ∧
      reader.failedAt = some (batch.segIdx + batch.position)
  | .exited =>
    reader.shared.error.isSome = true ∧
      ∃ failed, reader.failedAt = some failed ∧ first ≤ failed ∧
        held = stream.span first failed

def NotSeeking (reader : HlsReader Seconds) : Prop :=
  match reader.prefetcher with
  | .top | .exited => True
  | .fetching batch | .fetched batch _ => batch.seeking = false

/-- A turn of the loop over a batch goes on with it or ends it. -/
theorem fetchNext_eq (stream : Stream Seconds) (reader : HlsReader Seconds)
    (batch : Batch Seconds) (failure : Option String) :
    ∃ point failedAt later,
      reader.fetchNext stream batch failure = { reader with prefetcher := point, failedAt } ∧
      (point = .fetching later ∨ ∃ error, point = .fetched later error) ∧
      later.seeking = batch.seeking ∧ later.resources = batch.resources := by
  unfold fetchNext
  split
  · exact ⟨_, _, _, rfl, .inr ⟨_, rfl⟩, rfl, rfl⟩
  · split
    · exact ⟨_, _, _, rfl, .inr ⟨_, rfl⟩, rfl, rfl⟩
    · split
      · exact ⟨_, _, _, rfl, .inr ⟨_, rfl⟩, rfl, rfl⟩
      · exact ⟨_, _, _, rfl, .inl rfl, rfl, rfl⟩

variable {stream : Stream Seconds} {reader : HlsReader Seconds} {seeking : Bool} {first : Nat}
  {held : Bytes}

variable {batch : Batch Seconds}

theorem Ready.notSeeking (ready : reader.Ready stream false first held) : reader.NotSeeking := by
  unfold NotSeeking
  split
  · trivial
  · trivial
  · next batch fetching =>
      simp only [Ready, fetching] at ready
      exact ready.1
  · next batch fetchError fetched =>
      cases fetchError <;> simp only [Ready, fetched] at ready <;> exact ready.1

theorem Ready.held_prefix (ready : reader.Ready stream seeking first held) :
    held <+: stream.content first := by
  unfold Ready at ready
  split at ready
  · obtain ⟨-, -, -, rfl, -⟩ := ready
    exact Stream.span_prefix first _
  · exact ready.2.2.1.held ▸ Stream.span_prefix first _
  · exact ready.2.2.1.held ▸ Stream.span_prefix first _
  · exact ready.2.2.1.held ▸ Stream.span_prefix first _
  · obtain ⟨-, failed, -, -, rfl⟩ := ready
    exact Stream.span_prefix first failed

theorem Ready.beginBatch (ready : reader.Ready stream seeking first held)
    (top : reader.prefetcher = .top) : reader.beginBatch.Ready stream false first held := by
  simp only [Ready, top] at ready
  obtain ⟨ordered, within, ahead, isHeld, ended⟩ := ready
  unfold HlsReader.beginBatch
  split
  · next empty =>
      simp only [Ready, top]
      exact ⟨ordered, within, ahead, isHeld, fun _ => List.isEmpty_iff.mp empty⟩
  · next some =>
      have running : reader.shared.eos = false := by
        by_contra isEnded
        exact some (List.isEmpty_iff.mpr (ended (Bool.not_eq_false _ ▸ isEnded)))
      refine ⟨rfl, rfl, ⟨?_, Nat.zero_le _, ordered, within, rfl, isHeld⟩, running⟩
      exact ahead.trans (take_append_drop _ _).symm

theorem ready_beginSeek (reader : HlsReader Seconds) {target : Nat}
    (within : target ≤ stream.segments.length) :
    (reader.beginSeek stream target).Ready stream true target
      (reader.beginSeek stream target).shared.nextBuf := by
  refine ⟨rfl, rfl, ⟨?_, Nat.zero_le _, le_rfl, within, rfl, ?_⟩, rfl⟩
  · exact (take_append_drop _ _).symm
  · exact (Stream.span_self target).symm

theorem Ready.fetchNext (failure : Option String) (ready : reader.Ready stream seeking first held)
    (fetching : reader.prefetcher = .fetching batch)
    (whole : seeking = true ∨ reader.abortFlag = false) :
    (reader.fetchNext stream batch failure).Ready stream seeking first held := by
  simp only [Ready, fetching] at ready
  obtain ⟨kind, index, sound, running⟩ := ready
  unfold HlsReader.fetchNext
  split
  · next finished =>
      have complete : batch.position = batch.resources.length :=
        Nat.le_antisymm sound.bounded (List.getElem?_eq_none_iff.mp finished)
      exact ⟨kind, index, sound, running, complete⟩
  · next resource found =>
      split
      · next aborted =>
          rcases whole with isSeek | clear
          · exact absurd (kind.symm.trans aborted.1) (by simp [isSeek])
          · exact absurd (clear.symm.trans aborted.2) (by decide)
      · split
        · exact ⟨kind, index, sound, running, rfl⟩
        · next bytes fetched =>
            exact ⟨kind, index, sound.next found (Stream.bytesOf_of_fetched fetched), running⟩

section

variable (ready : reader.Ready stream seeking first held)
include ready

theorem Ready.storeFailed {error : String}
    (fetched : reader.prefetcher = .fetched batch (some error)) :
    (reader.storeFailed batch error).Ready stream seeking first (held ++ batch.tmpBuf) := by
  simp only [Ready, fetched] at ready
  obtain ⟨-, -, sound, -, failedAt⟩ := ready
  refine ⟨rfl, batch.segIdx + batch.position, failedAt, ?_, sound.stored⟩
  exact Nat.le_add_right_of_le sound.ordered

theorem Ready.storeFetched
    (fetched : reader.prefetcher = .fetched batch none) :
    (reader.storeFetched batch).Ready stream seeking first (held ++ batch.tmpBuf) := by
  simp only [Ready, fetched] at ready
  obtain ⟨-, index, sound, -, complete⟩ := ready
  have same : (reader.storeFetched batch).shared.currentSegmentIndex =
      batch.segIdx + batch.resources.length := by
    simp [HlsReader.storeFetched, ← index]
  refine ⟨?_, ?_, ?_, ?_, List.isEmpty_iff.mp⟩
  · exact same ▸ Nat.le_add_right_of_le sound.ordered
  · exact same ▸ sound.length_le
  · exact same ▸ sound.drop_length
  · exact same ▸ complete ▸ sound.stored

theorem Ready.store {fetchError : Option String}
    (fetched : reader.prefetcher = .fetched batch fetchError)
    (current : ¬ (batch.seeking = false ∧ reader.shared.command ≠ .continue)) :
    (reader.store batch fetchError).Ready stream seeking first (held ++ batch.tmpBuf) := by
  unfold HlsReader.store
  rw [if_neg current]
  cases fetchError with
  | some error => exact ready.storeFailed fetched
  | none => exact ready.storeFetched fetched

end

end HlsReader

end KizunaLink.Hls
