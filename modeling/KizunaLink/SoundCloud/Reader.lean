import KizunaLink.Lib.System
import Mathlib.Data.List.Infix

/-!
# The SoundCloud HLS reader and its prefetcher

Model of `SoundCloudHlsReader` and `prefetch_loop` (sources/soundcloud/reader.rs).  The
steps are the sections that hold the lock and the turns of the loop that fetches a batch;
a wait on the condition variable may end at any time and looks at the state again.
Unlike the HLS reader of YouTube, the error is taken by the read that reports it, and
the prefetcher goes on after a failure.

Bytes carry the number of their segment.  What the program does not decide is part of
the act: whether `try_lock` succeeds and whether a segment arrives.  Times are of an
arbitrary type, with the conversions from and to bytes.
-/

set_option autoImplicit false

namespace KizunaLink.SoundCloud

open KizunaLink.Lib Option

def prefetchSegments : Nat := 3

def lowWaterBytes : Nat := 128 * 1024

/-- A byte with the number of its segment. -/
abbrev Tagged := Nat × UInt8

structure Segment (Seconds : Type) where
  number : Nat
  body : List UInt8
  duration : Option Seconds

/-- What opening the playlist fixes: the segments in their order, the demultiplexer, and the
conversions with the byte rate. -/
structure Stream (Seconds : Type) where
  segments : List (Segment Seconds)
  numbered : segments.map (·.number) = List.range segments.length
  extractAdts : List UInt8 → List UInt8
  secondsAt : Nat → Seconds
  bytesAt : Seconds → Nat

variable {Seconds : Type}

/-- `fetch_and_demux_into` once the body has arrived: MPEG-TS is demultiplexed, and taken as it
is if there is no audio in it. -/
def Stream.demux (stream : Stream Seconds) (segment : Segment Seconds) : List Tagged :=
  let adts := stream.extractAdts segment.body
  let bytes :=
    if segment.body.head? = some 0x47 then if adts.isEmpty then segment.body else adts
    else segment.body
  bytes.map fun byte => (segment.number, byte)

section Durations

variable [Zero Seconds] [Add Seconds] [LE Seconds] [DecidableLE Seconds]

def Stream.segmentDurations (stream : Stream Seconds) : List Seconds :=
  stream.segments.map fun segment => segment.duration.getD 0

/-- The segments that end at or before the target are skipped. -/
def skipSegments (target : Seconds) : List Seconds → Seconds → Nat → Seconds × Nat
  | [], startSecs, index => (startSecs, index)
  | duration :: rest, startSecs, index =>
    if startSecs + duration ≤ target then
      skipSegments target rest (startSecs + duration) (index + 1)
    else (startSecs, index)

/-- The segment of a byte, and the bytes of it to be skipped. -/
def Stream.locate (stream : Stream Seconds) (targetByte : Nat) : Nat × Nat :=
  let skipped := skipSegments (stream.secondsAt targetByte) stream.segmentDurations 0 0
  let index :=
    if stream.segments.length ≤ skipped.2 then stream.segments.length - 1 else skipped.2
  (index, targetByte - stream.bytesAt skipped.1)

def Stream.byteLen (stream : Stream Seconds) : Nat :=
  stream.bytesAt (stream.segmentDurations.foldl (· + ·) 0)

end Durations

def wrapI64 (value : Int) : Int := value.bmod (2 ^ 64)

inductive PrefetchCommand where
  | continue
  | seek (target : Nat)
  | stop
  deriving DecidableEq, Repr

structure SharedState (Seconds : Type) where
  nextBuf : List Tagged := []
  needData : Bool := true
  pending : List (Segment Seconds)
  currentSegmentIndex : Nat
  command : PrefetchCommand := .continue
  seekDone : Bool := false
  eos : Bool := false
  error : Option String := none

structure Batch (Seconds : Type) where
  seeking : Bool
  currentIdx : Nat
  segments : List (Segment Seconds)
  position : Nat := 0
  tmpBuf : List Tagged := []

inductive PrefetchPoint (Seconds : Type) where
  | top
  | fetching (batch : Batch Seconds)
  | fetched (batch : Batch Seconds) (fetchError : Option String)
  | exited

/-- Where the thread that owns the reader stands; a hard seek waits for `seek_done`. -/
inductive ReaderPoint where
  | idle
  | reading (size : Nat)
  | seeking (target skip : Nat)
  | dropped
  deriving DecidableEq, Repr

inductive ReadAnswer where
  | ok (bytes : List Tagged)
  | error (text : String)
  deriving DecidableEq, Repr

/-- A fetch that failed fatally, with what stood in the shared state behind it, and what reads
have answered since, each with the size of its buffer. -/
structure Failure where
  segment : Nat
  text : String
  seeking : Bool
  keptBytes : Bool
  morePending : Bool
  answers : List (Nat × ReadAnswer) := []
  deriving DecidableEq, Repr

/-- `failure` is the last fatal failure since the last hard seek. -/
structure SoundCloudHlsReader (Seconds : Type) where
  buf : List Tagged
  pos : Nat := 0
  totalBytesRead : Nat := 0
  shared : SharedState Seconds
  point : ReaderPoint := .idle
  prefetcher : PrefetchPoint Seconds := .top
  failure : Option Failure := none

inductive Whence where
  | start (offset : Nat)
  | current (delta : Int)
  | fromEnd (delta : Int)
  deriving DecidableEq, Repr

namespace SoundCloudHlsReader

/-! ## The reader -/

/-- `SoundCloudHlsReader::new`: the first batch is fetched at once. -/
def new (stream : Stream Seconds) (bootFailure : Option String) :
    Except String (SoundCloudHlsReader Seconds) :=
  if stream.segments.isEmpty then .error "SoundCloud HLS: playlist contained no segments"
  else
    match bootFailure with
    | some error => .error error
    | none =>
      let count := min prefetchSegments stream.segments.length
      .ok
        { buf := (stream.segments.take count).flatMap stream.demux
          shared := { pending := stream.segments.drop count, currentSegmentIndex := count } }

variable (reader : SoundCloudHlsReader Seconds)

def remaining : List Tagged := reader.buf.drop reader.pos

def answer (size : Nat) (given : ReadAnswer) : SoundCloudHlsReader Seconds :=
  { reader with
    point := .idle
    failure := reader.failure.map fun failure =>
      { failure with answers := failure.answers ++ [(size, given)] } }

def serve (size : Nat) : SoundCloudHlsReader Seconds :=
  let served := reader.remaining.take size
  { reader.answer size (.ok served) with
    pos := reader.pos + served.length
    totalBytesRead := (reader.totalBytesRead + served.length) % 2 ^ 64 }

/-- Below the low-water mark the prefetcher is woken, if the lock is free. -/
def wakeEarly (locked : Bool) : SoundCloudHlsReader Seconds :=
  if reader.remaining.length ≤ lowWaterBytes ∧ locked = true ∧
      reader.shared.needData = false ∧ reader.shared.eos = false then
    { reader with shared := { reader.shared with needData := true } }
  else reader

/-- The next buffer becomes the active one, and the prefetcher is woken. -/
def swap : SoundCloudHlsReader Seconds :=
  { reader with
    buf := reader.shared.nextBuf
    pos := 0
    shared := { reader.shared with nextBuf := [], needData := true } }

/-- One turn of the loop of `read`, with the lock.  After a swap the read begins again. -/
def readLocked (size : Nat) : SoundCloudHlsReader Seconds :=
  if reader.shared.nextBuf ≠ [] then reader.swap
  else
    match reader.shared.error with
    | some error =>
      { reader.answer size (.error error) with
        shared := { reader.shared with error := none } }
    | none =>
      if reader.shared.eos then reader.answer size (.ok [])
      else { reader with shared := { reader.shared with needData := true } }

def readTurn (size : Nat) (locked : Bool) : SoundCloudHlsReader Seconds :=
  if reader.pos < reader.buf.length then (reader.wakeEarly locked).serve size
  else reader.readLocked size

section Durations

variable [Zero Seconds] [Add Seconds] [LE Seconds] [DecidableLE Seconds]

/-- Within the active buffer only the cursor moves.  Otherwise the buffer is cleared and the
prefetcher is told the segment. -/
def seekToByte (stream : Stream Seconds) (targetByte : Nat) : SoundCloudHlsReader Seconds :=
  let diff := wrapI64 (wrapI64 targetByte - wrapI64 reader.totalBytesRead)
  let newPosInBuf := wrapI64 (reader.pos + diff)
  if 0 ≤ newPosInBuf ∧ newPosInBuf ≤ reader.buf.length then
    { reader with pos := newPosInBuf.toNat, totalBytesRead := targetByte }
  else
    { reader with
      buf := []
      pos := 0
      totalBytesRead := targetByte
      shared :=
        { reader.shared with
          command := .seek (stream.locate targetByte).1
          needData := true
          seekDone := false }
      point := .seeking targetByte (stream.locate targetByte).2
      failure := none }

/-- `saturating_add_signed`. -/
def addSigned (offset : Nat) (delta : Int) : Nat := min (offset + delta).toNat (2 ^ 64 - 1)

def seek (stream : Stream Seconds) : Whence → SoundCloudHlsReader Seconds
  | .start offset => reader.seekToByte stream offset
  | .current delta => reader.seekToByte stream (addSigned reader.totalBytesRead delta)
  | .fromEnd _ => reader.seekToByte stream stream.byteLen

end Durations

/-- The target segment is swapped in. -/
def finishSeek (skip : Nat) : SoundCloudHlsReader Seconds :=
  { reader.swap with
    pos := min skip reader.shared.nextBuf.length
    shared := { reader.swap.shared with seekDone := false }
    point := .idle }

def postStop : SoundCloudHlsReader Seconds :=
  { reader with
    shared := { reader.shared with command := .stop, needData := true }
    point := .dropped }

/-! ## The prefetcher -/

variable (stream : Stream Seconds) (batch : Batch Seconds)

/-- The next buffer is cleared, and one segment is fetched. -/
def beginSeek (target : Nat) : SoundCloudHlsReader Seconds :=
  let pending := stream.segments.drop target
  let count := if pending.isEmpty then 0 else 1
  { reader with
    shared :=
      { reader.shared with
        nextBuf := []
        eos := false
        currentSegmentIndex := target
        pending := pending.drop count
        command := .continue }
    prefetcher :=
      .fetching { seeking := true, currentIdx := target, segments := pending.take count } }

def beginBatch : SoundCloudHlsReader Seconds :=
  if reader.shared.pending.isEmpty then
    { reader with shared := { reader.shared with eos := true, needData := false } }
  else
    let count := min prefetchSegments reader.shared.pending.length
    { reader with
      shared := { reader.shared with pending := reader.shared.pending.drop count }
      prefetcher :=
        .fetching
          { seeking := false
            currentIdx := reader.shared.currentSegmentIndex
            segments := reader.shared.pending.take count } }

/-- The section at the top of the loop, once the reader needs data. -/
def takeCommand : SoundCloudHlsReader Seconds :=
  match reader.shared.command with
  | .stop =>
    { reader with
      shared := { reader.shared with command := .continue }
      prefetcher := .exited }
  | .seek target => reader.beginSeek stream target
  | .continue => reader.beginBatch

/-- One turn of the loop over a batch.  The batch of a seek does not look at the command. -/
def fetchNext (fetchError : Option String) : SoundCloudHlsReader Seconds :=
  match batch.segments[batch.position]? with
  | none => { reader with prefetcher := .fetched batch none }
  | some segment =>
    if batch.seeking = false ∧ reader.shared.command ≠ .continue then
      { reader with prefetcher := .fetched batch none }
    else
      match fetchError with
      | some error => { reader with prefetcher := .fetched batch (some error) }
      | none =>
        { reader with
          prefetcher :=
            .fetching
              { batch with
                position := batch.position + 1
                tmpBuf := batch.tmpBuf ++ stream.demux segment } }

/-- What was fetched before the failure is kept; the prefetcher goes on. -/
def storeFailed (error : String) : SoundCloudHlsReader Seconds :=
  let nextBuf := reader.shared.nextBuf ++ batch.tmpBuf
  { reader with
    shared :=
      { reader.shared with
        nextBuf
        error := some error
        seekDone := batch.seeking || reader.shared.seekDone
        needData := false
        eos := true }
    prefetcher := .top
    failure :=
      some
        { segment := ((batch.segments[batch.position]?).map (·.number)).getD 0
          text := error
          seeking := batch.seeking
          keptBytes := !nextBuf.isEmpty
          morePending := !reader.shared.pending.isEmpty } }

def storeFetched : SoundCloudHlsReader Seconds :=
  { reader with
    shared :=
      { reader.shared with
        nextBuf := reader.shared.nextBuf ++ batch.tmpBuf
        currentSegmentIndex :=
          (if batch.seeking then reader.shared.currentSegmentIndex else batch.currentIdx) +
            batch.segments.length
        seekDone := batch.seeking || reader.shared.seekDone
        needData := false
        eos := reader.shared.pending.isEmpty }
    prefetcher := .top }

/-- A batch that was overtaken by a command is dropped, with its error. -/
def store (fetchError : Option String) : SoundCloudHlsReader Seconds :=
  if batch.seeking = false ∧ reader.shared.command ≠ .continue then
    { reader with prefetcher := .top }
  else
    match fetchError with
    | some error => reader.storeFailed batch error
    | none => reader.storeFetched batch

end SoundCloudHlsReader

inductive ReaderAct where
  | read (size : Nat)
  | readTurn (locked : Bool)
  | seek (whence : Whence)
  | finishSeek
  | drop
  | takeCommand
  | fetchNext (fetchError : Option String)
  | store
  deriving DecidableEq, Repr

section Durations

variable [Zero Seconds] [Add Seconds] [LE Seconds] [DecidableLE Seconds]

def SoundCloudHlsReader.step (stream : Stream Seconds) (reader : SoundCloudHlsReader Seconds) :
    ReaderAct → Option (SoundCloudHlsReader Seconds)
  | .read size =>
    if reader.point = .idle then some { reader with point := .reading size } else none
  | .readTurn locked =>
    match reader.point with
    | .reading size => some (reader.readTurn size locked)
    | .idle | .seeking _ _ | .dropped => none
  | .seek whence => if reader.point = .idle then some (reader.seek stream whence) else none
  | .finishSeek =>
    match reader.point with
    | .seeking _ skip => if reader.shared.seekDone then some (reader.finishSeek skip) else none
    | .idle | .reading _ | .dropped => none
  | .drop => if reader.point = .idle then some reader.postStop else none
  | .takeCommand =>
    match reader.prefetcher with
    | .top => if reader.shared.needData then some (reader.takeCommand stream) else none
    | .fetching _ | .fetched _ _ | .exited => none
  | .fetchNext fetchError =>
    match reader.prefetcher with
    | .fetching batch => some (reader.fetchNext stream batch fetchError)
    | .top | .fetched _ _ | .exited => none
  | .store =>
    match reader.prefetcher with
    | .fetched batch fetchError => some (reader.store batch fetchError)
    | .top | .fetching _ | .exited => none

/-- Everything that a step can do, with the point of the party that takes it. -/
inductive SoundCloudHlsReader.Steps (stream : Stream Seconds)
    (reader : SoundCloudHlsReader Seconds) : ReaderAct → SoundCloudHlsReader Seconds → Prop where
  | read (size : Nat) (idle : reader.point = .idle) :
      Steps stream reader (.read size) { reader with point := .reading size }
  | readTurn {size : Nat} (locked : Bool) (reading : reader.point = .reading size) :
      Steps stream reader (.readTurn locked) (reader.readTurn size locked)
  | seek (whence : Whence) (idle : reader.point = .idle) :
      Steps stream reader (.seek whence) (reader.seek stream whence)
  | finishSeek {target skip : Nat} (seeking : reader.point = .seeking target skip)
      (done : reader.shared.seekDone = true) :
      Steps stream reader .finishSeek (reader.finishSeek skip)
  | drop (idle : reader.point = .idle) : Steps stream reader .drop reader.postStop
  | takeCommand (top : reader.prefetcher = .top) (needed : reader.shared.needData = true) :
      Steps stream reader .takeCommand (reader.takeCommand stream)
  | fetchNext {batch : Batch Seconds} (fetchError : Option String)
      (fetching : reader.prefetcher = .fetching batch) :
      Steps stream reader (.fetchNext fetchError) (reader.fetchNext stream batch fetchError)
  | store {batch : Batch Seconds} {fetchError : Option String}
      (fetched : reader.prefetcher = .fetched batch fetchError) :
      Steps stream reader .store (reader.store batch fetchError)

theorem SoundCloudHlsReader.steps_of_step {stream : Stream Seconds}
    {reader next : SoundCloudHlsReader Seconds} {act : ReaderAct}
    (stepped : reader.step stream act = some next) : reader.Steps stream act next := by
  cases act with
  | read size =>
    obtain ⟨idle, ⟨⟩⟩ := ite_none_right_eq_some.mp stepped
    exact .read size idle
  | readTurn locked =>
    simp only [SoundCloudHlsReader.step] at stepped
    split at stepped
    · rename_i size reading
      cases stepped
      exact .readTurn locked reading
    all_goals cases stepped
  | seek whence =>
    obtain ⟨idle, ⟨⟩⟩ := ite_none_right_eq_some.mp stepped
    exact .seek whence idle
  | finishSeek =>
    simp only [SoundCloudHlsReader.step] at stepped
    split at stepped
    · rename_i target skip seeking
      obtain ⟨done, ⟨⟩⟩ := ite_none_right_eq_some.mp stepped
      exact .finishSeek seeking done
    all_goals cases stepped
  | drop =>
    obtain ⟨idle, ⟨⟩⟩ := ite_none_right_eq_some.mp stepped
    exact .drop idle
  | takeCommand =>
    simp only [SoundCloudHlsReader.step] at stepped
    split at stepped
    · rename_i top
      obtain ⟨needed, ⟨⟩⟩ := ite_none_right_eq_some.mp stepped
      exact .takeCommand top needed
    all_goals cases stepped
  | fetchNext fetchError =>
    simp only [SoundCloudHlsReader.step] at stepped
    split at stepped
    · rename_i batch fetching
      cases stepped
      exact .fetchNext fetchError fetching
    all_goals cases stepped
  | store =>
    simp only [SoundCloudHlsReader.step] at stepped
    split at stepped
    · rename_i batch fetchError fetched
      cases stepped
      exact .store fetched
    all_goals cases stepped

def readerSystem (stream : Stream Seconds) : System (SoundCloudHlsReader Seconds) ReaderAct :=
  ⟨SoundCloudHlsReader.step stream⟩

end Durations

end KizunaLink.SoundCloud
