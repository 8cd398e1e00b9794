import KizunaLink.Lib.System
import Mathlib.Data.List.Infix

/-!
# The HLS reader and its prefetcher

Model of `HlsReader` (media/sources/youtube/hls/mod.rs): the reader (`read`,
`seek`, `drop`) and the thread of `prefetch_loop` share two buffers behind one
lock, a command and an abort flag that is read without the lock.  The steps are
the sections that hold the lock, the stores of the flag, and the turns of the
loop that fetches a batch.  A wait on the condition variable may end at any time
and looks at the state again.

What the reader cannot decide is part of the act: whether `try_lock` succeeds, and
whether the URL of a segment resolves and its body arrives.  The arithmetic on
durations is that of an arbitrary type.
-/

set_option autoImplicit false

namespace KizunaLink.Hls

open KizunaLink.Lib Option

abbrev Bytes := List UInt8

def prefetchSegments : Nat := 4

def lowWaterBytes : Nat := 512 * 1024

/-- A segment by the body that its URL and range name. -/
structure Resource (Seconds : Type) where
  body : Bytes
  duration : Option Seconds

/-- What opening the playlist fixes: the init segment, the segments, the demultiplexer
and the conversion of a position in milliseconds. -/
structure Stream (Seconds : Type) where
  map : Option Bytes
  segments : List (Resource Seconds)
  extractAdts : Bytes → Bytes
  ofMillis : Nat → Seconds

variable {Seconds : Type}

/-- `fetch_and_demux_into` once the body has arrived: MPEG-TS is demultiplexed, anything
else is taken as it is. -/
def demux (extractAdts : Bytes → Bytes) (raw : Bytes) : Except String Bytes :=
  if raw.head? = some 0x47 then
    if (extractAdts raw).isEmpty then .error "HLS: MPEG-TS demux produced no audio"
    else .ok (extractAdts raw)
  else .ok raw

/-- A fetch that fails before there is a body fails with the given error. -/
def Stream.fetchAndDemux (stream : Stream Seconds) (resource : Resource Seconds) :
    Option String → Except String Bytes
  | some error => .error error
  | none => demux stream.extractAdts resource.body

section Durations

variable [Zero Seconds] [Add Seconds] [LE Seconds] [DecidableLE Seconds] [LT Seconds]
  [DecidableLT Seconds]

def Stream.segmentDurations (stream : Stream Seconds) : List Seconds :=
  stream.segments.map fun resource => resource.duration.getD 0

def Stream.hasDurations (stream : Stream Seconds) : Bool :=
  stream.segmentDurations.any fun duration => decide (0 < duration)

/-- The segments that end at or before the target are skipped. -/
def skippedSegments (target : Seconds) : List Seconds → Seconds → Nat → Nat
  | [], _, index => index
  | duration :: rest, elapsed, index =>
    if elapsed + duration ≤ target then
      skippedSegments target rest (elapsed + duration) (index + 1)
    else index

def Stream.targetIndex (stream : Stream Seconds) (positionMs : Nat) : Nat :=
  let index := skippedSegments (stream.ofMillis positionMs) stream.segmentDurations 0 0
  if stream.segments.length ≤ index then stream.segments.length - 1 else index

end Durations

inductive PrefetchCommand where
  | continue
  | seek (target : Nat)
  | stop
  deriving DecidableEq, Repr

structure SharedState (Seconds : Type) where
  nextBuf : Bytes := []
  needData : Bool := true
  pending : List (Resource Seconds)
  currentSegmentIndex : Nat
  command : PrefetchCommand := .continue
  seekDone : Bool := false
  eos : Bool := false
  error : Option String := none

/-- A batch that is being fetched without the lock, up to `position`. -/
structure Batch (Seconds : Type) where
  seeking : Bool
  segIdx : Nat
  resources : List (Resource Seconds)
  position : Nat := 0
  tmpBuf : Bytes := []

inductive PrefetchPoint (Seconds : Type) where
  | top
  | fetching (batch : Batch Seconds)
  | fetched (batch : Batch Seconds) (fetchError : Option String)
  | exited

/-- Where the thread that owns the reader stands.  A seek has cleared the active buffer
(`aborting`), set the flag (`posting`), and waits for `seek_done`. -/
inductive ReaderPoint where
  | idle
  | reading (size : Nat)
  | aborting (target : Nat)
  | posting (target : Nat)
  | waiting (target : Nat)
  | dropping
  | dropped
  deriving DecidableEq, Repr

def ReaderPoint.target : ReaderPoint → Option Nat
  | .aborting target | .posting target | .waiting target => some target
  | .idle | .reading _ | .dropping | .dropped => none

/-- `start` is the segment of the last seek and `delivered` are the bytes read since;
`failedAt` is the segment whose fetch failed last. -/
structure HlsReader (Seconds : Type) where
  buf : Bytes
  pos : Nat := 0
  shared : SharedState Seconds
  abortFlag : Bool := false
  point : ReaderPoint := .idle
  prefetcher : PrefetchPoint Seconds := .top
  start : Nat := 0
  delivered : Bytes := []
  lastRead : Option (Except String Nat) := none
  lastSeek : Option (Except String Nat) := none
  failedAt : Option Nat := none

/-- The position of a seek, as `std::io::SeekFrom` has it. -/
inductive SeekFrom where
  | start (positionMs : Nat)
  | current (delta : Int)
  | fromEnd (delta : Int)
  deriving DecidableEq, Repr

namespace HlsReader

/-! ## The reader -/

/-- `HlsReader::new`: the init segment and the first segment are fetched at once. -/
def new (stream : Stream Seconds) (mapFailure firstFailure : Option String) :
    Except String (HlsReader Seconds) :=
  match stream.segments with
  | [] => .error "HLS playlist contained no segments"
  | first :: rest =>
    match (if stream.map.isSome then mapFailure else none) with
    | some error => .error error
    | none => do
        let bytes ← stream.fetchAndDemux first firstFailure
        pure
          { buf := stream.map.getD [] ++ bytes
            shared := { pending := rest, currentSegmentIndex := 1 } }

variable (reader : HlsReader Seconds)

def remaining : Bytes := reader.buf.drop reader.pos

def serve (size : Nat) : HlsReader Seconds :=
  let served := reader.remaining.take size
  { reader with
    pos := reader.pos + served.length
    point := .idle
    delivered := reader.delivered ++ served
    lastRead := some (.ok served.length) }

/-- Below the low-water mark the prefetcher is woken, if the lock is free. -/
def wakeEarly (locked : Bool) : HlsReader Seconds :=
  if reader.remaining.length ≤ lowWaterBytes ∧ locked = true ∧
      reader.shared.needData = false ∧ reader.shared.eos = false then
    { reader with shared := { reader.shared with needData := true } }
  else reader

def read (size : Nat) (locked : Bool) : HlsReader Seconds :=
  if size = 0 then { reader with lastRead := some (.ok 0) }
  else if reader.pos < reader.buf.length then (reader.wakeEarly locked).serve size
  else { reader with point := .reading size }

/-- The look-ahead buffer becomes the active one, and the prefetcher is woken. -/
def swap : HlsReader Seconds :=
  { reader with
    buf := reader.shared.nextBuf
    pos := 0
    shared := { reader.shared with nextBuf := [], needData := true } }

/-- One turn of the loop of `read`, with the lock. -/
def readLocked (size : Nat) : HlsReader Seconds :=
  if reader.shared.nextBuf ≠ [] then reader.swap.serve size
  else
    match reader.shared.error with
    | some error => { reader with point := .idle, lastRead := some (.error error) }
    | none =>
      if reader.shared.eos then { reader with point := .idle, lastRead := some (.ok 0) }
      else { reader with shared := { reader.shared with needData := true } }

section Durations

variable [Zero Seconds] [Add Seconds] [LE Seconds] [DecidableLE Seconds] [LT Seconds]
  [DecidableLT Seconds]

def seekToMs (stream : Stream Seconds) (positionMs : Nat) : HlsReader Seconds :=
  match reader.shared.error with
  | some error => { reader with lastSeek := some (.error error) }
  | none =>
    if stream.hasDurations then
      { reader with buf := [], pos := 0, point := .aborting (stream.targetIndex positionMs) }
    else
      { reader with
        lastSeek :=
          some (.error "HLS streams without segment durations are not seekable") }

def seek (stream : Stream Seconds) : SeekFrom → HlsReader Seconds
  | .start positionMs => reader.seekToMs stream positionMs
  | .current _ | .fromEnd _ =>
    { reader with
      lastSeek := some (.error "HLS seek only supports SeekFrom::Start (milliseconds)") }

end Durations

def raiseAbort (point : ReaderPoint) : HlsReader Seconds :=
  { reader with abortFlag := true, point }

def postSeek (target : Nat) : HlsReader Seconds :=
  { reader with
    shared := { reader.shared with command := .seek target, needData := true, seekDone := false }
    point := .waiting target }

def finishSeek (target : Nat) : HlsReader Seconds :=
  { reader.swap with
    shared := { reader.swap.shared with seekDone := false }
    abortFlag := false
    point := .idle
    start := target
    delivered := []
    lastRead := none
    lastSeek := some (.ok 0) }

def postStop : HlsReader Seconds :=
  { reader with
    shared := { reader.shared with command := .stop, needData := true }
    point := .dropped }

/-! ## The prefetcher -/

variable (stream : Stream Seconds) (batch : Batch Seconds)

/-- The look-ahead buffer restarts with the init segment, and one segment is fetched. -/
def beginSeek (target : Nat) : HlsReader Seconds :=
  let pending := stream.segments.drop target
  let count := if pending.isEmpty then 0 else 1
  { reader with
    shared :=
      { reader.shared with
        nextBuf := stream.map.getD []
        eos := false
        currentSegmentIndex := target
        pending := pending.drop count
        command := .continue }
    prefetcher :=
      .fetching { seeking := true, segIdx := target, resources := pending.take count } }

def beginBatch : HlsReader Seconds :=
  if reader.shared.pending.isEmpty then
    { reader with shared := { reader.shared with eos := true, needData := false } }
  else
    let count := min prefetchSegments reader.shared.pending.length
    { reader with
      shared := { reader.shared with pending := reader.shared.pending.drop count }
      prefetcher :=
        .fetching
          { seeking := false
            segIdx := reader.shared.currentSegmentIndex
            resources := reader.shared.pending.take count } }

/-- The section at the top of the loop, once the reader needs data. -/
def takeCommand : HlsReader Seconds :=
  match reader.shared.command with
  | .stop =>
    { reader with
      shared := { reader.shared with command := .continue }
      prefetcher := .exited }
  | .seek target => reader.beginSeek stream target
  | .continue => reader.beginBatch

/-- One turn of the loop over a batch.  The batch of a seek is not aborted. -/
def fetchNext (failure : Option String) : HlsReader Seconds :=
  match batch.resources[batch.position]? with
  | none => { reader with prefetcher := .fetched batch none }
  | some resource =>
    if batch.seeking = false ∧ reader.abortFlag = true then
      { reader with prefetcher := .fetched batch none }
    else
      match stream.fetchAndDemux resource failure with
      | .error error =>
        { reader with
          prefetcher := .fetched batch (some error)
          failedAt := some (batch.segIdx + batch.position) }
      | .ok bytes =>
        { reader with
          prefetcher :=
            .fetching
              { batch with
                position := batch.position + 1
                tmpBuf := batch.tmpBuf ++ bytes } }

def storeFailed (error : String) : HlsReader Seconds :=
  { reader with
    shared :=
      { reader.shared with
        nextBuf := reader.shared.nextBuf ++ batch.tmpBuf
        error := some error
        seekDone := batch.seeking || reader.shared.seekDone
        needData := false
        eos := true }
    prefetcher := .exited }

def storeFetched : HlsReader Seconds :=
  { reader with
    shared :=
      { reader.shared with
        nextBuf := reader.shared.nextBuf ++ batch.tmpBuf
        currentSegmentIndex :=
          (if batch.seeking then reader.shared.currentSegmentIndex else batch.segIdx) +
            batch.resources.length
        seekDone := batch.seeking || reader.shared.seekDone
        needData := false
        eos := reader.shared.pending.isEmpty }
    prefetcher := .top }

/-- A batch that was overtaken by a command is dropped, with its error. -/
def store (fetchError : Option String) : HlsReader Seconds :=
  if batch.seeking = false ∧ reader.shared.command ≠ .continue then
    { reader with prefetcher := .top }
  else
    match fetchError with
    | some error => reader.storeFailed batch error
    | none => reader.storeFetched batch

end HlsReader

inductive HlsAct where
  | read (size : Nat) (locked : Bool)
  | readLocked
  | seek (origin : SeekFrom)
  | raiseAbort
  | postSeek
  | finishSeek
  | drop
  | postStop
  | takeCommand
  | fetchNext (failure : Option String)
  | store
  deriving DecidableEq, Repr

section Durations

variable [Zero Seconds] [Add Seconds] [LE Seconds] [DecidableLE Seconds] [LT Seconds]
  [DecidableLT Seconds]

def HlsReader.step (stream : Stream Seconds) (reader : HlsReader Seconds) :
    HlsAct → Option (HlsReader Seconds)
  | .read size locked =>
    if reader.point = .idle then some (reader.read size locked) else none
  | .readLocked =>
    match reader.point with
    | .reading size => some (reader.readLocked size)
    | .idle | .aborting _ | .posting _ | .waiting _ | .dropping | .dropped => none
  | .seek origin => if reader.point = .idle then some (reader.seek stream origin) else none
  | .raiseAbort =>
    match reader.point with
    | .aborting target => some (reader.raiseAbort (.posting target))
    | .idle | .reading _ | .posting _ | .waiting _ | .dropping | .dropped => none
  | .postSeek =>
    match reader.point with
    | .posting target => some (reader.postSeek target)
    | .idle | .reading _ | .aborting _ | .waiting _ | .dropping | .dropped => none
  | .finishSeek =>
    match reader.point with
    | .waiting target =>
      if reader.shared.seekDone then some (reader.finishSeek target) else none
    | .idle | .reading _ | .aborting _ | .posting _ | .dropping | .dropped => none
  | .drop => if reader.point = .idle then some (reader.raiseAbort .dropping) else none
  | .postStop => if reader.point = .dropping then some reader.postStop else none
  | .takeCommand =>
    match reader.prefetcher with
    | .top => if reader.shared.needData then some (reader.takeCommand stream) else none
    | .fetching _ | .fetched _ _ | .exited => none
  | .fetchNext failure =>
    match reader.prefetcher with
    | .fetching batch => some (reader.fetchNext stream batch failure)
    | .top | .fetched _ _ | .exited => none
  | .store =>
    match reader.prefetcher with
    | .fetched batch fetchError => some (reader.store batch fetchError)
    | .top | .fetching _ | .exited => none

/-- Everything that a step can do, with the point of the party that takes it. -/
inductive HlsReader.Steps (stream : Stream Seconds) (reader : HlsReader Seconds) :
    HlsAct → HlsReader Seconds → Prop where
  | read (size : Nat) (locked : Bool) (idle : reader.point = .idle) :
      Steps stream reader (.read size locked) (reader.read size locked)
  | readLocked {size : Nat} (reading : reader.point = .reading size) :
      Steps stream reader .readLocked (reader.readLocked size)
  | seek (origin : SeekFrom) (idle : reader.point = .idle) :
      Steps stream reader (.seek origin) (reader.seek stream origin)
  | raiseAbort {target : Nat} (aborting : reader.point = .aborting target) :
      Steps stream reader .raiseAbort (reader.raiseAbort (.posting target))
  | postSeek {target : Nat} (posting : reader.point = .posting target) :
      Steps stream reader .postSeek (reader.postSeek target)
  | finishSeek {target : Nat} (waiting : reader.point = .waiting target)
      (done : reader.shared.seekDone = true) :
      Steps stream reader .finishSeek (reader.finishSeek target)
  | drop (idle : reader.point = .idle) :
      Steps stream reader .drop (reader.raiseAbort .dropping)
  | postStop (dropping : reader.point = .dropping) :
      Steps stream reader .postStop reader.postStop
  | takeCommand (top : reader.prefetcher = .top) (needed : reader.shared.needData = true) :
      Steps stream reader .takeCommand (reader.takeCommand stream)
  | fetchNext {batch : Batch Seconds} (failure : Option String)
      (fetching : reader.prefetcher = .fetching batch) :
      Steps stream reader (.fetchNext failure) (reader.fetchNext stream batch failure)
  | store {batch : Batch Seconds} {fetchError : Option String}
      (fetched : reader.prefetcher = .fetched batch fetchError) :
      Steps stream reader .store (reader.store batch fetchError)

theorem HlsReader.steps_of_step {stream : Stream Seconds} {reader next : HlsReader Seconds}
    {act : HlsAct} (stepped : reader.step stream act = some next) :
    reader.Steps stream act next := by
  cases act with
  | read size locked =>
    obtain ⟨idle, rfl⟩ := ite_some_none_eq_some.mp stepped
    exact .read size locked idle
  | readLocked =>
    simp only [HlsReader.step] at stepped
    split at stepped
    · next size reading =>
        cases stepped
        exact .readLocked reading
    all_goals cases stepped
  | seek origin =>
    obtain ⟨idle, rfl⟩ := ite_some_none_eq_some.mp stepped
    exact .seek origin idle
  | raiseAbort =>
    simp only [HlsReader.step] at stepped
    split at stepped
    · next target aborting =>
        cases stepped
        exact .raiseAbort aborting
    all_goals cases stepped
  | postSeek =>
    simp only [HlsReader.step] at stepped
    split at stepped
    · next target posting =>
        cases stepped
        exact .postSeek posting
    all_goals cases stepped
  | finishSeek =>
    simp only [HlsReader.step] at stepped
    split at stepped
    · next target waiting =>
        obtain ⟨done, rfl⟩ := ite_some_none_eq_some.mp stepped
        exact .finishSeek waiting done
    all_goals cases stepped
  | drop =>
    obtain ⟨idle, rfl⟩ := ite_some_none_eq_some.mp stepped
    exact .drop idle
  | postStop =>
    obtain ⟨dropping, rfl⟩ := ite_some_none_eq_some.mp stepped
    exact .postStop dropping
  | takeCommand =>
    simp only [HlsReader.step] at stepped
    split at stepped
    · next top =>
        obtain ⟨needed, rfl⟩ := ite_some_none_eq_some.mp stepped
        exact .takeCommand top needed
    all_goals cases stepped
  | fetchNext failure =>
    simp only [HlsReader.step] at stepped
    split at stepped
    · next batch fetching =>
        cases stepped
        exact .fetchNext failure fetching
    all_goals cases stepped
  | store =>
    simp only [HlsReader.step] at stepped
    split at stepped
    · next batch fetchError fetched =>
        cases stepped
        exact .store fetched
    all_goals cases stepped

def hlsSystem (stream : Stream Seconds) : System (HlsReader Seconds) HlsAct :=
  ⟨HlsReader.step stream⟩

end Durations

end KizunaLink.Hls
