import KizunaLink.Source.FetchStream
import Mathlib.Logic.Function.Basic

/-!
# The segmented source and its workers

Model of engine/source/segmented.rs.  The resource is cut into chunks that any
number of workers claim, fetch and store in a map behind one lock, while the
reader reads, seeks and evicts.  The steps are the sections that hold the lock;
a fetch that ends and the section that stores its result are one step, since
nothing the fetch returns depends on the map.

`usize` has 64 bits, and its products wrap as they do in a release build.
-/

set_option autoImplicit false

namespace KizunaLink.Source

open KizunaLink.Lib

def chunkSize : Nat := 256 * 1024

def prefetchChunks : Nat := 4

/-- The product `idx * CHUNK_SIZE` as the machine computes it. -/
def chunkOffset (idx : Nat) : Nat := idx * chunkSize % 2 ^ 64

/-- The body's chunks up to its end; a failure of the transport ends it too. -/
def collectBody (size : Nat) (out : Bytes) : List (Except String Bytes) → Except String Bytes
  | [] =>
    if out.length ≠ size then
      .error ("fetch_chunk: truncated body (" ++ toString out.length ++ " of " ++
        toString size ++ " bytes)")
    else .ok out
  | .error failure :: _ => .error failure
  | .ok chunk :: rest =>
    if size < out.length + chunk.length then
      .error ("fetch_chunk: body exceeded requested " ++ toString size ++ " bytes")
    else collectBody size (out ++ chunk) rest

structure ChunkAnswer where
  response : Response
  body : List (Except String Bytes)

variable (canonicalReason : Nat → Option String)

def SegmentedSource.fetchChunk (offset size : Nat) (answer : Except String ChunkAnswer) :
    Except String Bytes := do
  let answer ← answer
  let response := answer.response
  if response.status = 200 then
    .error ("fetch_chunk: server ignored Range request (200 OK) for offset " ++
      toString offset)
  if response.status ≠ 206 then
    .error ("fetch_chunk: HTTP " ++ statusText canonicalReason response.status)
  let _ ← validateContentRange response offset (some size)
  if response.contentLength.any (size < ·) then
    .error ("fetch_chunk: body " ++ toString (response.contentLength.getD 0) ++
      " exceeds requested " ++ toString size)
  collectBody size [] answer.body

inductive ChunkState where
  | empty (retries : Nat)
  | downloading
  | ready (bytes : Bytes)
  deriving DecidableEq, Repr

structure ReaderState where
  chunks : Nat → Option ChunkState
  currentPos : Nat := 0
  totalLen : Nat
  isTerminated : Bool := false
  fatalError : Option String := none

namespace ReaderState

variable (state : ReaderState)

def insert (idx : Nat) (chunk : ChunkState) : ReaderState :=
  { state with chunks := Function.update state.chunks idx (some chunk) }

def tryClaimChunk (idx : Nat) : Option (Nat × Nat) :=
  if state.totalLen ≤ chunkOffset idx then none
  else
    match state.chunks idx with
    | some (.empty retries) => some (idx, retries)
    | none => some (idx, 0)
    | some .downloading | some (.ready _) => none

/-- The look-ahead stops at the first chunk behind the end. -/
def claimAhead (currentChunk : Nat) : List Nat → Option (Nat × Nat)
  | [] => none
  | ahead :: rest =>
    if state.totalLen ≤ chunkOffset (currentChunk + ahead) then none
    else
      match state.tryClaimChunk (currentChunk + ahead) with
      | some claimed => some claimed
      | none => claimAhead currentChunk rest

def cursorReady (idx : Nat) : Bool :=
  match state.chunks idx with
  | some (.ready _) => true
  | some (.empty _) | some .downloading | none => false

/-- The chunk a worker takes next, with its retries so far. -/
def claim : Option (Nat × Nat) :=
  let currentChunk := state.currentPos / chunkSize
  match state.tryClaimChunk currentChunk with
  | some claimed => some claimed
  | none =>
    let window := if state.cursorReady currentChunk then prefetchChunks else 2
    state.claimAhead currentChunk (List.range' 1 (window - 1))

def requeueOrFatal (idx priorRetries : Nat) (problem : String) : ReaderState :=
  if maxFetchRetries ≤ priorRetries then
    { state with
      fatalError := some ("Chunk " ++ toString idx ++ ": permanently failed after " ++
        toString priorRetries ++ " retries: " ++ problem) }
  else state.insert idx (.empty (priorRetries + 1))

/-- Chunks before the one behind the reader are evicted. -/
def retainFrom (idx : Nat) : ReaderState :=
  if 1 < idx then
    { state with chunks := fun other => if idx - 1 ≤ other then state.chunks other else none }
  else state

end ReaderState

/-! ## The workers and the reader -/

/-- A worker looks for work, waits for the chunk it requested, or has ended. -/
inductive Worker where
  | seeking
  | fetching (idx priorRetries offset size : Nat)
  | ended
  deriving DecidableEq, Repr

/-- `reading` is the room in the buffer of a `read` that has entered its loop; `delivered`
records each successful read with the position at its call, `readFrom`, and its room. -/
structure SegmentedSource where
  pos : Nat := 0
  len : Nat
  isOpen : Bool := true
  reading : Option Nat := none
  readFrom : Nat := 0
  shared : ReaderState
  workers : Nat → Worker := fun _ => .seeking
  delivered : List (Nat × Nat × Bytes) := []

namespace SegmentedSource

variable (source : SegmentedSource)

def setPos (pos : Nat) : SegmentedSource :=
  { source with pos, shared := { source.shared with currentPos := pos } }

def answer (room : Nat) (bytes : Bytes) : SegmentedSource :=
  { source with
    reading := none
    delivered := source.delivered ++ [(source.readFrom, room, bytes)] }

/-- Only the first look at the position compares it with the length. -/
def beginRead (room : Nat) : SegmentedSource :=
  let called := { source with readFrom := source.pos }
  if source.len ≤ source.pos then called.answer room []
  else { called.setPos source.pos with reading := some room }

def readTurn (room : Nat) : SegmentedSource :=
  let idx := source.pos / chunkSize
  let offset := source.pos % chunkSize
  if source.shared.fatalError.isSome then { source with reading := none }
  else
    match source.shared.chunks idx with
    | some (.ready bytes) =>
      let available := bytes.length - offset
      if available = 0 then source.setPos (chunkOffset (idx + 1))
      else
        let count := min room available
        let served :=
          (source.answer room ((bytes.drop offset).take count)).setPos (source.pos + count)
        { served with shared := served.shared.retainFrom idx }
    | some .downloading | some (.empty _) => source
    | none => { source with shared := source.shared.insert idx (.empty 0) }

def seek (origin : SeekFrom) : SegmentedSource :=
  let target :=
    match origin with
    | .start offset => offset
    | .current delta => saturatingAddSigned source.pos delta
    | .fromEnd delta => saturatingAddSigned source.len delta
  source.setPos (min target source.len)

def setWorker (worker : Nat) (point : Worker) : SegmentedSource :=
  { source with workers := Function.update source.workers worker point }

/-- The section at the top of `fetch_worker`; with nothing to claim it sleeps. -/
def workerClaims (worker : Nat) : SegmentedSource :=
  if source.shared.isTerminated then source.setWorker worker .ended
  else
    match source.shared.claim with
    | none => source
    | some (idx, retries) =>
      let offset := chunkOffset idx
      let size := min chunkSize (source.shared.totalLen - offset)
      { source with shared := source.shared.insert idx .downloading }.setWorker worker
        (.fetching idx retries offset size)

def workerStores (worker idx priorRetries size : Nat) (result : Except String Bytes) :
    SegmentedSource :=
  let shared :=
    match result with
    | .ok bytes =>
      if bytes.length ≠ size then
        source.shared.requeueOrFatal idx priorRetries
          ("partial fetch: " ++ toString bytes.length ++ "/" ++ toString size ++ " bytes")
      else source.shared.insert idx (.ready bytes)
    | .error problem => source.shared.requeueOrFatal idx priorRetries problem
  { source with shared }.setWorker worker .seeking

end SegmentedSource

inductive SegmentedAct where
  | read (room : Nat)
  | turn
  | seek (origin : SeekFrom)
  | drop
  | claim (worker : Nat)
  | answered (worker : Nat) (answer : Except String ChunkAnswer)
  | abort (worker : Nat)

def SegmentedSource.step (source : SegmentedSource) :
    SegmentedAct → Option SegmentedSource
  | .read room =>
    if source.isOpen ∧ source.reading = none then some (source.beginRead room) else none
  | .turn => source.reading.map source.readTurn
  | .seek origin =>
    if source.isOpen ∧ source.reading = none then some (source.seek origin) else none
  | .drop =>
    if source.isOpen ∧ source.reading = none then
      some { source with
        isOpen := false, shared := { source.shared with isTerminated := true } }
    else none
  | .claim worker =>
    if source.workers worker = .seeking then some (source.workerClaims worker) else none
  | .answered worker answer =>
    match source.workers worker with
    | .fetching idx priorRetries offset size =>
      some (source.workerStores worker idx priorRetries size
        (fetchChunk canonicalReason offset size answer))
    | .seeking | .ended => none
  | .abort worker => if source.isOpen then none else some (source.setWorker worker .ended)

def segmentedSystem : System SegmentedSource SegmentedAct :=
  ⟨SegmentedSource.step canonicalReason⟩

/-- A source as `SegmentedSource::new` leaves it when the probe reported `len`. -/
def SegmentedSource.new (len : Nat) : SegmentedSource :=
  { len
    shared := { chunks := Function.update (fun _ => none) 0 (some (.empty 0)), totalLen := len } }

end KizunaLink.Source
