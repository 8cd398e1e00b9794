import KizunaLink.Lib.System
import KizunaLink.Lib.Blocks

/-!
# The reader of Deezer tracks

Model of `DeezerReader` and `DeezerCrypt::decrypt_chunk` (sources/deezer/reader/mod.rs
and crypt.rs) above a source that holds the encrypted bytes.  A read is a loop; each
turn of it is one step, and how many bytes the source returns in a turn is part of the
act, as is a failure of the source.

`HttpSource::seek` to an offset from the start returns that offset, also behind the end
of the source.  No position passes the larger of the source's length and the last
target, so the sums of a `u64` are those of natural numbers.
-/

set_option autoImplicit false

namespace KizunaLink.Deezer

open KizunaLink.Lib

def chunkSize : Nat := 2048

/-- Blowfish in CBC mode under the key of a track.  The key has 16 bytes and the buffer is
a number of cipher blocks, so that decryption without padding does not fail. -/
structure DeezerCrypt where
  decrypt : List UInt8 → List UInt8
  length_decrypt : ∀ buffer, buffer.length = chunkSize → (decrypt buffer).length = chunkSize

/-- What a chunk adds to the ready bytes.  The buffer always has the size of a full chunk. -/
def DeezerCrypt.decryptChunk (crypt : DeezerCrypt) (chunkIndex : Nat) (chunk : List UInt8) :
    List UInt8 :=
  if chunkIndex % 3 = 0 then
    crypt.decrypt (chunk.take chunkSize ++ List.replicate (chunkSize - chunk.length) 0)
  else chunk

/-! ## The reader -/

inductive Whence where
  | start (offset : Nat)
  | current (offset : Int)
  | fromEnd (offset : Int)
  deriving DecidableEq, Repr

/-- What a call has returned; a read is remembered with the size of its buffer. -/
inductive Answer where
  | read (size : Nat) (bytes : List UInt8)
  | position (offset : Nat)
  | sourceError
  | unsupported
  deriving DecidableEq, Repr

/-- `reading` is the size of the buffer of a read that has not returned.  `start` is the target
of the last seek and `delivered` are the bytes returned since. -/
structure DeezerReader where
  pos : Nat := 0
  rawBuf : List UInt8 := []
  readyBuf : List UInt8 := []
  skipPending : Nat := 0
  sourcePos : Nat := 0
  reading : Option Nat := none
  answer : Option Answer := none
  start : Nat := 0
  delivered : List UInt8 := []
  deriving DecidableEq, Repr

namespace DeezerReader

variable (crypt : DeezerCrypt) (reader : DeezerReader)

def drainSkip : DeezerReader :=
  if 0 < reader.skipPending ∧ reader.readyBuf ≠ [] then
    let toSkip := min reader.skipPending reader.readyBuf.length
    { reader with
      readyBuf := reader.readyBuf.drop toSkip
      skipPending := reader.skipPending - toSkip }
  else reader

/-- The read returns with bytes that are ready. -/
def supply (size : Nat) : DeezerReader :=
  let count := min size reader.readyBuf.length
  { reader with
    readyBuf := reader.readyBuf.drop count
    reading := none
    answer := some (.read size (reader.readyBuf.take count))
    delivered := reader.delivered ++ reader.readyBuf.take count }

/-- What is left at the end of the source, though it may be less than a chunk. -/
def takeLeftovers : DeezerReader :=
  { reader with
    readyBuf := reader.readyBuf ++ crypt.decryptChunk (reader.pos / chunkSize) reader.rawBuf
    pos := reader.pos + reader.rawBuf.length
    rawBuf := [] }

def receive (data : List UInt8) (count : Nat) : DeezerReader :=
  { reader with
    rawBuf := reader.rawBuf ++ (data.drop reader.sourcePos).take count
    sourcePos := reader.sourcePos + count }

def takeChunk : DeezerReader :=
  { reader with
    readyBuf := reader.readyBuf ++
      crypt.decryptChunk (reader.pos / chunkSize) (reader.rawBuf.take chunkSize)
    pos := reader.pos + chunkSize
    rawBuf := reader.rawBuf.drop chunkSize }

/-- The loop over full chunks; it has at most as many turns as there are bytes. -/
def takeFullChunks : Nat → DeezerReader → DeezerReader
  | 0, reader => reader
  | turns + 1, reader =>
    if chunkSize ≤ reader.rawBuf.length then takeFullChunks turns (reader.takeChunk crypt)
    else reader

/-- A read of the source into a buffer of one chunk; nothing is read at its end only. -/
def SourceReads (data : List UInt8) (sourcePos count : Nat) : Prop :=
  count ≤ chunkSize ∧ count ≤ data.length - sourcePos ∧ (count = 0 → data.length ≤ sourcePos)

instance (data : List UInt8) (sourcePos count : Nat) :
    Decidable (SourceReads data sourcePos count) :=
  inferInstanceAs (Decidable (_ ∧ _ ∧ _))

/-- The read needs more data from the source. -/
def fetch (data : List UInt8) (size count : Nat) : DeezerReader :=
  if count = 0 then
    if reader.rawBuf = [] then { reader with reading := none, answer := some (.read size []) }
    else reader.takeLeftovers crypt
  else
    let received := reader.receive data count
    takeFullChunks crypt received.rawBuf.length received

def turn (data : List UInt8) (size count : Nat) : Option DeezerReader :=
  let skipped := reader.drainSkip
  if skipped.skipPending = 0 ∧ skipped.readyBuf ≠ [] then some (skipped.supply size)
  else if SourceReads data skipped.sourcePos count then some (skipped.fetch crypt data size count)
  else none

def failTurn : Option DeezerReader :=
  let skipped := reader.drainSkip
  if skipped.skipPending = 0 ∧ skipped.readyBuf ≠ [] then none
  else some { skipped with reading := none, answer := some .sourceError }

/-- The position that `seek(SeekFrom::Current(0))` reports. -/
def reported : Nat := reader.pos - (reader.readyBuf.length + reader.rawBuf.length)

/-- The source is now at `alignedPos`, in the chunk of the target. -/
def restart (alignedPos target : Nat) : DeezerReader :=
  { reader with
    pos := alignedPos
    rawBuf := []
    readyBuf := []
    skipPending := target - alignedPos
    sourcePos := alignedPos
    answer := some (.position target)
    start := target
    delivered := [] }

def seek : Whence → DeezerReader
  | .start target => reader.restart (target / chunkSize * chunkSize) target
  | .current offset =>
    if offset = 0 then { reader with answer := some (.position reader.reported) }
    else { reader with answer := some .unsupported }
  | .fromEnd _ => { reader with answer := some .unsupported }

end DeezerReader

inductive ReaderAct where
  | read (size : Nat)
  | turn (count : Nat)
  | failTurn
  | seek (whence : Whence)
  deriving DecidableEq, Repr

def DeezerReader.step (crypt : DeezerCrypt) (data : List UInt8) (reader : DeezerReader) :
    ReaderAct → Option DeezerReader
  | .read size =>
    if reader.reading = none then some { reader with reading := some size } else none
  | .turn count => reader.reading.bind fun size => reader.turn crypt data size count
  | .failTurn => reader.reading.bind fun _ => reader.failTurn
  | .seek whence => if reader.reading = none then some (reader.seek whence) else none

def readerSystem (crypt : DeezerCrypt) (data : List UInt8) : System DeezerReader ReaderAct :=
  ⟨DeezerReader.step crypt data⟩

end KizunaLink.Deezer
