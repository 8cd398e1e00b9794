import KizunaLink.Lib.Ring
import KizunaLink.Lib.Suffix

/-!
# The ring buffer

Model of `RingBuffer` (engine/buffer/ring.rs).  The copies are checked: a slice outside
the buffer or a copy between lengths that differ is an error, as it is a panic there.
The vectors come empty out of the pool and are resized, so a new buffer is all zeros.

The buffer is a byte queue: `Represents` says which queue it stands for, every call keeps
this and answers as the queue does.  The argument is about the window, the cells as they
are read around from the write offset: these are the last bytes that were written.
-/

set_option autoImplicit false

namespace KizunaLink.Engine

open KizunaLink.Lib List

structure RingBuffer where
  buf : List UInt8
  size : Nat
  writeOffset : Nat
  readOffset : Nat
  length : Nat
  deriving DecidableEq, Repr

namespace RingBuffer

def new (size : Nat) : RingBuffer :=
  { buf := List.replicate size 0, size, writeOffset := 0, readOffset := 0, length := 0 }

variable (ring : RingBuffer)

def len : Nat := ring.length

def isEmpty : Bool := ring.length == 0

def remaining : Nat := ring.size - ring.length

def write (chunk : List UInt8) : Checked RingBuffer :=
  if ring.size = 0 ∨ chunk = [] then pure ring
  else
    let toWrite := chunk.length
    if ring.size ≤ toWrite then do
      let buf ← overwrite ring.buf 0 ring.buf.length (← sliceFrom chunk (toWrite - ring.size))
      pure { ring with buf, readOffset := 0, writeOffset := 0, length := ring.size }
    else do
      let buf ← writeAround ring.size ring.buf ring.writeOffset chunk
      let newLen := ring.length + toWrite
      let writeOffset := (ring.writeOffset + toWrite) % ring.size
      if ring.size < newLen then
        let overwritten := newLen - ring.size
        let readOffset := (ring.readOffset + overwritten) % ring.size
        pure { ring with buf, writeOffset, readOffset, length := ring.size }
      else pure { ring with buf, writeOffset, length := newLen }

def copyTo (toCopy : Nat) : Checked (List UInt8) :=
  readAround ring.size ring.buf ring.readOffset toCopy

def peek (n : Nat) : Checked (Option (List UInt8)) :=
  let toRead := min n ring.length
  if toRead = 0 then pure none else return some (← ring.copyTo toRead)

def advance (count : Nat) : RingBuffer :=
  { ring with
    readOffset := (ring.readOffset + count) % ring.size
    length := ring.length - count }

def read (n : Nat) : Checked (RingBuffer × Option (List UInt8)) := do
  match ← ring.peek n with
  | none => pure (ring, none)
  | some toRead => pure (ring.advance toRead.length, some toRead)

def skip (n : Nat) : RingBuffer × Nat :=
  if ring.size = 0 ∨ n = 0 then (ring, 0)
  else
    let toSkip := min n ring.length
    (ring.advance toSkip, toSkip)

def clear : RingBuffer :=
  { ring with writeOffset := 0, readOffset := 0, length := 0 }

end RingBuffer

inductive RingCall where
  | write (chunk : List UInt8)
  | read (n : Nat)
  | peek (n : Nat)
  | skip (n : Nat)
  | clear
  deriving DecidableEq, Repr

inductive RingAnswer where
  | done
  | bytes (found : Option (List UInt8))
  | count (skipped : Nat)
  deriving DecidableEq, Repr

/-- The answer to a call and what `len`, `is_empty` and `remaining` report after it. -/
structure RingReport where
  answer : RingAnswer
  len : Nat
  isEmpty : Bool
  remaining : Nat
  deriving DecidableEq, Repr

namespace RingBuffer

def call (ring : RingBuffer) : RingCall → Checked (RingBuffer × RingAnswer)
  | .write chunk => return (← ring.write chunk, .done)
  | .read n => return (← ring.read n).map id .bytes
  | .peek n => return (ring, .bytes (← ring.peek n))
  | .skip n => return (ring.skip n).map id .count
  | .clear => return (ring.clear, .done)

def report (ring : RingBuffer) (answer : RingAnswer) : RingReport :=
  ⟨answer, ring.len, ring.isEmpty, ring.remaining⟩

def reports (ring : RingBuffer) : List RingCall → Checked (List RingReport)
  | [] => pure []
  | first :: rest => do
      let (after, answer) ← ring.call first
      return after.report answer :: (← after.reports rest)

end RingBuffer

/-- A queue of bytes that keeps the last `capacity` of them. -/
structure ByteQueue where
  capacity : Nat
  bytes : List UInt8
  deriving DecidableEq, Repr

namespace ByteQueue

def found (queue : ByteQueue) (n : Nat) : Option (List UInt8) :=
  if min n queue.bytes.length = 0 then none else some (queue.bytes.take n)

def call (queue : ByteQueue) : RingCall → ByteQueue × RingAnswer
  | .write chunk => ({ queue with bytes := (queue.bytes ++ chunk).rtake queue.capacity }, .done)
  | .read n => ({ queue with bytes := queue.bytes.drop n }, .bytes (queue.found n))
  | .peek n => (queue, .bytes (queue.found n))
  | .skip n => ({ queue with bytes := queue.bytes.drop n }, .count (min n queue.bytes.length))
  | .clear => ({ queue with bytes := [] }, .done)

def report (queue : ByteQueue) (answer : RingAnswer) : RingReport :=
  { answer
    len := queue.bytes.length
    isEmpty := queue.bytes.isEmpty
    remaining := queue.capacity - queue.bytes.length }

def reports (queue : ByteQueue) : List RingCall → List RingReport
  | [] => []
  | first :: rest =>
    let (after, answer) := queue.call first
    after.report answer :: after.reports rest

end ByteQueue

/-- The bytes of the queue stand in the buffer from the read offset on. -/
structure Represents (ring : RingBuffer) (queue : ByteQueue) : Prop where
  capacity : ring.size = queue.capacity
  full : ring.buf.length = ring.size
  length : ring.length = queue.bytes.length
  fits : ring.length ≤ ring.size
  inside : ring.readOffset ≤ ring.size
  writeOffset : ring.writeOffset = (ring.readOffset + ring.length) % ring.size
  bytes : (ring.buf.rotate ring.readOffset).take ring.length = queue.bytes

variable {ring after : RingBuffer} {queue : ByteQueue}

theorem mod_le_of_le {offset size : Nat} (inside : offset = 0 ∨ 0 < size) :
    offset % size ≤ size := by
  rcases inside with zero | positive
  · simp [zero]
  · exact (Nat.mod_lt _ positive).le

namespace Represents

theorem new (capacity : Nat) : Represents (RingBuffer.new capacity) ⟨capacity, []⟩ where
  capacity := rfl
  full := length_replicate
  length := rfl
  fits := Nat.zero_le _
  inside := Nat.zero_le _
  writeOffset := (Nat.zero_mod _).symm
  bytes := take_zero

section

variable (stands : Represents ring queue)
include stands

theorem report (answer : RingAnswer) : ring.report answer = queue.report answer := by
  have empty : (queue.bytes.length == 0) = queue.bytes.isEmpty := by
    cases queue.bytes <;> rfl
  simp only [RingBuffer.report, RingBuffer.len, RingBuffer.isEmpty, RingBuffer.remaining,
    ByteQueue.report, stands.length, stands.capacity, empty]

theorem advance {count : Nat} (short : count ≤ ring.length) :
    Represents (ring.advance count) { queue with bytes := queue.bytes.drop count } where
  capacity := stands.capacity
  full := stands.full
  length := by rw [length_drop, ← stands.length]; rfl
  fits := (Nat.sub_le _ _).trans stands.fits
  inside := by
    have fits := stands.fits
    have inside := stands.inside
    exact mod_le_of_le (by omega)
  writeOffset := by
    have total : ring.readOffset + ring.length =
        ring.readOffset + count + (ring.length - count) := by omega
    calc
      ring.writeOffset = (ring.readOffset + ring.length) % ring.size := stands.writeOffset
      _ = ((ring.readOffset + count) % ring.size + (ring.length - count)) % ring.size := by
        rw [total, Nat.mod_add_mod]
  bytes := by
    have fits := stands.fits
    have first : count ≤ (ring.buf.rotate ring.readOffset).length := by
      rw [length_rotate, stands.full]
      omega
    calc
      (ring.buf.rotate ((ring.readOffset + count) % ring.size)).take (ring.length - count)
      _ = ((ring.buf.rotate ring.readOffset).rotate count).take (ring.length - count) := by
        rw [rotate_rotate, ← stands.full, rotate_mod]
      _ = ((ring.buf.rotate ring.readOffset).drop count).take (ring.length - count) := by
        rw [rotate_eq_drop_append_take first, take_append_of_le_length]
        rw [length_drop, length_rotate, stands.full]
        omega
      _ = queue.bytes.drop count := by rw [← drop_take, stands.bytes]

theorem copyTo {count : Nat} (short : count ≤ ring.length) :
    ring.copyTo count = .ok (queue.bytes.take count) := by
  rw [RingBuffer.copyTo, readAround_ok stands.full stands.inside (short.trans stands.fits),
    ← stands.bytes, take_take, Nat.min_eq_left short]

theorem peek (n : Nat) : ring.peek n = .ok (queue.found n) := by
  rw [RingBuffer.peek, ByteQueue.found, stands.length]
  by_cases none : min n queue.bytes.length = 0
  · rw [if_pos none, if_pos none]
    rfl
  · have short : min n queue.bytes.length ≤ ring.length := by
      rw [stands.length]
      exact Nat.min_le_right _ _
    rw [if_neg none, if_neg none, stands.copyTo short, ok_bind, ← take_eq_take_min]
    rfl

theorem clear :
    Represents ring.clear { queue with bytes := [] } where
  capacity := stands.capacity
  full := stands.full
  length := rfl
  fits := Nat.zero_le _
  inside := Nat.zero_le _
  writeOffset := (Nat.zero_mod _).symm
  bytes := take_zero

theorem window :
    (ring.buf.rotate ring.writeOffset).drop (ring.size - ring.length) = queue.bytes := by
  have fits := stands.fits
  have short : ring.length ≤ (ring.buf.rotate ring.readOffset).length := by
    rw [length_rotate, stands.full]
    exact fits
  have before : ((ring.buf.rotate ring.readOffset).drop ring.length).length =
      ring.size - ring.length := by
    rw [length_drop, length_rotate, stands.full]
  rw [stands.writeOffset, ← stands.full, rotate_mod, ← rotate_rotate,
    rotate_eq_drop_append_take short, stands.full, List.drop_left' before, stands.bytes]

end

theorem of_window {bytes : List UInt8} (full : ring.buf.length = ring.size)
    (fits : ring.length ≤ ring.size) (inside : ring.readOffset ≤ ring.size)
    (writeOffset : ring.writeOffset = (ring.readOffset + ring.length) % ring.size)
    (window : (ring.buf.rotate ring.writeOffset).drop (ring.size - ring.length) = bytes) :
    Represents ring ⟨ring.size, bytes⟩ := by
  -- the buffer stands for some bytes, and these are the end of its window
  have length : ring.length = ((ring.buf.rotate ring.readOffset).take ring.length).length := by
    rw [length_take, length_rotate, full, Nat.min_eq_left fits]
  have stands : Represents ring
      ⟨ring.size, (ring.buf.rotate ring.readOffset).take ring.length⟩ :=
    ⟨rfl, full, length, fits, inside, writeOffset, rfl⟩
  have same : (ring.buf.rotate ring.readOffset).take ring.length = bytes :=
    stands.window.symm.trans window
  rwa [same] at stands

section

variable (stands : Represents ring queue)
include stands

theorem rtake_window {chunk : List UInt8} :
    (queue.bytes ++ chunk).rtake ring.size =
      (ring.buf.rotate ring.writeOffset ++ chunk).drop
        (chunk.length + (ring.size - min ring.size (ring.length + chunk.length))) := by
  have fits := stands.fits
  have short : ring.size - ring.length ≤ (ring.buf.rotate ring.writeOffset).length := by
    rw [length_rotate, stands.full]
    exact Nat.sub_le _ _
  have appended : queue.bytes ++ chunk =
      (ring.buf.rotate ring.writeOffset ++ chunk).drop (ring.size - ring.length) := by
    rw [drop_append_of_le_length short, stands.window]
  rw [List.rtake, length_append, ← stands.length, appended, drop_drop]
  congr 1
  omega

theorem write_large {chunk : List UInt8}
    (positive : ring.size ≠ 0) (large : ring.size ≤ chunk.length) :
    ∃ after, ring.write chunk = .ok after ∧
      Represents after { queue with bytes := (queue.bytes ++ chunk).rtake queue.capacity } := by
  have some : chunk ≠ [] := ne_nil_of_length_pos (by omega)
  have taken : (chunk.drop (chunk.length - ring.size)).length = ring.size := by
    rw [length_drop]
    omega
  have last : (queue.bytes ++ chunk).rtake queue.capacity =
      chunk.drop (chunk.length - ring.size) := by
    have front : (queue.bytes ++ chunk).length - ring.size =
        queue.bytes.length + (chunk.length - ring.size) := by
      rw [length_append]
      omega
    rw [← stands.capacity, List.rtake, front, drop_append]
    simp
  have copied : overwrite ring.buf 0 ring.buf.length (chunk.drop (chunk.length - ring.size)) =
      .ok (chunk.drop (chunk.length - ring.size)) := by
    rw [overwrite_ok (by rw [taken, stands.full, Nat.zero_add]) (Nat.le_refl _), take_zero,
      List.drop_length, nil_append, append_nil]
  refine ⟨{ ring with
    buf := chunk.drop (chunk.length - ring.size), readOffset := 0, writeOffset := 0,
    length := ring.size }, ?_, ?_⟩
  · rw [RingBuffer.write, if_neg (by simp [positive, some]), if_pos large,
      sliceFrom_ok (Nat.sub_le _ _), ok_bind, copied]
    rfl
  · rw [last]
    refine ⟨stands.capacity, taken, taken.symm, Nat.le_refl _, Nat.zero_le _, ?_, ?_⟩
    · simp
    · rw [rotate_zero, take_of_length_le taken.le]

/-- A shorter chunk goes behind the bytes that are there, and over the oldest of them if it
does not fit. -/
theorem write_small {chunk : List UInt8} (some : chunk ≠ []) (small : chunk.length < ring.size) :
    ∃ after, ring.write chunk = .ok after ∧
      Represents after { queue with bytes := (queue.bytes ++ chunk).rtake queue.capacity } := by
  have positive : 0 < ring.size := (Nat.zero_le _).trans_lt small
  have fits := stands.fits
  have inside : ring.writeOffset ≤ ring.size := by
    rw [stands.writeOffset]
    exact mod_le_of_le (.inr positive)
  obtain ⟨buf, written, full, turned⟩ := writeAround_ok stands.full inside small.le
  have moved : buf.rotate ((ring.writeOffset + chunk.length) % ring.size) =
      (ring.buf.rotate ring.writeOffset ++ chunk).drop chunk.length := by
    rw [← full, rotate_mod]
    exact rotate_written (full.trans stands.full.symm) turned
  have offset : (ring.writeOffset + chunk.length) % ring.size =
      (ring.readOffset + ring.length + chunk.length) % ring.size := by
    rw [stands.writeOffset, Nat.mod_add_mod]
  rw [RingBuffer.write, if_neg (by simp [positive.ne', some]), if_neg (by omega), written, ok_bind,
    ← stands.capacity, stands.rtake_window]
  by_cases over_full : ring.size < ring.length + chunk.length
  · rw [if_pos over_full]
    refine ⟨_, rfl, of_window full (Nat.le_refl _) (mod_le_of_le (.inr positive)) ?_ ?_⟩
    · have around : ring.readOffset + ring.length + chunk.length =
          ring.readOffset + (ring.length + chunk.length - ring.size) + ring.size := by omega
      calc
        (ring.writeOffset + chunk.length) % ring.size
        _ = (ring.readOffset + (ring.length + chunk.length - ring.size) + ring.size) %
            ring.size := by rw [offset, around]
        _ = ((ring.readOffset + (ring.length + chunk.length - ring.size)) % ring.size +
            ring.size) % ring.size := by rw [Nat.mod_add_mod]
    · rw [Nat.min_eq_left over_full.le, Nat.sub_self, Nat.add_zero, ← moved]
      rfl
  · have room : ring.length + chunk.length ≤ ring.size := Nat.le_of_not_lt over_full
    rw [if_neg over_full]
    refine ⟨_, rfl, of_window full room stands.inside ?_ ?_⟩
    · rw [← Nat.add_assoc]
      exact offset
    · rw [Nat.min_eq_right room, ← drop_drop, ← moved]

theorem write (chunk : List UInt8) :
    ∃ after, ring.write chunk = .ok after ∧
      Represents after { queue with bytes := (queue.bytes ++ chunk).rtake queue.capacity } := by
  by_cases nothing : ring.size = 0 ∨ chunk = []
  · have fits := stands.fits
    have kept : (queue.bytes ++ chunk).rtake queue.capacity = queue.bytes := by
      rw [← stands.capacity]
      rcases nothing with zero | rfl
      · have empty : queue.bytes = [] := by
          rw [← length_eq_zero_iff, ← stands.length]
          omega
        rw [zero, empty, rtake_zero]
      · rw [append_nil, List.rtake, ← stands.length, Nat.sub_eq_zero_of_le fits, drop_zero]
    rw [RingBuffer.write, if_pos nothing, kept]
    exact ⟨ring, rfl, stands⟩
  · obtain ⟨positive, some⟩ := not_or.mp nothing
    by_cases large : ring.size ≤ chunk.length
    · exact stands.write_large positive large
    · exact stands.write_small some (Nat.lt_of_not_le large)

theorem read (n : Nat) :
    ∃ after, ring.read n = .ok (after, queue.found n) ∧
      Represents after { queue with bytes := queue.bytes.drop n } := by
  rw [RingBuffer.read, stands.peek n, ok_bind, ByteQueue.found]
  by_cases none : min n queue.bytes.length = 0
  · rw [if_pos none, drop_eq_drop_min, none, drop_zero]
    exact ⟨ring, rfl, stands⟩
  · have dropped : queue.bytes.drop (queue.bytes.take n).length = queue.bytes.drop n := by
      rw [length_take, ← drop_eq_drop_min]
    have short : (queue.bytes.take n).length ≤ ring.length := by
      rw [stands.length]
      exact List.length_take_le' _ _
    rw [if_neg none, ← dropped]
    exact ⟨_, rfl, stands.advance short⟩

theorem skip (n : Nat) :
    (ring.skip n).2 = min n queue.bytes.length ∧
      Represents (ring.skip n).1 { queue with bytes := queue.bytes.drop n } := by
  have fits := stands.fits
  have length := stands.length
  rw [RingBuffer.skip]
  by_cases nothing : ring.size = 0 ∨ n = 0
  · have none : min n queue.bytes.length = 0 := by omega
    rw [if_pos nothing, drop_eq_drop_min, none, drop_zero]
    exact ⟨rfl, stands⟩
  · rw [if_neg nothing, drop_eq_drop_min, ← length]
    exact ⟨rfl, stands.advance (Nat.min_le_right _ _)⟩

theorem call (call : RingCall) :
    ∃ after, ring.call call = .ok (after, (queue.call call).2) ∧
      Represents after (queue.call call).1 := by
  cases call with
  | write chunk =>
    obtain ⟨after, written, follows⟩ := stands.write chunk
    exact ⟨after, by rw [RingBuffer.call, written]; rfl, follows⟩
  | read n =>
    obtain ⟨after, taken, follows⟩ := stands.read n
    exact ⟨after, by rw [RingBuffer.call, taken]; rfl, follows⟩
  | peek n => exact ⟨ring, by rw [RingBuffer.call, stands.peek n]; rfl, stands⟩
  | skip n =>
    obtain ⟨skipped, follows⟩ := stands.skip n
    exact ⟨(ring.skip n).1, by rw [RingBuffer.call, ByteQueue.call, ← skipped]; rfl, follows⟩
  | clear => exact ⟨ring.clear, rfl, stands.clear⟩

theorem reports (calls : List RingCall) : ring.reports calls = .ok (queue.reports calls) := by
  induction calls generalizing ring queue with
  | nil => rfl
  | cons first rest ih =>
    obtain ⟨after, answered, follows⟩ := stands.call first
    rw [RingBuffer.reports, answered, ok_bind]
    dsimp only
    rw [ih follows, ok_bind, follows.report]
    rfl

end

end Represents

/-- The ring buffer is the byte queue: every call of every sequence returns, with the answer
and the lengths of the queue. -/
theorem ringBuffer_reports (capacity : Nat) (calls : List RingCall) :
    (RingBuffer.new capacity).reports calls = .ok (ByteQueue.reports ⟨capacity, []⟩ calls) :=
  (Represents.new capacity).reports calls

end KizunaLink.Engine
