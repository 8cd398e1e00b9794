import KizunaLink.Lib.System
import Mathlib.Algebra.Order.BigOperators.Group.Finset

/-!
# The buffer pool

Model of `BufferPool` (engine/buffer/pool.rs) for elements of any size.  Every call holds
the lock of the pool, so a history is a list of calls.  The times that `Instant::now`
returns and what the allocator gives beyond a request are part of a call.  Products and
sums are those of `usize` in a release build.

A vector is filed under its capacity rounded up, and a request is rounded up to the same
keys.  The vectors that are handed out are large enough as long as every vector that is
kept has the capacity of its key.  The bytes that are counted are those of the keys.
-/

set_option autoImplicit false

namespace KizunaLink.Engine

open KizunaLink.Lib List Function

universe u

variable {Item : Type u}

structure Vec (Item : Type u) where
  items : List Item
  capacity : Nat
  fits : items.length ≤ capacity
  deriving DecidableEq, Repr

namespace Vec

def withCapacity (capacity : Nat) : Vec Item := ⟨[], capacity, Nat.zero_le _⟩

def clear (vector : Vec Item) : Vec Item := withCapacity vector.capacity

/-- Down to the bound, but not below what the vector holds. -/
def shrinkTo (vector : Vec Item) (bound : Nat) : Vec Item where
  items := vector.items
  capacity := min vector.capacity (max vector.items.length bound)
  fits := Nat.le_min.mpr ⟨vector.fits, Nat.le_max_left _ _⟩

end Vec

/-- `next_power_of_two` before it is cut to 64 bits. -/
def nextPowerOfTwo (size : Nat) : Nat := if size ≤ 1 then 1 else 2 ^ (Nat.log2 (size - 1) + 1)

theorem le_nextPowerOfTwo (size : Nat) : size ≤ nextPowerOfTwo size := by
  rw [nextPowerOfTwo]
  split
  · assumption
  · have below : size - 1 < 2 ^ (Nat.log2 (size - 1) + 1) := Nat.lt_log2_self
    omega

theorem nextPowerOfTwo_le {size power : Nat} (within : size ≤ 2 ^ power) :
    nextPowerOfTwo size ≤ 2 ^ power := by
  rw [nextPowerOfTwo]
  split
  · exact Nat.one_le_two_pow
  · have below : Nat.log2 (size - 1) < power := (Nat.log2_lt (by omega)).mpr (by omega)
    exact Nat.pow_le_pow_right (by decide) below

theorem nextPowerOfTwo_le_double {size : Nat} (positive : 0 < size) :
    nextPowerOfTwo size ≤ 2 * size := by
  rw [nextPowerOfTwo]
  split
  · omega
  · have below : 2 ^ Nat.log2 (size - 1) ≤ size - 1 := Nat.log2_self_le (by omega)
    rw [Nat.pow_succ]
    omega

section Pool

variable (itemSize : Nat)

/-- `1024usize.div_ceil(size_of::<T>())`. -/
def minimumCapacity : Nat := (1024 + itemSize - 1) / itemSize

/-- Above 2^63 the power wraps to 0. -/
def alignedSize (size : Nat) : Nat := nextPowerOfTwo (max size (minimumCapacity itemSize)) % 2 ^ 64

theorem minimumCapacity_le : minimumCapacity itemSize ≤ 1024 := by
  rw [minimumCapacity]
  rcases Nat.eq_zero_or_pos itemSize with rfl | positive
  · decide
  · exact Nat.div_le_of_le_mul (by omega)

theorem le_alignedSize {size : Nat} (within : size ≤ 2 ^ 63) :
    size ≤ alignedSize itemSize size := by
  have minimum : minimumCapacity itemSize ≤ 2 ^ 63 :=
    (minimumCapacity_le itemSize).trans (by decide)
  have power := nextPowerOfTwo_le (Nat.max_le.mpr ⟨within, minimum⟩)
  have small : nextPowerOfTwo (max size (minimumCapacity itemSize)) < 2 ^ 64 :=
    power.trans_lt (by decide)
  rw [alignedSize, Nat.mod_eq_of_lt small]
  exact (Nat.le_max_left _ _).trans (le_nextPowerOfTwo _)

def maxPoolBytes : Nat := 2 * 1024 * 1024

def maxBucketEntries : Nat := 8

def nanosPerSecond : Nat := 1000000000

def poolIdleClearSecs : Nat := 180

structure BufferPool (Item : Type u) where
  buckets : Nat → List (Vec Item) := fun _ => []
  totalBytes : Nat := 0
  lastActivity : Nat
  lastCleanup : Nat

namespace BufferPool

def new (now : Nat) : BufferPool Item := { lastActivity := now, lastCleanup := now }

variable (pool : BufferPool Item)

def cleanup (now : Nat) : BufferPool Item :=
  if pool.totalBytes = 0 ∨ now - pool.lastCleanup < 30 * nanosPerSecond then pool
  else
    let isIdle := poolIdleClearSecs * nanosPerSecond ≤ now - pool.lastActivity
    let isOverLimit := maxPoolBytes < pool.totalBytes
    if isIdle ∨ isOverLimit then
      { pool with buckets := fun _ => [], totalBytes := 0, lastCleanup := now }
    else { pool with lastCleanup := now }

/-- `acquire` with the lock.  A new vector has `spare` elements of room beyond the request;
there is none if its bytes were more than `isize::MAX` (a panic). -/
def acquireInner (now size spare : Nat) : BufferPool Item × Option (Vec Item) :=
  let pool := { pool with lastActivity := now }
  let aligned := alignedSize itemSize size
  match (pool.buckets aligned).getLast? with
  | some buf =>
    let freed := aligned * itemSize % 2 ^ 64
    ({ pool with
        buckets := Function.update pool.buckets aligned (pool.buckets aligned).dropLast
        totalBytes := (pool.totalBytes + (2 ^ 64 - freed)) % 2 ^ 64 }, some buf)
  | none =>
    if aligned * itemSize < 2 ^ 63 then (pool, some (.withCapacity (aligned + spare)))
    else (pool, none)

def acquire (now size spare : Nat) : BufferPool Item × Option (Vec Item) :=
  (pool.cleanup now).acquireInner itemSize now size spare

/-- The three tests of `release`. -/
def keeps (buf : Vec Item) : Bool :=
  let key := alignedSize itemSize buf.capacity
  let byteSize := key * itemSize % 2 ^ 64
  decide (1024 ≤ byteSize ∧ byteSize ≤ 10 * 1024 * 1024) &&
    decide ((pool.totalBytes + byteSize) % 2 ^ 64 ≤ maxPoolBytes) &&
    decide ((pool.buckets key).length < maxBucketEntries)

def release (now : Nat) (buf : Vec Item) : BufferPool Item :=
  let kept := pool.keeps itemSize buf
  let pool := { pool with lastActivity := now }
  if kept then
    let key := alignedSize itemSize buf.capacity
    let buf := buf.clear
    let buf := if key < buf.capacity then buf.shrinkTo key else buf
    { pool with
      totalBytes := (pool.totalBytes + key * itemSize % 2 ^ 64) % 2 ^ 64
      buckets := Function.update pool.buckets key (pool.buckets key ++ [buf]) }
  else pool

end BufferPool

/-! ## Histories -/

inductive PoolCall (Item : Type u) where
  | acquire (now size spare : Nat)
  | release (now : Nat) (buf : Vec Item)

def poolSystem : System (BufferPool Item) (PoolCall Item) where
  step pool
    | .acquire now size spare => some (pool.acquire itemSize now size spare).1
    | .release now buf => some (pool.release itemSize now buf)

/-- A vector that the pool keeps has the capacity of its key. -/
def KeepsAligned (pool : BufferPool Item) : PoolCall Item → Prop
  | .acquire _ _ _ => True
  | .release _ buf =>
    pool.keeps itemSize buf → alignedSize itemSize buf.capacity = buf.capacity

instance decidableKeepsAligned (pool : BufferPool Item) (call : PoolCall Item) :
    Decidable (KeepsAligned itemSize pool call) :=
  match call with
  | .acquire _ _ _ => inferInstanceAs (Decidable True)
  | .release _ buf =>
    inferInstanceAs (Decidable (_ → alignedSize itemSize buf.capacity = buf.capacity))

namespace BufferPool

variable {itemSize : Nat} {pool : BufferPool Item}

def Sufficient (pool : BufferPool Item) : Prop :=
  ∀ key, ∀ buf ∈ pool.buckets key, buf.items = [] ∧ key ≤ buf.capacity

theorem sufficient_new (now : Nat) : (new now : BufferPool Item).Sufficient := by
  intro key buf pooled
  cases pooled

section

variable (sufficient : pool.Sufficient)
include sufficient

theorem Sufficient.update {key : Nat} {bucket : List (Vec Item)}
    (replaced : ∀ buf ∈ bucket, buf.items = [] ∧ key ≤ buf.capacity) (totalBytes now : Nat) :
    Sufficient { pool with
      buckets := Function.update pool.buckets key bucket, totalBytes, lastActivity := now } := by
  intro other buf pooled
  dsimp only at pooled
  by_cases same : other = key
  · subst same
    rw [update_self] at pooled
    exact replaced buf pooled
  · rw [update_of_ne same] at pooled
    exact sufficient other buf pooled

theorem Sufficient.cleanup (now : Nat) : (pool.cleanup now).Sufficient := by
  rw [BufferPool.cleanup]
  split
  · exact sufficient
  · dsimp only
    split
    · intro key buf pooled
      cases pooled
    · exact sufficient

theorem Sufficient.acquire (now size spare : Nat) :
    (pool.acquire itemSize now size spare).1.Sufficient := by
  have cleaned := sufficient.cleanup now
  rw [BufferPool.acquire, acquireInner]
  dsimp only
  split
  · apply cleaned.update
    intro buf remains
    exact cleaned _ buf (dropLast_subset _ remains)
  · split
    · exact cleaned
    · exact cleaned

theorem Sufficient.release (now : Nat) {buf : Vec Item}
    (aligned : pool.keeps itemSize buf → alignedSize itemSize buf.capacity = buf.capacity) :
    (pool.release itemSize now buf).Sufficient := by
  rw [BufferPool.release]
  by_cases kept : pool.keeps itemSize buf = true
  · have exactly : ¬ alignedSize itemSize buf.capacity < buf.clear.capacity := by
      rw [aligned kept]
      exact Nat.lt_irrefl _
    simp only [kept, if_true, if_neg exactly]
    apply sufficient.update
    intro other pooled
    rcases mem_append.mp pooled with before | added
    · exact sufficient _ other before
    · rw [mem_singleton.mp added]
      exact ⟨rfl, (aligned kept).le⟩
  · simp only [kept]
    exact sufficient

theorem Sufficient.step {call : PoolCall Item}
    (aligned : KeepsAligned itemSize pool call) {next : BufferPool Item}
    (stepped : (poolSystem itemSize).step pool call = some next) : next.Sufficient := by
  cases call with
  | acquire now size spare =>
    cases stepped
    exact sufficient.acquire now size spare
  | release now buf =>
    cases stepped
    exact sufficient.release now aligned

/-- From a pool whose vectors have room for their keys. -/
theorem Sufficient.acquired {size : Nat} (within : size ≤ 2 ^ 63)
    (allocatable : alignedSize itemSize size * itemSize < 2 ^ 63) (now spare : Nat) :
    ∃ buf, (pool.acquire itemSize now size spare).2 = some buf ∧ buf.items = [] ∧
      size ≤ buf.capacity := by
  have large := le_alignedSize itemSize within
  have cleaned := sufficient.cleanup now
  rw [BufferPool.acquire, acquireInner]
  dsimp only
  split
  · rename_i buf last
    obtain ⟨empty, room⟩ := cleaned _ buf (List.mem_of_getLast? last)
    exact ⟨buf, rfl, empty, large.trans room⟩
  · rw [if_pos allocatable]
    exact ⟨_, rfl, rfl, large.trans (Nat.le_add_right _ _)⟩

end

end BufferPool

/-- After every history in which the vectors the pool keeps have the capacity of their key,
a request whose power of two can be allocated gets an empty vector with room for it. -/
theorem acquire_capacity (start : Nat) (calls : List (PoolCall Item)) (pool : BufferPool Item)
    (reached : (poolSystem itemSize).run (BufferPool.new start) calls = some pool)
    (aligned : (poolSystem itemSize).Meets (KeepsAligned itemSize) (BufferPool.new start) calls)
    (size : Nat) (within : size ≤ 2 ^ 63)
    (allocatable : alignedSize itemSize size * itemSize < 2 ^ 63) (now spare : Nat) :
    ∃ buf, (pool.acquire itemSize now size spare).2 = some buf ∧ buf.items = [] ∧
      size ≤ buf.capacity := by
  have sufficient : pool.Sufficient :=
    (poolSystem itemSize).run_invariant (KeepsAligned itemSize) BufferPool.Sufficient
      (fun before ok stepped => before.step ok stepped) calls (BufferPool.sufficient_new start)
      aligned reached
  exact sufficient.acquired within allocatable now spare

/-- Released with the capacity it was acquired with. -/
theorem reused_capacity :
    ∃ buf : Vec UInt8,
      (((BufferPool.new 0).release 1 0 (.withCapacity 2048)).acquire 1 1 2000 0).2 = some buf ∧
        buf.items = [] ∧ 2000 ≤ buf.capacity :=
  acquire_capacity 1 0 [.release 0 (.withCapacity 2048)] _ rfl (by decide) 2000 (by decide)
    (by decide) 1 0

/-- A vector that its user made 1500 large is handed out for 2000, and above 2^63 the request
is rounded to nothing. -/
theorem short_vectors :
    (((BufferPool.new 0 : BufferPool UInt8).release 1 0 (.withCapacity 1500)).acquire
        1 1 2000 0).2.map Vec.capacity = some 1500 ∧
      ((BufferPool.new 0 : BufferPool UInt8).acquire 1 1 (2 ^ 63 + 1) 0).2.map Vec.capacity =
        some 0 := by
  decide

/-! ## Accounting -/

inductive InnerCall (Item : Type u) where
  | acquire (now size spare : Nat)
  | release (now : Nat) (buf : Vec Item)
  | cleanup (now : Nat)

def innerSystem : System (BufferPool Item) (InnerCall Item) where
  step pool
    | .acquire now size spare => some (pool.acquireInner itemSize now size spare).1
    | .release now buf => some (pool.release itemSize now buf)
    | .cleanup now => some (pool.cleanup now)

/-- No vector has more than `isize::MAX` bytes. -/
def InnerCall.Allocated : InnerCall Item → Prop
  | .release _ buf => buf.capacity * itemSize < 2 ^ 63
  | .acquire _ _ _ | .cleanup _ => True

/-- The bytes of the vectors under some keys, each taken to be as large as its key. -/
def pooledBytes (buckets : Nat → List (Vec Item)) (keys : Finset Nat) : Nat :=
  ∑ key ∈ keys, key * itemSize * (buckets key).length

theorem pooledBytes_update (buckets : Nat → List (Vec Item)) {keys : Finset Nat} {key : Nat}
    (member : key ∈ keys) (bucket : List (Vec Item)) :
    pooledBytes itemSize (Function.update buckets key bucket) keys +
        key * itemSize * (buckets key).length =
      pooledBytes itemSize buckets keys + key * itemSize * bucket.length := by
  have others : ∀ other ∈ keys.erase key,
      other * itemSize * (Function.update buckets key bucket other).length =
        other * itemSize * (buckets other).length := by
    intro other among
    rw [update_of_ne (Finset.ne_of_mem_erase among)]
  rw [pooledBytes, pooledBytes, ← Finset.add_sum_erase keys _ member,
    ← Finset.add_sum_erase keys _ member, Finset.sum_congr rfl others, update_self]
  omega

/-- A vector that can be allocated is filed under a key whose bytes fit in 64 bits. -/
theorem alignedSize_mul_lt (sized : itemSize < 2 ^ 63) {capacity : Nat}
    (allocated : capacity * itemSize < 2 ^ 63) :
    alignedSize itemSize capacity * itemSize < 2 ^ 64 := by
  have cut : alignedSize itemSize capacity ≤
      nextPowerOfTwo (max capacity (minimumCapacity itemSize)) := Nat.mod_le _ _
  refine (Nat.mul_le_mul_right itemSize cut).trans_lt ?_
  rcases Nat.eq_zero_or_pos itemSize with rfl | positive
  · rw [Nat.mul_zero]
    decide
  rcases le_total (minimumCapacity itemSize) capacity with asked | least
  · rw [max_eq_left asked]
    have some : 0 < minimumCapacity itemSize := Nat.div_pos (by omega) positive
    have double := Nat.mul_le_mul_right itemSize (nextPowerOfTwo_le_double (some.trans_le asked))
    rw [Nat.mul_assoc] at double
    omega
  · rw [max_eq_right least]
    by_cases large : 1024 ≤ itemSize
    · have one : minimumCapacity itemSize ≤ 1 :=
        Nat.le_of_lt_succ ((Nat.div_lt_iff_lt_mul positive).mpr (by omega))
      rw [nextPowerOfTwo, if_pos one]
      omega
    · have power : nextPowerOfTwo (minimumCapacity itemSize) ≤ 2 ^ 10 :=
        nextPowerOfTwo_le (minimumCapacity_le itemSize)
      exact (Nat.mul_le_mul power (by omega : itemSize ≤ 1024)).trans_lt (by decide)

variable {itemSize}

namespace BufferPool

structure Accounted (itemSize : Nat) (pool : BufferPool Item) : Prop where
  total : ∃ keys, (∀ key ∉ keys, pool.buckets key = []) ∧
    pool.totalBytes = pooledBytes itemSize pool.buckets keys
  bounded : pool.totalBytes ≤ maxPoolBytes
  entries : ∀ key, (pool.buckets key).length ≤ maxBucketEntries

variable {pool : BufferPool Item}

theorem accounted_new (start : Nat) : (new start : BufferPool Item).Accounted itemSize :=
  ⟨⟨∅, fun _ _ => rfl, rfl⟩, Nat.zero_le _, fun _ => Nat.zero_le _⟩

section

variable (accounted : pool.Accounted itemSize)
include accounted

/-- What `acquire` subtracts when it finds a vector. -/
theorem Accounted.le_totalBytes {key : Nat}
    (found : pool.buckets key ≠ []) : key * itemSize ≤ pool.totalBytes := by
  obtain ⟨keys, others, total⟩ := accounted.total
  have member : key ∈ keys := by
    by_contra absent
    exact found (others key absent)
  have part : key * itemSize * (pool.buckets key).length ≤ pooledBytes itemSize pool.buckets keys :=
    Finset.single_le_sum_of_canonicallyOrdered
      (f := fun key => key * itemSize * (pool.buckets key).length) member
  rw [total]
  exact (Nat.le_mul_of_pos_right _ (length_pos_iff.mpr found)).trans part

/-- A bucket is replaced, and the bytes change by as many entries as it gains or loses. -/
theorem Accounted.update {key totalBytes : Nat}
    {bucket : List (Vec Item)} (few : bucket.length ≤ maxBucketEntries)
    (bounded : totalBytes ≤ maxPoolBytes)
    (moved : totalBytes + key * itemSize * (pool.buckets key).length =
      pool.totalBytes + key * itemSize * bucket.length) (now : Nat) :
    Accounted itemSize { pool with
      buckets := Function.update pool.buckets key bucket, totalBytes, lastActivity := now } := by
  obtain ⟨keys, others, total⟩ := accounted.total
  refine ⟨⟨insert key keys, fun other absent => ?_, ?_⟩, bounded, fun other => ?_⟩
  · rw [Finset.mem_insert, not_or] at absent
    exact (update_of_ne absent.1 _ _).trans (others other absent.2)
  · have wider : pooledBytes itemSize pool.buckets (insert key keys) = pool.totalBytes := by
      rw [total]
      refine Finset.sum_insert_of_eq_zero_if_notMem fun absent => ?_
      rw [others key absent, length_nil, Nat.mul_zero]
    have updated :=
      pooledBytes_update itemSize pool.buckets (Finset.mem_insert_self key keys) bucket
    dsimp only
    omega
  · dsimp only
    by_cases same : other = key
    · rw [same, update_self]
      exact few
    · rw [update_of_ne same]
      exact accounted.entries other

theorem Accounted.acquireInner (now size spare : Nat) :
    (pool.acquireInner itemSize now size spare).1.Accounted itemSize := by
  have bounded := accounted.bounded
  rw [BufferPool.acquireInner]
  dsimp only
  split
  case h_1 buf last =>
    have found : pool.buckets (alignedSize itemSize size) ≠ [] := by
      intro none
      rw [none] at last
      cases last
    have freed := accounted.le_totalBytes found
    have entries := accounted.entries (alignedSize itemSize size)
    have length := length_pos_iff.mpr found
    have small : alignedSize itemSize size * itemSize < 2 ^ 64 := by
      rw [maxPoolBytes] at bounded
      omega
    have left : (pool.totalBytes + (2 ^ 64 - alignedSize itemSize size * itemSize % 2 ^ 64)) %
        2 ^ 64 = pool.totalBytes - alignedSize itemSize size * itemSize := by
      rw [Nat.mod_eq_of_lt small]
      rw [maxPoolBytes] at bounded
      omega
    refine accounted.update ?_ ?_ ?_ now
    · rw [length_dropLast]
      omega
    · omega
    · obtain ⟨fewer, one⟩ := Nat.exists_eq_succ_of_ne_zero length.ne'
      rw [left, length_dropLast, one, Nat.succ_sub_one, Nat.mul_succ]
      omega
  case h_2 =>
    have same : Accounted itemSize { pool with lastActivity := now } :=
      ⟨accounted.total, bounded, accounted.entries⟩
    split <;> exact same

theorem Accounted.release (sized : itemSize < 2 ^ 63)
    (now : Nat) {buf : Vec Item} (allocated : buf.capacity * itemSize < 2 ^ 63) :
    (pool.release itemSize now buf).Accounted itemSize := by
  have bounded := accounted.bounded
  have small := alignedSize_mul_lt itemSize sized allocated
  rw [BufferPool.release]
  by_cases kept : pool.keeps itemSize buf = true
  · simp only [kept, if_true]
    simp only [keeps, Bool.and_eq_true, decide_eq_true_eq, Nat.mod_eq_of_lt small] at kept
    obtain ⟨⟨⟨_, mega⟩, fits⟩, room⟩ := kept
    have sum : (pool.totalBytes + alignedSize itemSize buf.capacity * itemSize) % 2 ^ 64 =
        pool.totalBytes + alignedSize itemSize buf.capacity * itemSize := by
      rw [maxPoolBytes] at bounded
      exact Nat.mod_eq_of_lt (by omega)
    rw [sum] at fits
    refine accounted.update ?_ ?_ ?_ now
    · rw [length_append]
      exact room
    · rw [Nat.mod_eq_of_lt small, sum]
      exact fits
    · rw [Nat.mod_eq_of_lt small, sum, length_append, length_singleton, Nat.mul_succ]
      omega
  · simp only [kept]
    exact ⟨accounted.total, bounded, accounted.entries⟩

theorem Accounted.cleanup (now : Nat) : (pool.cleanup now).Accounted itemSize := by
  rw [BufferPool.cleanup]
  split
  · exact accounted
  · dsimp only
    split
    · exact ⟨⟨∅, fun _ _ => rfl, rfl⟩, Nat.zero_le _, fun _ => Nat.zero_le _⟩
    · exact { accounted with }

end

end BufferPool

/-- After every history of calls the bytes that are counted are those of the pooled vectors, by
their keys, within the bound of the pool; no bucket is over its own, and what `acquire` would
subtract for a vector that it finds has been counted. -/
theorem pool_accounting (sized : itemSize < 2 ^ 63) (start : Nat) (calls : List (InnerCall Item))
    (allocated : ∀ call ∈ calls, call.Allocated itemSize) (pool : BufferPool Item)
    (reached : (innerSystem itemSize).run (BufferPool.new start) calls = some pool) :
    (∃ keys : Finset Nat, (∀ key ∉ keys, pool.buckets key = []) ∧
      pool.totalBytes = ∑ key ∈ keys, key * itemSize * (pool.buckets key).length) ∧
    pool.totalBytes ≤ maxPoolBytes ∧
    (∀ key, (pool.buckets key).length ≤ maxBucketEntries) ∧
    ∀ size, pool.buckets (alignedSize itemSize size) ≠ [] →
      alignedSize itemSize size * itemSize ≤ pool.totalBytes := by
  have accounted : pool.Accounted itemSize := by
    refine (innerSystem itemSize).run_invariant_of_forall (BufferPool.Accounted itemSize) ?_ calls
      allocated (BufferPool.accounted_new start) reached
    intro pool call next accounted allocated stepped
    cases call with
    | acquire now size spare =>
      cases stepped
      exact accounted.acquireInner now size spare
    | release now buf =>
      cases stepped
      exact accounted.release sized now allocated
    | cleanup now =>
      cases stepped
      exact accounted.cleanup now
  exact ⟨accounted.total, accounted.bounded, accounted.entries,
    fun size found => accounted.le_totalBytes found⟩

/-- Two vectors are released and one is acquired. -/
theorem one_vector_accounted :
    let released := ((BufferPool.new 0 : BufferPool UInt8).release 1 0 (.withCapacity 2048)).release
      1 0 (.withCapacity 1500)
    let pool := (released.acquireInner 1 1 2000 0).1
    pool.totalBytes = 2048 ∧ pool.totalBytes ≤ maxPoolBytes := by
  refine ⟨by decide, (pool_accounting (by decide) 0 [.release 0 (.withCapacity 2048),
    .release 0 (.withCapacity 1500), .acquire 1 2000 0] ?_ _ rfl).2.1⟩
  simp [InnerCall.Allocated, Vec.withCapacity]

end Pool

end KizunaLink.Engine
