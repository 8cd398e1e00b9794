import KizunaLink.Lib.Segment
import KizunaLink.Source.Segmented

/-!
# The segmented source delivers the resource

Every chunk in the map that is ready holds the bytes of its interval, whoever
stored it and however often it was evicted and fetched again: a worker requests
the interval of the chunk it claimed, and chunks are claimed only before the end.

The comparison with the end is made on a product that wraps.  For a resource
shorter than 2^64 bytes by more than a chunk no product that is compared wraps;
for a longer one a worker stores the first chunk's bytes under a number behind
the end.
-/

set_option autoImplicit false

namespace KizunaLink.Source

open KizunaLink.Lib List Option Function

def chunkBytes (resource : Bytes) (idx : Nat) : Bytes :=
  (resource.drop (idx * chunkSize)).take chunkSize

namespace SegmentedSource

structure Correct (resource : Bytes) (source : SegmentedSource) : Prop where
  delivered : ∀ entry ∈ source.delivered, SegmentAt resource entry.1 entry.2.2 ∧
    (0 < entry.2.1 → entry.2.2 = [] → resource.length ≤ entry.1)
  ready : ∀ idx bytes, source.shared.chunks idx = some (.ready bytes) →
    bytes = chunkBytes resource idx
  requests : ∀ worker idx retries offset size,
    source.workers worker = .fetching idx retries offset size →
    offset ≤ source.shared.totalLen ∧ 0 < size ∧ offset + size ≤ resource.length

/-- What `fetch_chunk` returns, if it returns bytes, are the requested ones. -/
def ServerHonest (canonicalReason : Nat → Option String) (resource : Bytes)
    (source : SegmentedSource) (act : SegmentedAct) : Prop :=
  match act with
  | .answered worker answer =>
    match source.workers worker with
    | .fetching _ _ offset size =>
      ∀ bytes ∈ (fetchChunk canonicalReason offset size answer).toOption,
        bytes = (resource.drop offset).take size
    | .seeking | .ended => True
  | _ => True

instance (canonicalReason : Nat → Option String) (resource : Bytes) (source : SegmentedSource)
    (act : SegmentedAct) : Decidable (source.ServerHonest canonicalReason resource act) := by
  unfold ServerHonest
  split
  · split <;> infer_instance
  · infer_instance

/-- An index whose interval starts before the end, with the offset not wrapped. -/
def InRange (len idx : Nat) : Prop := idx * chunkSize < len ∧ chunkOffset idx = idx * chunkSize

variable {len : Nat} {room : Nat} {worker : Nat} {idx : Nat} {state : ReaderState}
  (canonicalReason : Nat → Option String)

theorem chunkOffset_of_lt (below : idx * chunkSize < 2 ^ 64) : chunkOffset idx = idx * chunkSize :=
  Nat.mod_eq_of_lt below

theorem tryClaimChunk_some {idx claimed retries : Nat} (below : idx * chunkSize < 2 ^ 64)
    (claims : state.tryClaimChunk idx = some (claimed, retries)) :
    InRange state.totalLen claimed := by
  have exact := chunkOffset_of_lt below
  obtain ⟨before, claims⟩ := ite_none_left_eq_some.mp claims
  rw [exact] at before
  split at claims
  · cases claims
    exact ⟨Nat.lt_of_not_le before, exact⟩
  · cases claims
    exact ⟨Nat.lt_of_not_le before, exact⟩
  · cases claims
  · cases claims

/-- The look-ahead goes on only from an index before the end, so the next product
does not wrap either. -/
theorem claimAhead_some {currentChunk claimed retries : Nat}
    (short : state.totalLen + chunkSize < 2 ^ 64) (start count : Nat)
    (below : (currentChunk + start) * chunkSize < 2 ^ 64)
    (claims : state.claimAhead currentChunk (List.range' start count) = some (claimed, retries)) :
    InRange state.totalLen claimed := by
  induction count generalizing start with
  | zero => cases claims
  | succ count ih =>
    obtain ⟨before, claims⟩ := ite_none_left_eq_some.mp claims
    rw [chunkOffset_of_lt below] at before
    split at claims
    · rename_i found
      cases claims
      exact tryClaimChunk_some below found
    · apply ih (start + 1) _ claims
      rw [← Nat.add_assoc, Nat.add_mul]
      omega

theorem claim_some {claimed retries : Nat} (short : state.totalLen + chunkSize < 2 ^ 64)
    (within : state.currentPos ≤ state.totalLen) (claims : state.claim = some (claimed, retries)) :
    InRange state.totalLen claimed := by
  have floor := Nat.div_mul_le_self state.currentPos chunkSize
  simp only [ReaderState.claim] at claims
  split at claims
  · rename_i found
    cases claims
    exact tryClaimChunk_some (by omega) found
  · apply claimAhead_some short 1 _ _ claims
    rw [Nat.add_mul, Nat.one_mul]
    omega

structure ChunksExact (resource : Bytes) (source : SegmentedSource) : Prop where
  len : source.len = resource.length
  total : source.shared.totalLen = resource.length
  pos : source.pos ≤ resource.length
  cursor : source.shared.currentPos ≤ resource.length
  reading : ∀ room, source.reading = some room →
    source.pos < resource.length ∧ source.readFrom = source.pos
  ready : ∀ idx bytes, source.shared.chunks idx = some (.ready bytes) →
    bytes = chunkBytes resource idx
  requests : ∀ worker idx retries offset size,
    source.workers worker = .fetching idx retries offset size →
    offset = idx * chunkSize ∧ offset < resource.length ∧
      size = min chunkSize (resource.length - offset)
  delivered : ∀ entry ∈ source.delivered, SegmentAt resource entry.1 entry.2.2 ∧
    (0 < entry.2.1 → entry.2.2 = [] → resource.length ≤ entry.1)

variable {resource : Bytes} {source : SegmentedSource}

section

variable (safe : source.ChunksExact resource)
include safe

theorem ChunksExact.correct : source.Correct resource := by
  refine ⟨safe.delivered, safe.ready, ?_⟩
  intro worker idx retries offset size fetching
  obtain ⟨_, before, sized⟩ := safe.requests worker idx retries offset size fetching
  have total := safe.total
  have chunk : 0 < chunkSize := by decide
  omega

theorem ChunksExact.setPos {pos : Nat} (within : pos ≤ resource.length)
    (reading : ∀ room, source.reading = some room →
      pos < resource.length ∧ source.readFrom = pos) :
    (source.setPos pos).ChunksExact resource :=
  { safe with pos := within, cursor := within, reading := reading }

theorem ChunksExact.answer {bytes : Bytes} (segment : SegmentAt resource source.readFrom bytes)
    (ends : 0 < room → bytes = [] → resource.length ≤ source.readFrom) :
    (source.answer room bytes).ChunksExact resource := by
  refine { safe with reading := nofun, delivered := ?_ }
  intro entry member
  rcases mem_append.mp member with earlier | now
  · exact safe.delivered entry earlier
  · cases mem_singleton.mp now
    exact ⟨segment, ends⟩

theorem ChunksExact.withChunks {shared : ReaderState}
    (total : shared.totalLen = source.shared.totalLen)
    (cursor : shared.currentPos = source.shared.currentPos)
    (ready : ∀ idx bytes, shared.chunks idx = some (.ready bytes) →
      bytes = chunkBytes resource idx) :
    ChunksExact resource { source with shared } :=
  { safe with total := total.trans safe.total, cursor := cursor ▸ safe.cursor, ready := ready }

end

theorem ready_insert {chunk : ChunkState}
    (ready : ∀ idx bytes, state.chunks idx = some (.ready bytes) → bytes = chunkBytes resource idx)
    (fresh : ∀ bytes, chunk = .ready bytes → bytes = chunkBytes resource idx) :
    ∀ other bytes, (state.insert idx chunk).chunks other = some (.ready bytes) →
      bytes = chunkBytes resource other := by
  intro other bytes found
  simp only [ReaderState.insert, update_apply] at found
  split at found
  · rename_i same
    subst same
    exact fresh bytes (Option.some.inj found)
  · exact ready other bytes found

theorem ChunksExact.insert (safe : source.ChunksExact resource) {chunk : ChunkState}
    (fresh : ∀ bytes, chunk = .ready bytes → bytes = chunkBytes resource idx) :
    ChunksExact resource { source with shared := source.shared.insert idx chunk } :=
  safe.withChunks rfl rfl (ready_insert safe.ready fresh)

theorem ChunksExact.setWorker (safe : source.ChunksExact resource) {point : Worker}
    (request : ∀ idx retries offset size, point = .fetching idx retries offset size →
      offset = idx * chunkSize ∧ offset < resource.length ∧
      size = min chunkSize (resource.length - offset)) :
    (source.setWorker worker point).ChunksExact resource := by
  refine { safe with requests := ?_ }
  intro other idx retries offset size fetching
  simp only [SegmentedSource.setWorker, update_apply] at fetching
  split at fetching
  · exact request idx retries offset size fetching
  · exact safe.requests other idx retries offset size fetching

theorem chunkBytes_drop (resource : Bytes) (pos : Nat) :
    (chunkBytes resource (pos / chunkSize)).drop (pos % chunkSize) =
      (resource.drop pos).take (chunkSize - pos % chunkSize) := by
  have joined : pos / chunkSize * chunkSize + pos % chunkSize = pos := by
    rw [Nat.mul_comm]
    exact Nat.div_add_mod pos chunkSize
  rw [chunkBytes, drop_take, drop_drop, joined]

section

variable (safe : source.ChunksExact resource)
include safe

theorem ChunksExact.beginRead (room : Nat) : (source.beginRead room).ChunksExact resource := by
  simp only [SegmentedSource.beginRead]
  split
  · rename_i beyond
    rw [safe.len] at beyond
    have called : ChunksExact resource { source with readFrom := source.pos } :=
      { safe with reading := fun room inLoop => ⟨(safe.reading room inLoop).1, rfl⟩ }
    exact called.answer segmentAt_nil fun _ _ => beyond
  · rename_i before
    rw [safe.len] at before
    refine { safe with cursor := safe.pos, reading := ?_ }
    intro _ _
    exact ⟨Nat.lt_of_not_le before, rfl⟩

theorem ChunksExact.retainFrom (idx : Nat) :
    ChunksExact resource { source with shared := source.shared.retainFrom idx } := by
  simp only [ReaderState.retainFrom]
  split
  · apply safe.withChunks
    · rfl
    · rfl
    · intro other bytes found
      simp only at found
      split at found
      · exact safe.ready other bytes found
      · cases found
  · exact safe

theorem ChunksExact.serve {bytes : Bytes} (inLoop : source.reading = some room)
    (found : source.shared.chunks (source.pos / chunkSize) = some (.ready bytes)) :
    0 < bytes.length - source.pos % chunkSize ∧
      ((source.answer room ((bytes.drop (source.pos % chunkSize)).take
          (min room (bytes.length - source.pos % chunkSize)))).setPos
        (source.pos + min room (bytes.length - source.pos % chunkSize))).ChunksExact
          resource := by
  obtain ⟨before, start⟩ := safe.reading room inLoop
  have below : source.pos % chunkSize < chunkSize := Nat.mod_lt _ (by decide)
  have served := chunkBytes_drop resource source.pos
  rw [← safe.ready _ bytes found] at served
  have available : bytes.length - source.pos % chunkSize =
      min (chunkSize - source.pos % chunkSize) (resource.length - source.pos) := by
    have lengths := congrArg List.length served
    simpa only [length_drop, length_take] using lengths
  refine ⟨by omega, ?_⟩
  apply ChunksExact.setPos
  · apply safe.answer
    · rw [served, take_take, start]
      exact segmentAt_take _
    · intro hasRoom nothing
      have lengths := congrArg List.length nothing
      simp only [length_take, length_drop, length_nil] at lengths
      omega
  · omega
  · nofun

theorem ChunksExact.readTurn
    (inLoop : source.reading = some room) : (source.readTurn room).ChunksExact resource := by
  simp only [SegmentedSource.readTurn]
  split
  · exact { safe with reading := nofun }
  · split
    · rename_i bytes found
      obtain ⟨available, served⟩ := safe.serve inLoop found
      rw [if_neg (Nat.ne_of_gt available)]
      exact served.retainFrom _
    · exact safe
    · exact safe
    · exact safe.insert nofun

theorem ChunksExact.seek (origin : SeekFrom)
    (outside : source.reading = none) : (source.seek origin).ChunksExact resource := by
  simp only [SegmentedSource.seek]
  apply safe.setPos
  · rw [safe.len]
    exact Nat.min_le_right _ _
  · rw [outside]
    nofun

theorem ChunksExact.workerClaims (worker : Nat) (short : resource.length + chunkSize < 2 ^ 64) :
    (source.workerClaims worker).ChunksExact resource := by
  simp only [SegmentedSource.workerClaims]
  split
  · exact safe.setWorker nofun
  · split
    · exact safe
    · rename_i idx retries claims
      rw [← safe.total] at short
      have within : source.shared.currentPos ≤ source.shared.totalLen := by
        rw [safe.total]
        exact safe.cursor
      obtain ⟨before, exact⟩ := claim_some short within claims
      rw [safe.total] at before
      have marked : ChunksExact resource
          { source with shared := source.shared.insert idx .downloading } := safe.insert nofun
      apply marked.setWorker
      intro _ _ _ _ fetching
      cases fetching
      rw [safe.total, exact]
      exact ⟨rfl, before, rfl⟩

theorem ChunksExact.requeueOrFatal (idx retries : Nat) (problem : String) :
    ChunksExact resource
      { source with shared := source.shared.requeueOrFatal idx retries problem } := by
  simp only [ReaderState.requeueOrFatal]
  split
  · exact safe.withChunks rfl rfl safe.ready
  · exact safe.insert nofun

theorem ChunksExact.workerStores
    {worker idx retries offset size : Nat} {result : Except String Bytes}
    (fetching : source.workers worker = .fetching idx retries offset size)
    (honest : ∀ bytes ∈ result.toOption, bytes = (resource.drop offset).take size) :
    (source.workerStores worker idx retries size result).ChunksExact resource := by
  obtain ⟨atChunk, before, sized⟩ := safe.requests worker idx retries offset size fetching
  simp only [SegmentedSource.workerStores]
  apply ChunksExact.setWorker
  · cases result with
    | error problem => exact safe.requeueOrFatal idx retries problem
    | ok bytes =>
      simp only
      split
      · exact safe.requeueOrFatal idx retries _
      · apply safe.insert
        intro stored same
        cases same
        rw [honest bytes rfl, atChunk, chunkBytes, sized, atChunk, ← length_drop, ← take_take,
          take_length]
  · nofun

end

theorem ChunksExact.step {canonicalReason : Nat → Option String} {next : SegmentedSource}
    {act : SegmentedAct} (short : resource.length + chunkSize < 2 ^ 64)
    (safe : source.ChunksExact resource) (honest : source.ServerHonest canonicalReason resource act)
    (stepped : source.step canonicalReason act = some next) : next.ChunksExact resource := by
  cases act with
  | read room =>
    obtain ⟨-, rfl⟩ := ite_some_none_eq_some.mp stepped
    exact safe.beginRead room
  | turn =>
    obtain ⟨room, inLoop, rfl⟩ := map_eq_some_iff.mp stepped
    exact safe.readTurn inLoop
  | seek origin =>
    obtain ⟨free, rfl⟩ := ite_some_none_eq_some.mp stepped
    exact safe.seek origin free.2
  | drop =>
    obtain ⟨-, rfl⟩ := ite_some_none_eq_some.mp stepped
    exact { safe with }
  | claim worker =>
    obtain ⟨-, rfl⟩ := ite_some_none_eq_some.mp stepped
    exact safe.workerClaims worker short
  | answered worker answer =>
    simp only [SegmentedSource.step] at stepped
    split at stepped
    · rename_i idx retries offset size fetching
      cases stepped
      simp only [ServerHonest, fetching] at honest
      exact safe.workerStores fetching honest
    · cases stepped
    · cases stepped
  | abort worker =>
    obtain ⟨-, ⟨⟩⟩ := ite_none_left_eq_some.mp stepped
    exact safe.setWorker (by simp)

theorem new_chunksExact (resource : Bytes) : (new resource.length).ChunksExact resource := by
  refine ⟨rfl, rfl, Nat.zero_le _, Nat.zero_le _, nofun, ?_, nofun, nofun⟩
  intro idx bytes found
  simp only [new, update_apply] at found
  split at found
  · cases found
  · cases found

/-! ## Resources that fill the address space -/

/-- The number of the first chunk whose offset wraps, to 0. -/
def wrappedChunk : Nat := 2 ^ 46

theorem chunkOffset_wrappedChunk : chunkOffset wrappedChunk = 0 := by decide

/-- With the reader in the last chunk before the wrap, and that chunk taken, a
worker claims the chunk behind it. -/
theorem claim_wrapped (last : state.currentPos / chunkSize + 1 = wrappedChunk)
    (taken : state.tryClaimChunk (state.currentPos / chunkSize) = none)
    (notReady : state.cursorReady (state.currentPos / chunkSize) = false)
    (free : state.chunks wrappedChunk = none) (nonempty : 0 < state.totalLen) :
    state.claim = some (wrappedChunk, 0) := by
  have before : ¬ state.totalLen ≤ 0 := Nat.not_le_of_lt nonempty
  have claims : state.tryClaimChunk wrappedChunk = some (wrappedChunk, 0) := by
    simp only [ReaderState.tryClaimChunk, chunkOffset_wrappedChunk, if_neg before, free]
  have ahead : List.range' 1 (2 - 1) = [1] := rfl
  simp only [ReaderState.claim, taken, notReady, Bool.false_eq_true, if_false, ahead,
    ReaderState.claimAhead, last, chunkOffset_wrappedChunk, if_neg before, claims]

def firstChunk (resource : Bytes) : ChunkAnswer where
  response := { status := 206, contentRange := some "bytes 0-262143/*" }
  body := [.ok (resource.take chunkSize)]

theorem fetchChunk_firstChunk (long : chunkSize ≤ resource.length) :
    fetchChunk canonicalReason 0 chunkSize (.ok (firstChunk resource)) =
      .ok (resource.take chunkSize) := by
  have valid : validateContentRange
      { status := 206, contentRange := some "bytes 0-262143/*" } 0 (some chunkSize) =
        .ok chunkSize := by decide
  have length : (resource.take chunkSize).length = chunkSize := by
    rw [length_take, Nat.min_eq_left long]
  have collected : collectBody chunkSize [] [.ok (resource.take chunkSize)] =
      .ok (resource.take chunkSize) := by
    simp [collectBody, length]
  simp [fetchChunk, firstChunk, bind, Except.bind, valid, collected]

/-- A worker that has claimed the chunk behind the wrap stores the first chunk's
bytes under its number. -/
theorem wrapped_answer_incorrect (long : chunkSize ≤ resource.length)
    (fits : resource.length < 2 ^ 64)
    (fetching : source.workers worker = .fetching wrappedChunk 0 0 chunkSize) :
    source.ServerHonest canonicalReason resource (.answered worker (.ok (firstChunk resource))) ∧
      ∃ next, source.step canonicalReason (.answered worker (.ok (firstChunk resource))) =
        some next ∧ ¬ next.Correct resource := by
  have fetched := fetchChunk_firstChunk canonicalReason long
  have length : (resource.take chunkSize).length = chunkSize := by
    rw [length_take, Nat.min_eq_left long]
  constructor
  · simp only [ServerHonest, fetching, fetched]
    intro bytes same
    cases same
    rfl
  · simp only [step, fetching, fetched]
    refine ⟨_, rfl, fun correct => ?_⟩
    have stored := correct.ready wrappedChunk (resource.take chunkSize) (by
      simp [workerStores, setWorker, ReaderState.insert, length])
    have beyond : resource.length ≤ wrappedChunk * chunkSize :=
      Nat.le_of_lt (fits.trans_eq (by decide))
    rw [chunkBytes, drop_eq_nil_of_le beyond] at stored
    have impossible := congrArg List.length stored
    rw [length] at impossible
    cases impossible

theorem workerClaims_wrapped (running : source.shared.isTerminated = false)
    (claims : source.shared.claim = some (wrappedChunk, 0))
    (long : chunkSize ≤ source.shared.totalLen) :
    (source.workerClaims worker).workers worker = .fetching wrappedChunk 0 0 chunkSize := by
  have sized : min chunkSize (source.shared.totalLen - 0) = chunkSize := by omega
  simp only [workerClaims, running, claims, chunkOffset_wrappedChunk, sized, setWorker, update_self,
    Bool.false_eq_true, if_false]

def atEnd (len : Nat) : SegmentedSource := (new len).setPos len

theorem step_toEnd (fits : len < 2 ^ 64) :
    (new len).step canonicalReason (.seek (.fromEnd 0)) = some (atEnd len) := by
  have target : min (saturatingAddSigned len 0) len = len := by
    simp only [saturatingAddSigned, Int.add_zero, Int.toNat_natCast]
    omega
  simp [step, seek, new, atEnd, target]

theorem atEnd_chunks (len : Nat) (later : idx ≠ 0) : (atEnd len).shared.chunks idx = none := by
  simp only [atEnd, setPos, new]
  rw [update_of_ne later]

theorem workerClaims_atEnd (later : len / chunkSize ≠ 0)
    (inside : ¬ len ≤ chunkOffset (len / chunkSize)) :
    (atEnd len).workerClaims 0 =
      { atEnd len with shared := (atEnd len).shared.insert (len / chunkSize) .downloading
        }.setWorker 0 (.fetching (len / chunkSize) 0 (chunkOffset (len / chunkSize))
          (min chunkSize (len - chunkOffset (len / chunkSize)))) := by
  have found : (atEnd len).shared.tryClaimChunk (len / chunkSize) =
      some (len / chunkSize, 0) := by
    simp only [ReaderState.tryClaimChunk, atEnd_chunks len later]
    exact if_neg inside
  have claims : (atEnd len).shared.claim = some (len / chunkSize, 0) := by
    simp only [ReaderState.claim, show (atEnd len).shared.currentPos = len from rfl, found]
  simp only [workerClaims, claims]
  rfl

theorem wrapped_chunk_claimed (long : 2 ^ 64 ≤ len + chunkSize) (fits : len < 2 ^ 64) :
    ∃ (workers : List Nat) (source : SegmentedSource) (worker : Nat),
      (segmentedSystem canonicalReason).run (new len)
        (.seek (.fromEnd 0) :: workers.map .claim) = some source ∧
      source.workers worker = .fetching wrappedChunk 0 0 chunkSize := by
  have chunkLe : chunkSize ≤ len := by
    simp only [chunkSize] at long ⊢
    omega
  have last : len / chunkSize + 1 = wrappedChunk := by
    simp only [chunkSize, wrappedChunk] at long ⊢
    omega
  have later : len / chunkSize ≠ 0 := by
    simp only [wrappedChunk] at last
    omega
  have free : (atEnd len).shared.chunks wrappedChunk = none := atEnd_chunks len (by decide)
  have toEnd := step_toEnd canonicalReason fits
  have firstClaims : (atEnd len).step canonicalReason (.claim 0) =
      some ((atEnd len).workerClaims 0) := rfl
  by_cases edge : len ≤ chunkOffset (len / chunkSize)
  · -- the last chunk before the wrap is behind the end
    refine ⟨[0], (atEnd len).workerClaims 0, 0, ?_, ?_⟩
    · rw [System.run_cons_of_step _ _ toEnd]
      exact System.run_cons_of_step _ [] firstClaims
    · apply workerClaims_wrapped rfl _ chunkLe
      apply claim_wrapped last
      · exact if_pos edge
      · simp only [ReaderState.cursorReady]
        rw [show (atEnd len).shared.currentPos = len from rfl, atEnd_chunks len later]
      · exact free
      · exact Nat.lt_of_lt_of_le (by decide) chunkLe
  · -- it is claimed first
    have claimed := workerClaims_atEnd later edge
    have secondClaims : ((atEnd len).workerClaims 0).step canonicalReason (.claim 1) =
        some (((atEnd len).workerClaims 0).workerClaims 1) := by
      rw [claimed]
      rfl
    refine ⟨[0, 1], ((atEnd len).workerClaims 0).workerClaims 1, 1, ?_, ?_⟩
    · rw [System.run_cons_of_step _ _ toEnd, map_cons, System.run_cons_of_step _ _ firstClaims]
      exact System.run_cons_of_step _ [] secondClaims
    · rw [claimed]
      have marked : ((atEnd len).shared.insert (len / chunkSize) .downloading).chunks
          (len / chunkSize) = some .downloading := by
        simp only [ReaderState.insert, update_self]
      apply workerClaims_wrapped rfl _ chunkLe
      apply claim_wrapped last
      · change ((atEnd len).shared.insert (len / chunkSize) .downloading).tryClaimChunk
          (len / chunkSize) = none
        simp [ReaderState.tryClaimChunk, marked]
      · change ((atEnd len).shared.insert (len / chunkSize) .downloading).cursorReady
          (len / chunkSize) = false
        simp only [ReaderState.cursorReady, marked]
      · exact (update_of_ne (by omega) _ _).trans free
      · exact Nat.lt_of_lt_of_le (by decide) chunkLe

theorem wrapped_run_incorrect (long : 2 ^ 64 ≤ resource.length + chunkSize)
    (fits : resource.length < 2 ^ 64) :
    ∃ acts source,
      (segmentedSystem canonicalReason).Meets (ServerHonest canonicalReason resource)
        (new resource.length) acts ∧
      (segmentedSystem canonicalReason).run (new resource.length) acts = some source ∧
      ¬ source.Correct resource := by
  obtain ⟨workers, source, worker, claimed, fetching⟩ :=
    wrapped_chunk_claimed canonicalReason long fits
  have chunkLe : chunkSize ≤ resource.length := by
    simp only [chunkSize] at long ⊢
    omega
  obtain ⟨honest, next, stepped, incorrect⟩ :=
    wrapped_answer_incorrect canonicalReason chunkLe fits fetching
  refine ⟨(.seek (.fromEnd 0) :: workers.map .claim) ++
    [.answered worker (.ok (firstChunk resource))], next, ?_, ?_, incorrect⟩
  · apply System.meets_append
    · -- no request is answered before
      apply System.meets_of_forall
      intro act member state
      rcases mem_cons.mp member with isSeek | isClaim
      · rw [isSeek]
        trivial
      · obtain ⟨claiming, _, rfl⟩ := List.mem_map.mp isClaim
        trivial
    · intro middle reached
      cases Option.some.inj (claimed.symm.trans reached)
      exact ⟨honest, fun _ _ => trivial⟩
  · rw [System.run_append _ _ _ _ _ claimed]
    exact System.run_cons_of_step _ [] stepped

end SegmentedSource

/-- The source is correct in every run against an honest server exactly for the
resources that leave a chunk of the address space free. -/
theorem segmented_correct_iff (resource : Bytes) (fits : resource.length < 2 ^ 64) :
    (∀ (canonicalReason : Nat → Option String) (acts : List SegmentedAct)
      (source : SegmentedSource),
      (segmentedSystem canonicalReason).Meets
        (SegmentedSource.ServerHonest canonicalReason resource)
        (SegmentedSource.new resource.length) acts →
      (segmentedSystem canonicalReason).run (SegmentedSource.new resource.length) acts =
        some source →
      source.Correct resource) ↔
    resource.length < 2 ^ 64 - chunkSize := by
  constructor
  · intro claim
    by_contra tooLong
    have long : 2 ^ 64 ≤ resource.length + chunkSize := by omega
    obtain ⟨acts, source, meets, reached, incorrect⟩ :=
      SegmentedSource.wrapped_run_incorrect (fun _ => none) long fits
    exact incorrect (claim _ acts source meets reached)
  · intro short canonicalReason acts source meets reached
    have short : resource.length + chunkSize < 2 ^ 64 := by omega
    have safe : source.ChunksExact resource :=
      (segmentedSystem canonicalReason).run_invariant _ (SegmentedSource.ChunksExact resource)
        (fun safe honest stepped => safe.step short honest stepped) acts
        (SegmentedSource.new_chunksExact resource) meets reached
    exact safe.correct

def fiveBytes : Bytes := [3, 1, 4, 1, 5]

/-- A worker fetches the only chunk, whose body comes in two parts. -/
def readFour : List SegmentedAct :=
  [.claim 0,
    .answered 0 (.ok
      { response := { status := 206, contentRange := some "bytes 0-4/5" }
        body := [.ok [3, 1], .ok [4, 1, 5]] }),
    .read 4, .turn]

theorem segmented_reads_four_bytes :
    ∃ source, (segmentedSystem reasons).run (SegmentedSource.new 5) readFour = some source ∧
      source.delivered = [(0, 4, [3, 1, 4, 1])] ∧ source.Correct fiveBytes := by
  have reads : ((segmentedSystem reasons).run (SegmentedSource.new 5) readFour).map
      (fun source => source.delivered) = some [(0, 4, [3, 1, 4, 1])] := by decide
  obtain ⟨source, reached, delivered⟩ := map_eq_some_iff.mp reads
  have meets : (segmentedSystem reasons).Meets
      (SegmentedSource.ServerHonest reasons fiveBytes) (SegmentedSource.new 5) readFour := by
    decide
  exact ⟨source, reached, delivered,
    (segmented_correct_iff fiveBytes (by decide)).mpr (by decide) reasons readFour source meets
      reached⟩

/-- The shortest resource that leaves too little of the address space free. -/
def endlessZeros : Bytes := List.replicate (2 ^ 64 - chunkSize) 0

theorem wrapped_offset_stores_other_bytes :
    ¬ ∀ (canonicalReason : Nat → Option String) (acts : List SegmentedAct)
      (source : SegmentedSource),
      (segmentedSystem canonicalReason).Meets
        (SegmentedSource.ServerHonest canonicalReason endlessZeros)
        (SegmentedSource.new endlessZeros.length) acts →
      (segmentedSystem canonicalReason).run (SegmentedSource.new endlessZeros.length) acts =
        some source →
      source.Correct endlessZeros := by
  intro claim
  have length : endlessZeros.length = 2 ^ 64 - chunkSize := length_replicate
  have long : 2 ^ 64 ≤ endlessZeros.length + chunkSize := by
    rw [length]
    decide
  have fits : endlessZeros.length < 2 ^ 64 := by
    rw [length]
    decide
  obtain ⟨acts, source, meets, reached, incorrect⟩ :=
    SegmentedSource.wrapped_run_incorrect (fun _ => none) long fits
  exact incorrect (claim _ acts source meets reached)

end KizunaLink.Source
