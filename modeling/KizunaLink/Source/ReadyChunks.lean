import KizunaLink.Source.ChunkClaims
import Mathlib.Order.Interval.Finset.Nat

/-!
# How many chunks the segmented source holds

A successful read evicts what lies more than one chunk behind it, and workers claim at
most three chunks ahead of it.  While the reader only goes forward, every chunk was
claimed from a position that is not ahead of it, so five chunks are left after a read.

Nothing evicts what lies ahead.  A reader that goes back chunk by chunk keeps them
all: the whole resource is held when it reads the first one.
-/

set_option autoImplicit false

namespace KizunaLink.Source

open KizunaLink.Lib List Option Function

namespace SegmentedSource

variable {canonicalReason : Nat → Option String} {source next : SegmentedSource}
  {act : SegmentedAct}

def HoldsAtMost (source : SegmentedSource) (bound : Nat) : Prop :=
  ∀ held : Finset Nat, (∀ idx ∈ held, source.shared.cursorReady idx = true) → held.card ≤ bound

def ReadReturns (source next : SegmentedSource) : Prop :=
  ∃ room bytes, source.reading = some room ∧ next = source.readTurn room ∧
    next.delivered = source.delivered ++ [(source.readFrom, room, bytes)]

def NeverBack (canonicalReason : Nat → Option String) (source : SegmentedSource)
    (act : SegmentedAct) : Prop :=
  ∀ next ∈ source.step canonicalReason act, source.pos ≤ next.pos

instance (canonicalReason : Nat → Option String) (source : SegmentedSource)
    (act : SegmentedAct) : Decidable (source.NeverBack canonicalReason act) :=
  inferInstanceAs (Decidable (∀ next ∈ source.step canonicalReason act, source.pos ≤ next.pos))

/-- Whatever is ready or being downloaded lies in or before the window of the cursor. -/
structure Forward (source : SegmentedSource) : Prop where
  cursor : source.shared.currentPos = source.pos
  ready : ∀ idx, source.shared.cursorReady idx = true →
    idx < source.pos / chunkSize + prefetchChunks
  downloads : ∀ worker idx, (source.workers worker).chunk = some idx →
    idx < source.pos / chunkSize + prefetchChunks

theorem new_forward (len : Nat) : (new len).Forward := by
  refine ⟨rfl, ?_, fun _ _ downloads => (by cases downloads)⟩
  intro idx ready
  simp only [new, ReaderState.cursorReady, update_apply] at ready
  split at ready
  · rename_i found
    split at found <;> cases found
  all_goals cases ready

theorem cursor_step (cursor : source.shared.currentPos = source.pos)
    (stepped : source.step canonicalReason act = some next) :
    next.shared.currentPos = next.pos := by
  cases act with
  | read room =>
    obtain ⟨-, rfl⟩ := ite_some_none_eq_some.mp stepped
    simp only [beginRead]
    split
    · exact cursor
    · rfl
  | turn =>
    obtain ⟨room, -, rfl⟩ := map_eq_some_iff.mp stepped
    simp only [readTurn]
    split
    · exact cursor
    · split
      · split
        · rfl
        · simp only [ReaderState.retainFrom]
          split <;> rfl
      all_goals exact cursor
  | seek origin =>
    obtain ⟨-, rfl⟩ := ite_some_none_eq_some.mp stepped
    rfl
  | drop =>
    obtain ⟨-, rfl⟩ := ite_some_none_eq_some.mp stepped
    exact cursor
  | claim worker =>
    obtain ⟨-, rfl⟩ := ite_some_none_eq_some.mp stepped
    simp only [workerClaims]
    split
    · exact cursor
    · split <;> exact cursor
  | answered worker answer =>
    simp only [step] at stepped
    split at stepped
    · cases stepped
      simp only [workerStores, setWorker, ReaderState.requeueOrFatal]
      split
      · split
        · split <;> exact cursor
        · exact cursor
      · split <;> exact cursor
    all_goals cases stepped
  | abort worker =>
    obtain ⟨-, ⟨⟩⟩ := ite_none_left_eq_some.mp stepped
    exact cursor

theorem Forward.step (forward : source.Forward) (onward : source.NeverBack canonicalReason act)
    (stepped : source.step canonicalReason act = some next) : next.Forward := by
  -- the window moves on with the position
  have window {idx : Nat} (inside : idx < source.pos / chunkSize + prefetchChunks) :
      idx < next.pos / chunkSize + prefetchChunks :=
    Nat.lt_of_lt_of_le inside
      (Nat.add_le_add_right (Nat.div_le_div_right (onward next stepped)) _)
  have readyBefore {idx changed : Nat} {entry : Option ChunkState}
      (chunks : next.shared.chunks = Function.update source.shared.chunks changed entry)
      (changedIn : changed < source.pos / chunkSize + prefetchChunks)
      (ready : next.shared.cursorReady idx = true) :
      idx < source.pos / chunkSize + prefetchChunks := by
    by_cases same : idx = changed
    · rw [same]
      exact changedIn
    · rw [ReaderState.cursorReady_of_update chunks same] at ready
      exact forward.ready idx ready
  refine ⟨cursor_step forward.cursor stepped, ?_, ?_⟩
  · intro idx ready
    apply window
    cases mapStep stepped with
    | keeps quiet chunks workers fatal =>
      rw [ReaderState.cursorReady_congr (congrFun chunks idx)] at ready
      exact forward.ready idx ready
    | @awaits changed missing chunks workers fatal =>
      by_cases same : idx = changed
      · rw [ReaderState.cursorReady, chunks, same, update_self] at ready
        cases ready
      · rw [ReaderState.cursorReady_of_update chunks same] at ready
        exact forward.ready idx ready
    | evicts chunks workers fatal =>
      exact forward.ready idx (ReaderState.ready_of_retained chunks ready).2
    | claims claimed chunks workers fatal =>
      refine readyBefore chunks ?_ ready
      rw [← forward.cursor]
      exact (ReaderState.claim_claimable claimed).2.1
    | answers fetching chunks workers =>
      exact readyBefore chunks (forward.downloads _ _ fetching) ready
  · intro worker idx downloads
    apply window
    cases mapStep stepped with
    | keeps quiet chunks workers fatal =>
      exact forward.downloads worker idx (workers worker idx downloads)
    | awaits _ _ workers _ | evicts _ workers _ =>
      rw [workers] at downloads
      exact forward.downloads worker idx downloads
    | claims claimed chunks workers fatal =>
      rw [workers] at downloads
      split at downloads
      · cases downloads
        rw [← forward.cursor]
        exact (ReaderState.claim_claimable claimed).2.1
      · exact forward.downloads worker idx downloads
    | answers fetching chunks workers =>
      rw [workers] at downloads
      split at downloads
      · cases downloads
      · exact forward.downloads worker idx downloads

theorem readReturns_of_ready {room : Nat} {bytes : Bytes} (reading : source.reading = some room)
    (sound : source.shared.fatalError = none)
    (found : source.shared.chunks (source.pos / chunkSize) = some (.ready bytes))
    (left : bytes.length - source.pos % chunkSize ≠ 0) :
    source.ReadReturns (source.readTurn room) := by
  refine ⟨room, (bytes.drop (source.pos % chunkSize)).take
    (min room (bytes.length - source.pos % chunkSize)), reading, rfl, ?_⟩
  simp only [readTurn, sound, found, if_neg left]
  rfl

theorem delivered_setPos (source : SegmentedSource) (pos : Nat) :
    (source.setPos pos).delivered = source.delivered := rfl

theorem chunks_served (source : SegmentedSource) (room pos idx : Nat) (bytes : Bytes) :
    (((source.answer room bytes).setPos pos).shared.retainFrom idx).chunks =
      (source.shared.retainFrom idx).chunks := by
  simp only [ReaderState.retainFrom]
  split <;> rfl

theorem ReadReturns.chunks (returns : source.ReadReturns next) :
    next.shared.chunks = (source.shared.retainFrom (source.pos / chunkSize)).chunks := by
  obtain ⟨room, bytes, reading, rfl, delivered⟩ := returns
  -- a turn that does not return leaves the record of reads as it was
  have unanswered {other : SegmentedSource} (same : other.delivered = source.delivered) :
      other.delivered ≠ source.delivered ++ [(source.readFrom, room, bytes)] := by
    intro longer
    have lengths := congrArg List.length (same.symm.trans longer)
    rw [length_append, length_singleton] at lengths
    omega
  revert delivered
  simp only [readTurn]
  split
  · exact fun delivered => absurd delivered (unanswered rfl)
  · split
    · split
      · exact fun delivered => absurd delivered (unanswered (delivered_setPos source _))
      · exact fun _ => chunks_served source room _ _ _
    · exact fun delivered => absurd delivered (unanswered rfl)
    · exact fun delivered => absurd delivered (unanswered rfl)
    · exact fun delivered => absurd delivered (unanswered rfl)

theorem ReadReturns.ready (returns : source.ReadReturns next) {idx : Nat}
    (ready : next.shared.cursorReady idx = true) :
    source.shared.cursorReady idx = true ∧ source.pos / chunkSize ≤ idx + 1 := by
  have chunks := returns.chunks
  simp only [ReaderState.retainFrom] at chunks
  by_cases far : 1 < source.pos / chunkSize
  · rw [if_pos far] at chunks
    obtain ⟨kept, before⟩ := ReaderState.ready_of_retained chunks ready
    exact ⟨before, by omega⟩
  · rw [if_neg far] at chunks
    rw [ReaderState.cursorReady_congr (congrFun chunks idx)] at ready
    exact ⟨ready, by omega⟩

/-- While the position never moves back, at most five chunks are ready after a read, whatever
the length of the resource. -/
theorem ready_bounded_forward (canonicalReason : Nat → Option String) (len : Nat)
    (acts : List SegmentedAct) (source final : SegmentedSource)
    (onward : (segmentedSystem canonicalReason).Meets (NeverBack canonicalReason) (new len) acts)
    (reached : (segmentedSystem canonicalReason).run (new len) acts = some source)
    (returns : source.ReadReturns final) : final.HoldsAtMost (prefetchChunks + 1) := by
  have forward : source.Forward :=
    (segmentedSystem canonicalReason).run_invariant (NeverBack canonicalReason) Forward
      (fun forward => forward.step) acts (new_forward len) onward reached
  intro held ready
  have window : held ⊆ Finset.Ico (source.pos / chunkSize - 1)
      (source.pos / chunkSize + prefetchChunks) := by
    intro idx member
    obtain ⟨before, near⟩ := returns.ready (ready idx member)
    rw [Finset.mem_Ico]
    exact ⟨by omega, forward.ready idx before⟩
  calc held.card ≤ (Finset.Ico (source.pos / chunkSize - 1)
          (source.pos / chunkSize + prefetchChunks)).card := Finset.card_le_card window
    _ = source.pos / chunkSize + prefetchChunks - (source.pos / chunkSize - 1) := Nat.card_Ico _ _
    _ ≤ prefetchChunks + 1 := by omega

def fourBytes : ChunkAnswer where
  response := { status := 206, contentRange := some "bytes 0-3/4" }
  body := [.ok [3, 1, 4, 1]]

/-- A resource of four bytes is fetched and read. -/
theorem one_chunk_after_read :
    ∃ source, (segmentedSystem reasons).run (new 4)
        [.claim 0, .answered 0 (.ok fourBytes), .read 1] = some source ∧
      source.ReadReturns (source.readTurn 1) ∧
      (source.readTurn 1).HoldsAtMost (prefetchChunks + 1) := by
  have outcome : ((segmentedSystem reasons).run (new 4)
      [.claim 0, .answered 0 (.ok fourBytes), .read 1]).map (fun source =>
        (source.reading, source.pos, source.shared.fatalError, source.shared.chunks 0)) =
      some (some 1, 0, none, some (.ready [3, 1, 4, 1])) := by decide
  obtain ⟨source, reached, view⟩ := map_eq_some_iff.mp outcome
  simp only [Prod.mk.injEq] at view
  obtain ⟨reading, position, sound, ready⟩ := view
  have found : source.shared.chunks (source.pos / chunkSize) = some (.ready [3, 1, 4, 1]) := by
    rw [position, Nat.zero_div]
    exact ready
  have returns : source.ReadReturns (source.readTurn 1) :=
    readReturns_of_ready reading sound found (by rw [position]; decide)
  exact ⟨source, reached, returns,
    ready_bounded_forward reasons 4 _ source _ (by decide) reached returns⟩

/-! ## Going back -/

/-- A chunk as the server sends it when it is asked for the interval from `offset` on. -/
def fullChunk (offset : Nat) : ChunkAnswer where
  response :=
    { status := 206, contentRange := some (contentRangeText offset (offset + chunkSize - 1)) }
  body := [.ok (List.replicate chunkSize 0)]

variable (canonicalReason : Nat → Option String)

theorem fetchChunk_whole {offset size : Nat} {bytes : Bytes} (whole : bytes.length = size)
    (positive : 0 < size) (fits : offset + size < 2 ^ 64) :
    fetchChunk canonicalReason offset size (.ok
      { response :=
          { status := 206, contentRange := some (contentRangeText offset (offset + size - 1)) }
        body := [.ok bytes] }) = .ok bytes := by
  have parsed := parseContentRange_text (show offset < 2 ^ 64 by omega)
    (show offset + size - 1 < 2 ^ 64 by omega)
  have count : offset + size - 1 - offset + 1 = size := by omega
  have valid : validateContentRange
      { status := 206, contentRange := some (contentRangeText offset (offset + size - 1)) }
      offset (some size) = .ok size := by
    simp only [validateContentRange, bind_some, parsed, count]
    rw [if_neg (by omega), if_neg (by simp)]
  have collected : collectBody size [] [.ok bytes] = .ok bytes := by
    simp [collectBody, whole]
  simp only [fetchChunk, bind, Except.bind, valid]
  simp [collected]

theorem fetchChunk_fullChunk {offset : Nat} (fits : offset + chunkSize < 2 ^ 64) :
    fetchChunk canonicalReason offset chunkSize (.ok (fullChunk offset)) =
      .ok (List.replicate chunkSize 0) :=
  fetchChunk_whole canonicalReason length_replicate (by decide) fits

def goTo (idx : Nat) : List SegmentedAct := [.seek (.start (idx * chunkSize)), .claim 0]

def loadChunk (idx : Nat) : List SegmentedAct :=
  goTo idx ++ [.answered 0 (.ok (fullChunk (idx * chunkSize)))]

/-- Of a resource of `count` chunks those from `first` on are ready, and those before it have
not been asked for. -/
structure Loaded (count first : Nat) (source : SegmentedSource) : Prop where
  isOpen : source.isOpen = true
  idle : source.reading = none
  len : source.len = count * chunkSize
  total : source.shared.totalLen = count * chunkSize
  running : source.shared.isTerminated = false
  sound : source.shared.fatalError = none
  worker : source.workers 0 = .seeking
  ready : ∀ idx, first ≤ idx → idx < count →
    source.shared.chunks idx = some (.ready (List.replicate chunkSize 0))
  waiting : ∀ idx, idx < first → source.shared.Claimable idx

theorem new_loaded (count : Nat) : (new (count * chunkSize)).Loaded count count where
  isOpen := rfl
  idle := rfl
  len := rfl
  total := rfl
  running := rfl
  sound := rfl
  worker := rfl
  ready := fun idx above below => absurd below (Nat.not_lt_of_le above)
  waiting := by
    intro idx _
    by_cases first : idx = 0
    · exact .inr ⟨0, by simp only [new, first, update_self]⟩
    · exact .inl (by simp only [new, update_of_ne first])

theorem claim_cursor {state : ReaderState} {idx : Nat} (cursor : state.currentPos / chunkSize = idx)
    (before : ¬ state.totalLen ≤ chunkOffset idx) (claimable : state.Claimable idx) :
    ∃ retries, state.claim = some (idx, retries) := by
  rcases claimable with missing | ⟨retries, waits⟩
  · refine ⟨0, ?_⟩
    simp only [ReaderState.claim, cursor, ReaderState.tryClaimChunk, if_neg before, missing]
  · refine ⟨retries, ?_⟩
    simp only [ReaderState.claim, cursor, ReaderState.tryClaimChunk, if_neg before, waits]

def claimedAt (source : SegmentedSource) (idx retries : Nat) : SegmentedSource :=
  let sought := source.setPos (idx * chunkSize)
  { sought with shared := sought.shared.insert idx .downloading }.setWorker 0
    (.fetching idx retries (idx * chunkSize) chunkSize)

theorem Loaded.claims {count first : Nat} (loaded : source.Loaded count (first + 1))
    (inside : first < count) (fits : count * chunkSize < 2 ^ 64) :
    ∃ retries, (segmentedSystem canonicalReason).run source (goTo first) =
      some (source.claimedAt first retries) := by
  have positive : 0 < chunkSize := by decide
  have ends : first * chunkSize + chunkSize ≤ count * chunkSize := by
    rw [← Nat.succ_mul]
    exact Nat.mul_le_mul_right chunkSize inside
  have offset : chunkOffset first = first * chunkSize := Nat.mod_eq_of_lt (by omega)
  have sought : (segmentedSystem canonicalReason).step source
      (.seek (.start (first * chunkSize))) = some (source.setPos (first * chunkSize)) := by
    have target : min (first * chunkSize) source.len = first * chunkSize := by
      rw [loaded.len]
      omega
    simp [segmentedSystem, step, seek, loaded.isOpen,
      loaded.idle, target]
  obtain ⟨retries, claims⟩ : ∃ retries,
      (source.setPos (first * chunkSize)).shared.claim = some (first, retries) := by
    apply claim_cursor
    · exact Nat.mul_div_cancel first positive
    · rw [offset]
      simp only [setPos, loaded.total]
      omega
    · exact loaded.waiting first (Nat.lt_succ_self first)
  refine ⟨retries, ?_⟩
  have total : (source.setPos (first * chunkSize)).shared.totalLen = count * chunkSize :=
    loaded.total
  have size : min chunkSize (count * chunkSize - first * chunkSize) = chunkSize := by omega
  have claimed : (segmentedSystem canonicalReason).step (source.setPos (first * chunkSize))
      (.claim 0) = some (source.claimedAt first retries) := by
    have free : (source.setPos (first * chunkSize)).workers 0 = .seeking := loaded.worker
    have running : (source.setPos (first * chunkSize)).shared.isTerminated = false :=
      loaded.running
    simp only [segmentedSystem, step, if_pos free, workerClaims, running, claims,
      offset, total, size, Bool.false_eq_true, if_false, claimedAt]
  rw [goTo, System.run_cons_of_step _ _ sought]
  exact System.run_cons_of_step _ [] claimed

def storedAt (source : SegmentedSource) (idx retries : Nat) : SegmentedSource :=
  let claimed := source.claimedAt idx retries
  { claimed with
    shared := claimed.shared.insert idx (.ready (List.replicate chunkSize 0)) }.setWorker 0 .seeking

theorem storedAt_chunks {idx retries other : Nat} (distinct : other ≠ idx) :
    (source.storedAt idx retries).shared.chunks other = source.shared.chunks other :=
  (update_of_ne distinct ..).trans (update_of_ne distinct ..)

theorem workerStores_ok (source : SegmentedSource) (worker idx retries : Nat) {size : Nat}
    {bytes : Bytes} (whole : bytes.length = size) :
    source.workerStores worker idx retries size (.ok bytes) =
      { source with shared := source.shared.insert idx (.ready bytes) }.setWorker worker
        .seeking := by
  simp [workerStores, whole]

theorem Loaded.load {count first : Nat} (loaded : source.Loaded count (first + 1))
    (inside : first < count) (fits : count * chunkSize < 2 ^ 64) :
    ∃ next, (segmentedSystem canonicalReason).run source (loadChunk first) = some next ∧
      next.Loaded count first ∧ next.pos = first * chunkSize := by
  have ends : first * chunkSize + chunkSize ≤ count * chunkSize := by
    rw [← Nat.succ_mul]
    exact Nat.mul_le_mul_right chunkSize inside
  obtain ⟨retries, claimed⟩ := loaded.claims canonicalReason inside fits
  have fetched := fetchChunk_fullChunk canonicalReason
    (show first * chunkSize + chunkSize < 2 ^ 64 by omega)
  have stored : (segmentedSystem canonicalReason).step (source.claimedAt first retries)
      (.answered 0 (.ok (fullChunk (first * chunkSize)))) =
        some (source.storedAt first retries) := by
    have fetching : (source.claimedAt first retries).workers 0 =
        .fetching first retries (first * chunkSize) chunkSize := by
      simp only [claimedAt, setWorker, update_self]
    simp only [segmentedSystem, step, fetching, fetched,
      workerStores_ok _ 0 first retries length_replicate, storedAt]
  refine ⟨source.storedAt first retries, ?_, ?_, rfl⟩
  · rw [loadChunk, System.run_append _ _ _ _ _ claimed]
    exact System.run_cons_of_step _ [] stored
  · refine { loaded with worker := ?_, ready := ?_, waiting := ?_ }
    · simp only [storedAt, setWorker, update_self]
    · intro idx above below
      by_cases same : idx = first
      · rw [same]
        exact update_self ..
      · rw [storedAt_chunks same]
        exact loaded.ready idx (by omega) below
    · intro idx before
      rw [ReaderState.Claimable, storedAt_chunks (Nat.ne_of_lt before)]
      exact loaded.waiting idx (Nat.lt_succ_of_lt before)

theorem loaded_back {count : Nat} (fits : count * chunkSize < 2 ^ 64) (loads : Nat)
    (enough : loads ≤ count) :
    ∃ acts source, (segmentedSystem canonicalReason).run (new (count * chunkSize)) acts =
        some source ∧ source.Loaded count (count - loads) ∧
      (0 < loads → source.pos = (count - loads) * chunkSize) := by
  induction loads with
  | zero => exact ⟨[], _, rfl, new_loaded count, fun some => absurd some (Nat.lt_irrefl 0)⟩
  | succ loads ih =>
    obtain ⟨acts, source, reached, loaded, -⟩ := ih (by omega)
    rw [show count - loads = count - (loads + 1) + 1 by omega] at loaded
    obtain ⟨next, ran, loadedNext, position⟩ :=
      loaded.load canonicalReason (by omega) fits
    refine ⟨acts ++ loadChunk (count - (loads + 1)), next, ?_, loadedNext, fun _ => position⟩
    rw [System.run_append _ _ _ _ _ reached]
    exact ran

theorem Loaded.read {count : Nat} (loaded : source.Loaded count 0) (nonempty : 0 < count)
    (start : source.pos = 0) :
    ∃ entered final, source.step canonicalReason (.read 1) = some entered ∧
      entered.ReadReturns final ∧ final.shared.chunks = source.shared.chunks := by
  have positive : 0 < chunkSize := by decide
  have before : ¬ source.len ≤ source.pos := by
    rw [loaded.len, start]
    exact Nat.not_le_of_lt (Nat.mul_pos nonempty positive)
  let entered := { source.setPos source.pos with reading := some 1, readFrom := source.pos }
  have position : entered.pos = 0 := start
  have found : entered.shared.chunks (entered.pos / chunkSize) =
      some (.ready (List.replicate chunkSize 0)) := by
    rw [position, Nat.zero_div]
    exact loaded.ready 0 le_rfl nonempty
  have left : (List.replicate chunkSize (0 : UInt8)).length - entered.pos % chunkSize ≠ 0 := by
    rw [position, Nat.zero_mod, length_replicate]
    exact Nat.ne_of_gt positive
  have returns : entered.ReadReturns (entered.readTurn 1) :=
    readReturns_of_ready rfl loaded.sound found left
  refine ⟨entered, _, ?_, returns, ?_⟩
  · simp [step, loaded.isOpen, loaded.idle, beginRead, before, entered, setPos]
  · rw [returns.chunks, position, Nat.zero_div]
    rfl

/-- No bound below the number of chunks of the longest resources holds after every read. -/
theorem ready_chunks_unbounded :
    ¬ ∃ bound, bound + 1 < 2 ^ 64 / chunkSize ∧
      ∀ (canonicalReason : Nat → Option String) (len : Nat) (acts : List SegmentedAct)
        (source final : SegmentedSource), len < 2 ^ 64 →
        (segmentedSystem canonicalReason).run (new len) acts = some source →
        source.ReadReturns final → final.HoldsAtMost bound := by
  rintro ⟨bound, small, bounded⟩
  have fits : (bound + 1) * chunkSize < 2 ^ 64 := by
    simp only [chunkSize] at small ⊢
    omega
  obtain ⟨acts, source, reached, loaded, position⟩ :=
    loaded_back reasons fits (bound + 1) le_rfl
  rw [Nat.sub_self] at loaded position
  rw [Nat.zero_mul] at position
  obtain ⟨entered, final, enters, returns, chunks⟩ :=
    loaded.read reasons (Nat.succ_pos bound) (position (Nat.succ_pos bound))
  have run : (segmentedSystem reasons).run (new ((bound + 1) * chunkSize)) (acts ++ [.read 1]) =
      some entered := by
    rw [System.run_append _ _ _ _ _ reached]
    exact System.run_cons_of_step _ [] enters
  have few := bounded reasons _ _ entered final fits run returns (Finset.range (bound + 1)) (by
    intro idx member
    rw [ReaderState.cursorReady, chunks,
      loaded.ready idx (Nat.zero_le idx) (Finset.mem_range.mp member)])
  rw [Finset.card_range] at few
  omega

end SegmentedSource

end KizunaLink.Source
