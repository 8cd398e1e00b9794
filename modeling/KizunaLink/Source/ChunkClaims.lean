import KizunaLink.Source.Segmented

/-!
# Who downloads which chunk

A worker claims a chunk whose entry is missing or empty and marks it as being
downloaded; the mark keeps others away.  Eviction takes the mark away with the entry,
so the claim is exclusive as long as the reader does not come back to a chunk that was
evicted under a worker.  `MapStep` says once what a step can do to the entries and to
the workers.
-/

set_option autoImplicit false

namespace KizunaLink.Source

open KizunaLink.Lib Option Function

def Worker.chunk : Worker → Option Nat
  | .fetching idx _ _ _ => some idx
  | .seeking | .ended => none

namespace ReaderState

variable {state : ReaderState} {idx claimed retries : Nat}

/-- The entry can be claimed: it is missing, or waits for its next attempt. -/
def Claimable (state : ReaderState) (idx : Nat) : Prop :=
  state.chunks idx = none ∨ ∃ retries, state.chunks idx = some (.empty retries)

theorem Claimable.not_ready (claimable : state.Claimable idx) : state.cursorReady idx = false := by
  rcases claimable with missing | ⟨retries, waits⟩
  · rw [cursorReady, missing]
  · rw [cursorReady, waits]

theorem Claimable.not_downloading (claimable : state.Claimable idx) :
    state.chunks idx ≠ some .downloading := by
  intro downloading
  rcases claimable with missing | ⟨retries, waits⟩
  · rw [missing] at downloading
    cases downloading
  · rw [waits] at downloading
    cases downloading

theorem tryClaimChunk_claimable (claims : state.tryClaimChunk idx = some (claimed, retries)) :
    claimed = idx ∧ state.Claimable idx := by
  obtain ⟨-, claims⟩ := ite_none_left_eq_some.mp claims
  split at claims
  · rename_i found
    cases claims
    exact ⟨rfl, .inr ⟨retries, found⟩⟩
  · rename_i missing
    cases claims
    exact ⟨rfl, .inl missing⟩
  · cases claims
  · cases claims

theorem claimAhead_claimable {currentChunk start count : Nat}
    (claims : state.claimAhead currentChunk (List.range' start count) = some (claimed, retries)) :
    currentChunk + start ≤ claimed ∧ claimed < currentChunk + start + count ∧
      state.Claimable claimed := by
  induction count generalizing start with
  | zero => cases claims
  | succ count ih =>
    obtain ⟨-, claims⟩ := ite_none_left_eq_some.mp claims
    split at claims
    · rename_i found
      cases claims
      obtain ⟨rfl, claimable⟩ := tryClaimChunk_claimable found
      exact ⟨le_rfl, by omega, claimable⟩
    · obtain ⟨above, below, claimable⟩ := ih claims
      exact ⟨by omega, by omega, claimable⟩

theorem claim_claimable (claims : state.claim = some (claimed, retries)) :
    state.currentPos / chunkSize ≤ claimed ∧
      claimed < state.currentPos / chunkSize + prefetchChunks ∧ state.Claimable claimed := by
  simp only [claim] at claims
  split at claims
  · rename_i found
    cases claims
    obtain ⟨rfl, claimable⟩ := tryClaimChunk_claimable found
    exact ⟨le_rfl, Nat.lt_add_of_pos_right (by decide), claimable⟩
  · obtain ⟨above, below, claimable⟩ := claimAhead_claimable claims
    refine ⟨by omega, ?_, claimable⟩
    -- the window is that of the look-ahead, or of two chunks
    simp only [prefetchChunks] at below ⊢
    split at below <;> omega

theorem cursorReady_congr {other : ReaderState} (same : other.chunks idx = state.chunks idx) :
    other.cursorReady idx = state.cursorReady idx := by
  rw [cursorReady, cursorReady, same]

theorem cursorReady_of_update {other : ReaderState} {entry : Option ChunkState} {changed : Nat}
    (chunks : other.chunks = Function.update state.chunks changed entry)
    (distinct : idx ≠ changed) : other.cursorReady idx = state.cursorReady idx := by
  apply cursorReady_congr
  rw [chunks, update_of_ne distinct]

theorem ready_of_retained {other : ReaderState} {first : Nat}
    (chunks : other.chunks = fun number => if first ≤ number then state.chunks number else none)
    (ready : other.cursorReady idx = true) : first ≤ idx ∧ state.cursorReady idx = true := by
  by_cases kept : first ≤ idx
  · have same : other.chunks idx = state.chunks idx := by
      rw [chunks]
      exact if_pos kept
    rw [cursorReady_congr same] at ready
    exact ⟨kept, ready⟩
  · rw [cursorReady, chunks] at ready
    simp only [if_neg kept] at ready
    cases ready

theorem cursorReady_of_ready {bytes : Bytes} (ready : state.chunks idx = some (.ready bytes)) :
    state.cursorReady idx = true := by
  rw [cursorReady, ready]

end ReaderState

namespace SegmentedSource

variable {canonicalReason : Nat → Option String} {source next : SegmentedSource}
  {act : SegmentedAct}

/-- The effect of a step on the entries, the workers and the error. -/
inductive MapStep (source next : SegmentedSource) : SegmentedAct → Prop where
  /-- The entries stay, and no worker begins a download. -/
  | keeps {act : SegmentedAct} (quiet : ∀ worker answer, act ≠ .answered worker answer)
      (chunks : next.shared.chunks = source.shared.chunks)
      (workers : ∀ worker idx, (next.workers worker).chunk = some idx →
        (source.workers worker).chunk = some idx)
      (fatal : next.shared.fatalError = source.shared.fatalError) : MapStep source next act
  /-- The reader asks for its chunk. -/
  | awaits {idx : Nat} (missing : source.shared.chunks idx = none)
      (chunks : next.shared.chunks =
        Function.update source.shared.chunks idx (some (.empty 0)))
      (workers : next.workers = source.workers)
      (fatal : next.shared.fatalError = source.shared.fatalError) : MapStep source next .turn
  | evicts
      (chunks : next.shared.chunks = fun other =>
        if source.pos / chunkSize - 1 ≤ other then source.shared.chunks other else none)
      (workers : next.workers = source.workers)
      (fatal : next.shared.fatalError = source.shared.fatalError) : MapStep source next .turn
  | claims {worker idx retries : Nat} (claimed : source.shared.claim = some (idx, retries))
      (chunks : next.shared.chunks = Function.update source.shared.chunks idx (some .downloading))
      (workers : ∀ other, (next.workers other).chunk =
        if other = worker then some idx else (source.workers other).chunk)
      (fatal : next.shared.fatalError = source.shared.fatalError) :
      MapStep source next (.claim worker)
  /-- A worker is done with its chunk, well or badly. -/
  | answers {worker idx : Nat} {answer : Except String ChunkAnswer}
      {entry : Option ChunkState} (fetching : (source.workers worker).chunk = some idx)
      (chunks : next.shared.chunks = Function.update source.shared.chunks idx entry)
      (workers : ∀ other, (next.workers other).chunk =
        if other = worker then none else (source.workers other).chunk) :
      MapStep source next (.answered worker answer)

theorem chunk_setWorker (source : SegmentedSource) (worker : Nat) (point : Worker) (other : Nat) :
    ((source.setWorker worker point).workers other).chunk =
      if other = worker then point.chunk else (source.workers other).chunk := by
  simp only [setWorker, update_apply]
  split <;> rfl

theorem chunk_ended {worker other idx : Nat}
    (downloads : ((source.setWorker worker .ended).workers other).chunk = some idx) :
    (source.workers other).chunk = some idx := by
  rw [chunk_setWorker] at downloads
  split at downloads
  · cases downloads
  · exact downloads

theorem MapStep.same (quiet : ∀ worker answer, act ≠ .answered worker answer)
    (chunks : next.shared.chunks = source.shared.chunks) (workers : next.workers = source.workers)
    (fatal : next.shared.fatalError = source.shared.fatalError) : MapStep source next act :=
  .keeps quiet chunks (fun worker idx downloads => by rwa [workers] at downloads) fatal

-- stated for any position: with that of the source the kernel would compare the arithmetic
theorem mapStep_setPos (source : SegmentedSource) (pos : Nat)
    (quiet : ∀ worker answer, act ≠ .answered worker answer) :
    MapStep source (source.setPos pos) act :=
  .same quiet rfl rfl rfl

theorem mapStep_served (source : SegmentedSource) (room pos : Nat) (bytes : Bytes) :
    let served := (source.answer room bytes).setPos pos
    MapStep source { served with shared := served.shared.retainFrom (source.pos / chunkSize) }
      .turn := by
  simp only [ReaderState.retainFrom]
  split
  · exact .evicts rfl rfl rfl
  · exact .same (fun _ _ other => by cases other) rfl rfl rfl

theorem mapStep_readTurn (source : SegmentedSource) (room : Nat) :
    MapStep source (source.readTurn room) .turn := by
  have quiet : ∀ worker answer, SegmentedAct.turn ≠ .answered worker answer :=
    fun _ _ other => by cases other
  simp only [readTurn]
  split
  · exact .same quiet rfl rfl rfl
  · split
    · split
      · exact mapStep_setPos source _ quiet
      · exact mapStep_served source room _ _
    · exact .same quiet rfl rfl rfl
    · exact .same quiet rfl rfl rfl
    · rename_i missing
      exact .awaits missing rfl rfl rfl

theorem mapStep_workerClaims (source : SegmentedSource) (worker : Nat) :
    MapStep source (source.workerClaims worker) (.claim worker) := by
  simp only [workerClaims]
  split
  · exact .keeps (fun _ _ other => by cases other) rfl (fun _ _ => chunk_ended) rfl
  · split
    · exact .same (fun _ _ other => by cases other) rfl rfl rfl
    · rename_i idx retries claimed
      exact .claims claimed rfl (chunk_setWorker _ worker _) rfl

theorem chunks_requeueOrFatal (state : ReaderState) (idx retries : Nat) (problem : String) :
    ∃ entry, (state.requeueOrFatal idx retries problem).chunks =
      Function.update state.chunks idx entry := by
  simp only [ReaderState.requeueOrFatal]
  split
  · exact ⟨state.chunks idx, (update_eq_self idx state.chunks).symm⟩
  · exact ⟨some (.empty (retries + 1)), rfl⟩

theorem mapStep_workerStores {worker idx retries offset size : Nat}
    (fetching : source.workers worker = .fetching idx retries offset size)
    (result : Except String Bytes) (answer : Except String ChunkAnswer) :
    MapStep source (source.workerStores worker idx retries size result)
      (.answered worker answer) := by
  have entry : ∃ entry, (source.workerStores worker idx retries size result).shared.chunks =
      Function.update source.shared.chunks idx entry := by
    cases result with
    | error problem => exact chunks_requeueOrFatal source.shared idx retries problem
    | ok bytes =>
      simp only [workerStores, setWorker]
      split
      · exact chunks_requeueOrFatal source.shared idx retries _
      · exact ⟨some (.ready bytes), rfl⟩
  obtain ⟨entry, chunks⟩ := entry
  exact .answers (by rw [fetching]; rfl) chunks (chunk_setWorker _ worker .seeking)

theorem mapStep (stepped : source.step canonicalReason act = some next) :
    MapStep source next act := by
  cases act with
  | read room =>
    obtain ⟨-, rfl⟩ := ite_some_none_eq_some.mp stepped
    simp only [beginRead]
    split
    · exact .same (fun _ _ other => by cases other) rfl rfl rfl
    · exact .same (fun _ _ other => by cases other) rfl rfl rfl
  | turn =>
    obtain ⟨room, -, rfl⟩ := map_eq_some_iff.mp stepped
    exact mapStep_readTurn source room
  | seek origin =>
    obtain ⟨-, rfl⟩ := ite_some_none_eq_some.mp stepped
    exact mapStep_setPos source _ (fun _ _ other => by cases other)
  | drop =>
    obtain ⟨-, rfl⟩ := ite_some_none_eq_some.mp stepped
    exact .same (fun _ _ other => by cases other) rfl rfl rfl
  | claim worker =>
    obtain ⟨-, rfl⟩ := ite_some_none_eq_some.mp stepped
    exact mapStep_workerClaims source worker
  | answered worker answer =>
    simp only [SegmentedSource.step] at stepped
    split at stepped
    · rename_i idx retries offset size fetching
      cases stepped
      exact mapStep_workerStores fetching _ answer
    · cases stepped
    · cases stepped
  | abort worker =>
    obtain ⟨-, ⟨⟩⟩ := ite_none_left_eq_some.mp stepped
    exact .keeps (fun _ _ other => by cases other) rfl (fun _ _ => chunk_ended) rfl

/-! ## Exclusive downloads -/

/-- No two workers download one chunk. -/
def Exclusive (source : SegmentedSource) : Prop :=
  ∀ first second idx, (source.workers first).chunk = some idx →
    (source.workers second).chunk = some idx → first = second

/-- What is ready stays as it is, or is evicted. -/
def KeepsReady (source : SegmentedSource) (act : SegmentedAct) (next : SegmentedSource) : Prop :=
  ∀ idx bytes, source.shared.chunks idx = some (.ready bytes) →
    next.shared.chunks idx = some (.ready bytes) ∨
      act = .turn ∧ idx + 1 < source.pos / chunkSize ∧ next.shared.chunks idx = none

/-- The error is touched only when a worker is done with a chunk, which is not ready then. -/
def FailsForMissing (source : SegmentedSource) (act : SegmentedAct) (next : SegmentedSource) :
    Prop :=
  match act with
  | .answered worker _ =>
    ∀ idx, (source.workers worker).chunk = some idx → source.shared.cursorReady idx = false
  | .read _ | .turn | .seek _ | .drop | .claim _ | .abort _ =>
    next.shared.fatalError = source.shared.fatalError

/-- At a claim, every download still has its mark or lies behind the cursor. -/
def MarkedOrBehind (source : SegmentedSource) (act : SegmentedAct) : Prop :=
  ∀ claimer, act = .claim claimer → ∀ worker idx, (source.workers worker).chunk = some idx →
    source.shared.chunks idx = some .downloading ∨ idx < source.shared.currentPos / chunkSize

structure Claimed (source : SegmentedSource) : Prop where
  exclusive : source.Exclusive
  missing : ∀ worker idx, (source.workers worker).chunk = some idx →
    source.shared.cursorReady idx = false

theorem new_claimed (len : Nat) : (new len).Claimed :=
  ⟨fun _ _ _ downloads => (by cases downloads), fun _ _ downloads => (by cases downloads)⟩

/-- The chunk that is claimed has no other worker: a mark would have kept this one away, and
claims are not made behind the cursor. -/
theorem claimed_alone {worker idx retries : Nat} (inTime : source.MarkedOrBehind (.claim worker))
    (claims : source.shared.claim = some (idx, retries)) (other : Nat) :
    (source.workers other).chunk ≠ some idx := by
  intro downloads
  obtain ⟨above, -, claimable⟩ := ReaderState.claim_claimable claims
  rcases inTime worker rfl other idx downloads with marked | behind
  · exact claimable.not_downloading marked
  · omega

theorem Claimed.mapStep (claimed : source.Claimed) (inTime : source.MarkedOrBehind act)
    (step : MapStep source next act) : next.Claimed := by
  cases step with
  | keeps quiet chunks workers fatal =>
    constructor
    · intro first second idx firstOn secondOn
      exact claimed.exclusive first second idx (workers _ _ firstOn) (workers _ _ secondOn)
    · intro worker idx downloads
      rw [ReaderState.cursorReady_congr (congrFun chunks idx)]
      exact claimed.missing worker idx (workers _ _ downloads)
  | @awaits idx missing chunks workers fatal =>
    constructor
    · rw [Exclusive, workers]
      exact claimed.exclusive
    · intro worker other downloads
      rw [workers] at downloads
      by_cases same : other = idx
      · rw [ReaderState.cursorReady, chunks, same, update_self]
      · rw [ReaderState.cursorReady_of_update chunks same]
        exact claimed.missing worker other downloads
  | evicts chunks workers fatal =>
    constructor
    · rw [Exclusive, workers]
      exact claimed.exclusive
    · intro worker other downloads
      rw [workers] at downloads
      refine Bool.eq_false_iff.mpr fun ready => ?_
      have before := (ReaderState.ready_of_retained chunks ready).2
      rw [claimed.missing worker other downloads] at before
      cases before
  | @claims worker idx retries claims chunks workers fatal =>
    have alone := claimed_alone inTime claims
    constructor
    · intro first second other firstOn secondOn
      rw [workers] at firstOn secondOn
      split at firstOn <;> split at secondOn
      · rename_i isFirst isSecond
        rw [isFirst, isSecond]
      · cases firstOn
        exact absurd secondOn (alone second)
      · cases secondOn
        exact absurd firstOn (alone first)
      · exact claimed.exclusive first second other firstOn secondOn
    · intro worker other downloads
      rw [workers] at downloads
      by_cases same : other = idx
      · rw [ReaderState.cursorReady, chunks, same, update_self]
      · rw [ReaderState.cursorReady_of_update chunks same]
        split at downloads
        · cases downloads
          exact absurd rfl same
        · exact claimed.missing worker other downloads
  | @answers worker idx answer entry fetching chunks workers =>
    -- the workers that go on are on other chunks
    have goesOn {other number : Nat} (downloads : (next.workers other).chunk = some number) :
        other ≠ worker ∧ (source.workers other).chunk = some number := by
      rw [workers] at downloads
      split at downloads
      · cases downloads
      · rename_i distinct
        exact ⟨distinct, downloads⟩
    constructor
    · intro first second other firstOn secondOn
      exact claimed.exclusive first second other (goesOn firstOn).2 (goesOn secondOn).2
    · intro other number downloads
      obtain ⟨distinct, before⟩ := goesOn downloads
      have otherChunk : number ≠ idx := by
        intro same
        rw [same] at before
        exact distinct (claimed.exclusive other worker idx before fetching)
      rw [ReaderState.cursorReady_of_update chunks otherChunk]
      exact claimed.missing other number before

theorem Claimed.keepsReady (claimed : source.Claimed) (step : MapStep source next act) :
    source.KeepsReady act next := by
  intro idx bytes ready
  have isReady := ReaderState.cursorReady_of_ready ready
  -- an entry that a step writes was not ready
  have elsewhere {changed : Nat} {entry : Option ChunkState}
      (chunks : next.shared.chunks = Function.update source.shared.chunks changed entry)
      (notReady : source.shared.cursorReady changed = false) :
      next.shared.chunks idx = some (.ready bytes) := by
    have distinct : idx ≠ changed := by
      intro same
      rw [same, notReady] at isReady
      cases isReady
    rw [chunks, update_of_ne distinct]
    exact ready
  cases step with
  | keeps quiet chunks workers fatal =>
    rw [chunks]
    exact .inl ready
  | awaits missing chunks workers fatal =>
    exact .inl (elsewhere chunks (by rw [ReaderState.cursorReady, missing]))
  | evicts chunks workers fatal =>
    by_cases kept : source.pos / chunkSize - 1 ≤ idx
    · refine .inl ?_
      rw [chunks]
      exact (if_pos kept).trans ready
    · refine .inr ⟨rfl, by omega, ?_⟩
      rw [chunks]
      exact if_neg kept
  | claims claims chunks workers fatal =>
    exact .inl (elsewhere chunks (ReaderState.claim_claimable claims).2.2.not_ready)
  | answers fetching chunks workers =>
    exact .inl (elsewhere chunks (claimed.missing _ _ fetching))

theorem Claimed.failsForMissing (claimed : source.Claimed) (step : MapStep source next act) :
    source.FailsForMissing act next := by
  cases step with
  | keeps quiet chunks workers fatal =>
    cases act with
    | answered worker answer => exact absurd rfl (quiet worker answer)
    | read | turn | seek | drop | claim | abort => exact fatal
  | awaits _ _ _ fatal | evicts _ _ fatal | claims _ _ _ fatal => exact fatal
  | answers fetching chunks workers => exact claimed.missing _

/-- With every claim made in time, in every run: no two workers download one chunk, and the
next step, whatever it is, leaves what is ready or evicts it, and sets the error only for a
chunk that is not ready. -/
theorem claims_exclusive_in_time (canonicalReason : Nat → Option String) (len : Nat)
    (acts : List SegmentedAct) (final : SegmentedSource)
    (inTime : (segmentedSystem canonicalReason).Meets MarkedOrBehind (new len) acts)
    (reached : (segmentedSystem canonicalReason).run (new len) acts = some final) :
    final.Exclusive ∧
      ∀ act next, final.step canonicalReason act = some next →
        final.KeepsReady act next ∧ final.FailsForMissing act next := by
  have claimed : final.Claimed :=
    (segmentedSystem canonicalReason).run_invariant MarkedOrBehind Claimed
      (fun claimed inTime stepped => claimed.mapStep inTime (mapStep stepped))
      acts (new_claimed len) inTime reached
  refine ⟨claimed.exclusive, ?_⟩
  intro act next stepped
  exact ⟨claimed.keepsReady (mapStep stepped), claimed.failsForMissing (mapStep stepped)⟩

def threeChunks : Nat := 2 * chunkSize + 4

/-- Two workers claim one chunk each. -/
theorem two_workers_exclusive :
    ∃ final, (segmentedSystem reasons).run (new threeChunks) [.claim 0, .claim 1] = some final ∧
      (final.workers 0).chunk = some 0 ∧ (final.workers 1).chunk = some 1 ∧ final.Exclusive := by
  have inTime : (segmentedSystem reasons).Meets MarkedOrBehind (new threeChunks)
      [.claim 0, .claim 1] := by
    refine ⟨fun _ _ _ _ downloads => (by cases downloads), fun next stepped => ⟨?_, ?_⟩⟩
    · intro _ _ worker idx downloads
      have step : MapStep (new threeChunks) next (.claim 0) := @mapStep reasons _ _ _ stepped
      cases step with
      | keeps quiet chunks workers fatal => cases workers worker idx downloads
      | claims claimed chunks workers fatal =>
        rw [workers] at downloads
        obtain ⟨-, rfl⟩ := ite_some_none_eq_some.mp downloads
        rw [chunks, update_self]
        exact .inl rfl
    · intro _ _
      trivial
  have outcome : ((segmentedSystem reasons).run (new threeChunks) [.claim 0, .claim 1]).map
      (fun source => ((source.workers 0).chunk, (source.workers 1).chunk)) =
        some (some 0, some 1) := by decide
  obtain ⟨final, reached, both⟩ := map_eq_some_iff.mp outcome
  simp only [Prod.mk.injEq] at both
  exact ⟨final, reached, both.1, both.2,
    (claims_exclusive_in_time reasons threeChunks _ final inTime reached).1⟩

def lastFour : ChunkAnswer where
  response := { status := 206, contentRange := some "bytes 524288-524291/*" }
  body := [.ok [1, 2, 3, 4]]

/-- A worker has claimed the first chunk when the reader goes to the third one, whose read
evicts the first; when the reader is back, another worker claims it again. -/
def backAndForth : List SegmentedAct :=
  [.claim 0, .seek (.start (2 * chunkSize)), .claim 1, .answered 1 (.ok lastFour), .read 1, .turn,
    .seek (.start 0), .claim 1]

theorem two_workers_on_one_chunk :
    ∃ final, (segmentedSystem reasons).run (new threeChunks) backAndForth = some final ∧
      ¬ final.Exclusive := by
  have outcome : ((segmentedSystem reasons).run (new threeChunks) backAndForth).map
      (fun source => ((source.workers 0).chunk, (source.workers 1).chunk)) =
        some (some 0, some 0) := by decide
  obtain ⟨final, reached, both⟩ := map_eq_some_iff.mp outcome
  simp only [Prod.mk.injEq] at both
  refine ⟨final, reached, fun exclusive => ?_⟩
  have same := exclusive 0 1 0 both.1 both.2
  cases same

end SegmentedSource

end KizunaLink.Source
