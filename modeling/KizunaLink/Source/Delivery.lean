import KizunaLink.Lib.Segment
import KizunaLink.Source.Conditions

/-!
# Every delivered byte is the resource's byte at its position

The buffer holds the resource from the reader's position on, and while no
command is pending the prefetcher goes on at its end, the frontier: on the open
response when there is one, by a request at `current_pos` when there is none.

Three things in `prefetch_loop` part `current_pos` from the socket or the buffer
from the reader: a chunk dropped for a pending seek, the bytes left over from a
skip, which `current_pos` does not count, and their being pushed without a look
at the command.  The condition keeps them from being acted on.
-/

set_option autoImplicit false

namespace KizunaLink.Source

open KizunaLink.Lib List Option

theorem drainChunks_nil (want : Nat) : drainChunks want [] = ([], []) := by
  cases want <;> rfl

theorem skipChunks_flatten (count : Nat) (chunks : List Bytes) :
    (skipChunks count chunks).flatten = chunks.flatten.drop count := by
  induction chunks generalizing count with
  | nil => cases count <;> simp [skipChunks]
  | cons front rest ih =>
    cases count with
    | zero => rfl
    | succ count =>
      by_cases whole : front.length ≤ count + 1
      · simp only [skipChunks, if_pos whole, ih, flatten_cons, drop_append, drop_eq_nil_of_le whole,
          nil_append]
      · have inside : count + 1 - front.length = 0 := by omega
        simp only [skipChunks, if_neg whole, flatten_cons, drop_append, inside, drop_zero]

theorem drainChunks_eq (want : Nat) (chunks : List Bytes) :
    drainChunks want chunks = (chunks.flatten.take want, skipChunks want chunks) := by
  induction chunks generalizing want with
  | nil => cases want <;> rfl
  | cons front rest ih =>
    cases want with
    | zero => rfl
    | succ want =>
      by_cases whole : front.length ≤ want + 1
      · simp only [drainChunks, skipChunks, if_pos whole, ih, flatten_cons, take_append,
          take_of_length_le whole]
      · have inside : want + 1 ≤ front.length := by omega
        simp only [drainChunks, skipChunks, if_neg whole, flatten_cons,
          take_append_of_le_length inside]

theorem drainChunks_append (want : Nat) (chunks : List Bytes) :
    (drainChunks want chunks).1 ++ (drainChunks want chunks).2.flatten = chunks.flatten := by
  rw [drainChunks_eq, skipChunks_flatten, take_append_drop]

namespace HttpSource

/-- The position of the next byte to be buffered. -/
def frontier (source : HttpSource) : Nat := source.pos + source.shared.buffered

/-- Without a pending command the prefetcher will go on at the frontier. -/
def Aligned (resource : Bytes) (source : HttpSource) : Prop :=
  match source.prefetcher.point with
  | .skipping target remaining socket =>
    source.shared.chunks = [] ∧ source.frontier = target ∧ socket + remaining = target
  | .pushingLeftover leftover =>
    source.shared.chunks = [] ∧ SegmentAt resource source.frontier leftover ∧
      source.prefetcher.response = some (source.frontier + leftover.length)
  | .received chunk =>
    SegmentAt resource source.frontier chunk ∧
      source.prefetcher.response = some (source.frontier + chunk.length)
  | .top | .gate | .reading =>
    source.prefetcher.response = some source.frontier ∨
      (source.prefetcher.response = none ∧ source.prefetcher.currentPos = source.frontier)
  | .fetching | .markingDone | .eofWait | .sleeping =>
    source.prefetcher.response = none ∧ source.prefetcher.currentPos = source.frontier
  | .failing _ | .exited => True

structure Faithful (resource : Bytes) (source : HttpSource) : Prop where
  counted : source.shared.buffered = source.shared.chunks.flatten.length
  held : SegmentAt resource source.pos source.shared.chunks.flatten
  delivered : ∀ entry ∈ source.delivered, SegmentAt resource entry.1 entry.2
  pending : ∀ target, source.shared.command = .seek target →
    source.pos = target ∧ source.shared.chunks = []
  aligned : source.shared.command = .continue → source.Aligned resource

variable {resource : Bytes} {source : HttpSource}

theorem Aligned.congr {other : HttpSource} (aligned : source.Aligned resource)
    (samePrefetcher : other.prefetcher = source.prefetcher)
    (sameFrontier : other.frontier = source.frontier)
    (emptied : source.shared.chunks = [] → other.shared.chunks = []) :
    other.Aligned resource := by
  simp only [Aligned, samePrefetcher, sameFrontier] at aligned ⊢
  cases point : source.prefetcher.point with
  | skipping _ _ _ | pushingLeftover _ =>
    rw [point] at aligned
    exact ⟨emptied aligned.1, aligned.2⟩
  | _ =>
    rw [point] at aligned
    exact aligned

section

variable (faithful : source.Faithful resource)
include faithful

theorem Faithful.read {size : Nat} {next : HttpSource}
    (stepped : source.read size = some next) : next.Faithful resource := by
  obtain ⟨-, stepped⟩ := ite_none_left_eq_some.mp stepped
  split at stepped
  · cases stepped
    exact { faithful with aligned := fun idle => (faithful.aligned idle).congr rfl rfl id }
  · cases stepped
    have joined := drainChunks_append size source.shared.chunks
    have lengths : source.shared.buffered =
        (drainChunks size source.shared.chunks).1.length +
          (drainChunks size source.shared.chunks).2.flatten.length := by
      rw [faithful.counted, ← joined, length_append]
    have held := faithful.held
    rw [← joined] at held
    obtain ⟨written, left⟩ := segmentAt_append.mp held
    refine ⟨?_, left, ?_, ?_, ?_⟩
    · simp only
      omega
    · intro entry member
      rcases mem_append.mp member with earlier | now
      · exact faithful.delivered entry earlier
      · cases mem_singleton.mp now
        exact written
    · intro target command
      obtain ⟨atTarget, empty⟩ := faithful.pending target command
      simp only [empty, drainChunks_nil, length_nil]
      exact ⟨atTarget, trivial⟩
    · intro idle
      apply (faithful.aligned idle).congr
      · rfl
      · simp only [frontier]
        omega
      · intro empty
        simp only [empty, drainChunks_nil]

theorem Faithful.seekTo (newPos : Nat) : (source.seekTo newPos).Faithful resource := by
  simp only [HttpSource.seekTo]
  split
  · exact faithful
  · split
    · rename_i moved inBuffer
      have counted := faithful.counted
      have within : newPos - source.pos ≤ source.shared.chunks.flatten.length := by omega
      have target : source.pos + (newPos - source.pos) = newPos := by omega
      refine ⟨?_, ?_, faithful.delivered, ?_, ?_⟩
      · simp only [SharedState.skip, skipChunks_flatten, length_drop]
        omega
      · have dropped := faithful.held.drop within
        rw [target] at dropped
        simpa only [SharedState.skip, skipChunks_flatten] using dropped
      · intro pendingTarget command
        obtain ⟨_, empty⟩ := faithful.pending pendingTarget command
        rw [empty] at within
        simp only [flatten_nil, length_nil] at within
        omega
      · intro idle
        apply (faithful.aligned idle).congr
        · rfl
        · simp only [frontier, SharedState.skip]
          omega
        · intro empty
          simp only [SharedState.skip, empty]
          cases newPos - source.pos <;> rfl
    · refine ⟨rfl, segmentAt_nil, faithful.delivered, ?_, nofun⟩
      intro target command
      cases command
      exact ⟨rfl, rfl⟩

theorem Faithful.seek (origin : SeekFrom) : (source.seek origin).Faithful resource := by
  simp only [HttpSource.seek]
  split
  · exact faithful
  · exact faithful.seekTo _

/-! ## The prefetcher -/

theorem Faithful.move (prefetcher : Prefetcher) (aligned : source.shared.command = .continue →
      Aligned resource { source with prefetcher }) :
    Faithful resource { source with prefetcher } :=
  { faithful with aligned := aligned }

theorem Faithful.beginSeek {target : Nat} (command : source.shared.command = .seek target)
    (fromSocket : ∀ socket ∈ source.prefetcher.response,
      0 < target - source.prefetcher.currentPos →
      target - source.prefetcher.currentPos ≤ maxSocketSkip →
      socket = source.prefetcher.currentPos) :
    (source.beginSeek target).Faithful resource := by
  obtain ⟨atTarget, _⟩ := faithful.pending target command
  have refetched : Faithful resource
      { source with
        shared := { source.shared.clear with command := .continue }
        prefetcher :=
          { point := .fetching, currentPos := target, response := none, retryCount := 0 } } :=
    ⟨rfl, segmentAt_nil, faithful.delivered, nofun, fun _ => ⟨rfl, atTarget.symm⟩⟩
  simp only [HttpSource.beginSeek]
  split
  · rename_i socket response
    split
    · rename_i near
      refine ⟨rfl, segmentAt_nil, faithful.delivered, nofun, fun _ => ⟨rfl, atTarget, ?_⟩⟩
      have stands : socket = source.prefetcher.currentPos :=
        fromSocket socket response near.1 near.2
      omega
    · exact refetched
  · exact refetched

theorem Faithful.skipChunk {target remaining socket : Nat} (size : Nat)
    (skipping : source.prefetcher.point = .skipping target remaining socket) :
    (source.skipChunk target remaining socket (chunkAt resource socket size)).Faithful
      resource := by
  have chunkSegment : SegmentAt resource socket (chunkAt resource socket size) :=
    segmentAt_take size
  simp only [HttpSource.skipChunk]
  split
  · rename_i short
    apply faithful.move
    intro idle
    have aligned := faithful.aligned idle
    simp only [Aligned, skipping] at aligned
    exact ⟨aligned.1, aligned.2.1, by omega⟩
  · rename_i reaches
    apply faithful.move
    intro idle
    have aligned := faithful.aligned idle
    simp only [Aligned, skipping] at aligned
    obtain ⟨empty, atTarget, toTarget⟩ := aligned
    by_cases whole : (chunkAt resource socket size).length = remaining
    · simp only [if_pos whole, Aligned]
      refine .inl ?_
      have stands : source.frontier = socket + remaining := by omega
      rw [whole, ← stands]
      rfl
    · simp only [if_neg whole, Aligned]
      have within : remaining ≤ (chunkAt resource socket size).length := by omega
      have leftover := chunkSegment.drop within
      rw [toTarget, ← atTarget] at leftover
      refine ⟨empty, leftover, ?_⟩
      have stands : source.frontier + ((chunkAt resource socket size).drop remaining).length =
          socket + (chunkAt resource socket size).length := by
        rw [length_drop]
        omega
      rw [← stands]
      rfl

theorem Faithful.skipFailed {target remaining socket : Nat}
    (skipping : source.prefetcher.point = .skipping target remaining socket) :
    (source.skipFailed target).Faithful resource := by
  apply faithful.move
  intro idle
  have aligned := faithful.aligned idle
  simp only [Aligned, skipping] at aligned
  exact ⟨rfl, aligned.2.1.symm⟩

theorem Faithful.pushLeftover {leftover : Bytes}
    (pushing : source.prefetcher.point = .pushingLeftover leftover)
    (idle : source.shared.command = .continue) :
    ({ source with shared := source.shared.pushFront leftover }.goto .gate).Faithful
      resource := by
  have aligned := faithful.aligned idle
  simp only [Aligned, pushing] at aligned
  obtain ⟨empty, segment, response⟩ := aligned
  have buffered : source.shared.buffered = 0 := by
    rw [faithful.counted, empty]
    rfl
  have atPos : source.frontier = source.pos := by
    simp [frontier, buffered]
  refine ⟨?_, ?_, faithful.delivered, ?_, fun _ => .inl ?_⟩
  · simp [goto, SharedState.pushFront, empty, buffered]
  · simp only [goto, SharedState.pushFront, empty, flatten_cons, flatten_nil, append_nil]
    rwa [atPos] at segment
  · intro target command
    simp only [goto, SharedState.pushFront, idle] at command
    cases command
  · simp [goto, frontier, SharedState.pushFront, response, buffered]

theorem Faithful.storeChunk {chunk : Bytes} (received : source.prefetcher.point = .received chunk) :
    (source.storeChunk chunk).Faithful resource := by
  simp only [HttpSource.storeChunk]
  split
  · rename_i idle
    have aligned := faithful.aligned idle
    simp only [Aligned, received, frontier] at aligned
    obtain ⟨segment, response⟩ := aligned
    have counted := faithful.counted
    refine ⟨?_, ?_, faithful.delivered, ?_, fun _ => .inl ?_⟩
    · simp [SharedState.pushBack, counted]
    · simp only [SharedState.pushBack, flatten_append, flatten_cons, flatten_nil, append_nil]
      rw [counted] at segment
      exact segmentAt_append.mpr ⟨faithful.held, segment⟩
    · intro target command
      simp only [SharedState.pushBack, idle] at command
      cases command
    · simp only [frontier, SharedState.pushBack, response]
      rw [Nat.add_assoc]
  · rename_i busy
    exact faithful.move _ fun idle => absurd idle busy

theorem Faithful.retry (message : String) (aligned : source.shared.command = .continue →
      source.prefetcher.response = none ∧ source.prefetcher.currentPos = source.frontier) :
    (source.retry message).Faithful resource := by
  apply faithful.move
  intro idle
  by_cases exhausted : maxFetchRetries < source.prefetcher.retryCount + 1
  · simp only [Aligned, if_pos exhausted]
  · simp only [Aligned, if_neg exhausted]
    exact aligned idle

theorem Faithful.fetching (fetching : source.prefetcher.point = .fetching)
    (idle : source.shared.command = .continue) :
    source.prefetcher.response = none ∧ source.prefetcher.currentPos = source.frontier := by
  simpa only [Aligned, fetching] using faithful.aligned idle

theorem Faithful.fetchSucceeded (fetching : source.prefetcher.point = .fetching) :
    source.fetchSucceeded.Faithful resource := by
  apply faithful.move
  intro idle
  exact .inl (congrArg some (faithful.fetching fetching idle).2)

theorem Faithful.fetchFailed (message : String) (fetching : source.prefetcher.point = .fetching) :
    (source.fetchFailed message).Faithful resource := by
  unfold HttpSource.fetchFailed
  split
  · exact faithful.move _ (faithful.fetching fetching)
  · exact faithful.retry message (faithful.fetching fetching)

section

variable (reading : source.prefetcher.point = .reading)
  (stood : source.shared.command = .continue →
    source.prefetcher.response = some source.prefetcher.currentPos)
include reading stood

theorem Faithful.lost (idle : source.shared.command = .continue) :
    source.prefetcher.currentPos = source.frontier := by
  have aligned := faithful.aligned idle
  simp only [Aligned, reading, stood idle, Option.some.injEq] at aligned
  rcases aligned with stands | impossible
  · exact stands
  · cases impossible.1

theorem Faithful.bodyEnded : source.bodyEnded.Faithful resource := by
  apply faithful.move
  intro idle
  have stands := faithful.lost reading stood idle
  by_cases atEnd : source.len.all (· ≤ source.prefetcher.currentPos) = true
  · simp only [Aligned, if_pos atEnd]
    exact ⟨trivial, stands⟩
  · simp only [Aligned, if_neg atEnd]
    exact .inr ⟨trivial, stands⟩

theorem Faithful.bodyFailed (message : String) : (source.bodyFailed message).Faithful resource := by
  have closed : Faithful resource
      { source with prefetcher := { source.prefetcher with response := none } } := by
    apply faithful.move
    intro idle
    simp only [Aligned, reading]
    exact .inr ⟨trivial, faithful.lost reading stood idle⟩
  apply closed.retry
  intro idle
  exact ⟨rfl, faithful.lost reading stood idle⟩

end

theorem Faithful.chunkRead {socket : Nat} (size : Nat)
    (reading : source.prefetcher.point = .reading)
    (response : source.prefetcher.response = some socket) :
    Faithful resource
      { source with
        prefetcher := { source.prefetcher with
          point := .received (chunkAt resource socket size)
          response := some (socket + (chunkAt resource socket size).length) } } := by
  apply faithful.move
  intro idle
  have aligned := faithful.aligned idle
  simp only [Aligned, reading, response, Option.some.injEq] at aligned
  rcases aligned with stands | impossible
  · subst stands
    exact ⟨segmentAt_take size, rfl⟩
  · cases impossible.1

theorem Faithful.step {next : HttpSource} {act : HttpAct}
    (condition : source.SeeksAligned act) (stepped : source.step resource act = some next) :
    next.Faithful resource := by
  have aligned := faithful.aligned
  simp only [Aligned] at aligned
  cases step_move stepped with
  | read size next answers => exact faithful.read answers
  | seek origin => exact faithful.seek origin
  | drop => exact { faithful with pending := nofun, aligned := nofun }
  | stop atTop command =>
    exact { faithful with pending := nofun, aligned := fun _ => trivial }
  | beginSeek target atTop command =>
    simp only [SeeksAligned, atTop] at condition
    exact faithful.beginSeek command (condition target (by rw [command]; rfl))
  | goOn atPoint _ _ | passGate atPoint _ =>
    rw [atPoint] at aligned
    exact faithful.move _ aligned
  | request atTop command closed =>
    rw [atTop, closed] at aligned
    apply faithful.move
    intro idle
    rcases aligned idle with impossible | stands
    · cases impossible
    · exact ⟨closed, stands.2⟩
  | pushLeftover leftover pushing =>
    simp only [SeeksAligned, pushing] at condition
    exact faithful.pushLeftover pushing condition
  | leaveGate atGate busy => exact faithful.move _ fun idle => absurd idle busy
  | storeChunk chunk received => exact faithful.storeChunk received
  | markDone marking =>
    rw [marking] at aligned
    exact { faithful with aligned := aligned }
  | leaveEof waiting | wakeUp waiting _ =>
    rw [waiting] at aligned
    exact faithful.move _ fun idle => .inr (aligned idle)
  | stopSleeping sleeping command => exact faithful.move _ fun _ => trivial
  | fail message failing =>
    exact { faithful with aligned := fun _ => trivial }
  | fetchSucceeded fetching => exact faithful.fetchSucceeded fetching
  | fetchFailed message fetching => exact faithful.fetchFailed message fetching
  | skipChunk size target remaining socket skipping => exact faithful.skipChunk size skipping
  | readChunk size socket reading response => exact faithful.chunkRead size reading response
  | skipEnds _ _ _ skipping | skipFails _ _ _ _ skipping => exact faithful.skipFailed skipping
  | bodyEnded reading =>
    simp only [SeeksAligned, reading] at condition
    exact faithful.bodyEnded reading condition
  | bodyFailed message reading =>
    simp only [SeeksAligned, reading] at condition
    exact faithful.bodyFailed reading condition message

end

def new (len : Option Nat) : HttpSource := { len }

theorem new_faithful (resource : Bytes) (len : Option Nat) : (new len).Faithful resource :=
  ⟨rfl, segmentAt_nil, nofun, nofun, fun _ => .inl rfl⟩

end HttpSource

/-- In a run whose seeks stay aligned, every read made at a position returned the
resource's bytes from that position on. -/
theorem delivered_bytes_stand_at_their_position (resource : Bytes) (len : Option Nat)
    (acts : List HttpAct) (source : HttpSource)
    (meets : (httpSystem resource).Meets HttpSource.SeeksAligned (HttpSource.new len) acts)
    (reached : (httpSystem resource).run (HttpSource.new len) acts = some source) :
    ∀ entry ∈ source.delivered, SegmentAt resource entry.1 entry.2 := by
  have faithful : source.Faithful resource :=
    (httpSystem resource).run_invariant HttpSource.SeeksAligned (HttpSource.Faithful resource)
      (fun faithful => faithful.step) acts (HttpSource.new_faithful resource len) meets reached
  exact faithful.delivered

def digits : Bytes := [0, 1, 2, 3, 4, 5, 6, 7]

def fetchChunk (size : Nat) : List HttpAct := [.locked, .locked, .chunk size, .locked]

/-- A read, a skip on the socket that ends at a chunk's end, and another read. -/
def alignedSkip : List HttpAct :=
  fetchChunk 2 ++ [.read 1, .seek (.start 5), .locked, .chunk 3] ++ [.locked, .chunk 2, .locked] ++
    [.read 2]

theorem delivered_bytes_after_aligned_skip :
    ∃ source, (httpSystem digits).run (HttpSource.new (some 8)) alignedSkip = some source ∧
      source.delivered = [(0, [0]), (5, [5, 6])] ∧ SegmentAt digits 5 [5, 6] := by
  have delivered : ((httpSystem digits).run (HttpSource.new (some 8)) alignedSkip).map
      (fun source => source.delivered) = some [(0, [0]), (5, [5, 6])] := by decide
  obtain ⟨source, reached, delivered⟩ := map_eq_some_iff.mp delivered
  have standing := delivered_bytes_stand_at_their_position digits (some 8) alignedSkip source
    (by decide) reached
  exact ⟨source, reached, delivered, standing (5, [5, 6]) (by simp [delivered])⟩

/-- A seek to 4 arrives while a chunk is being fetched.  The chunk is dropped, the
socket stands at 2, and four bytes are skipped from there. -/
def droppedChunk : List HttpAct :=
  [.locked, .locked, .chunk 2, .seek (.start 4), .locked, .locked, .chunk 4, .locked, .chunk 1,
    .locked, .read 1]

/-- A skip to 2 leaves two bytes over.  At the end of the body `current_pos` is two
bytes behind, and the last two bytes are requested again. -/
def uncountedLeftover : List HttpAct :=
  [.seek (.start 2), .locked, .chunk 4, .locked, .locked, .chunk 4, .locked] ++
    [.locked, .locked, .bodyEnds, .locked, .fetched (.ok ()), .locked, .chunk 2, .locked, .read 8]

/-- A seek to 6 arrives during a skip to 2, whose leftover is pushed all the same. -/
def lateLeftover : List HttpAct :=
  [.seek (.start 2), .locked, .chunk 4, .seek (.start 6), .locked, .read 2]

theorem misaligned_runs_deliver :
    [droppedChunk, uncountedLeftover, lateLeftover].map (fun acts =>
        ((httpSystem digits).run (HttpSource.new (some 8)) acts).map fun source =>
          source.delivered) =
      [some [(4, [6])], some [(2, [2, 3, 4, 5, 6, 7, 6, 7])], some [(6, [2, 3])]] := by
  decide

theorem seek_during_fetch_delivers_other_bytes :
    ¬ ∀ (acts : List HttpAct) (source : HttpSource),
      (httpSystem digits).run (HttpSource.new (some 8)) acts = some source →
      ∀ entry ∈ source.delivered, SegmentAt digits entry.1 entry.2 := by
  intro claim
  have delivered : ((httpSystem digits).run (HttpSource.new (some 8)) droppedChunk).map
      (fun source => source.delivered) = some [(4, [6])] :=
    (List.cons.inj misaligned_runs_deliver).1
  obtain ⟨source, reached, delivered⟩ := map_eq_some_iff.mp delivered
  have standing := claim droppedChunk source reached (4, [6]) (by simp [delivered])
  revert standing
  simp [SegmentAt, digits]

end KizunaLink.Source
