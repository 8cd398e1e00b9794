import KizunaLink.Source.Delivery

/-!
# Waiting for a prefetcher that is gone

The prefetch thread leaves its loop for a reader that was dropped, or with a
fatal error that it posts first.  A living reader of a thread that is gone can
still take the error and what is buffered; once both are used up, or a seek has
thrown them away, it waits for ever.  The condition is about the calls it makes
after the thread has left.
-/

set_option autoImplicit false

namespace KizunaLink.Source

open KizunaLink.Lib List Option

namespace HttpSource

/-- A `read` of the living reader would wait on the condition variable. -/
def Waits (source : HttpSource) : Prop :=
  source.isOpen = true ∧ source.shared.chunks = [] ∧ source.shared.done = false ∧
    source.shared.error = none

def Stranded (source : HttpSource) : Prop :=
  source.prefetcher.point = .exited ∧ source.Waits

instance (source : HttpSource) : Decidable source.Stranded :=
  inferInstanceAs (Decidable (_ ∧ _ ∧ _ ∧ _ ∧ _))

structure Served (source : HttpSource) : Prop where
  counted : source.shared.buffered = source.shared.chunks.flatten.length
  stopped : source.shared.command = .stop → source.isOpen = false
  served : source.prefetcher.point = .exited → source.isOpen = true →
    source.shared.error.isSome = true ∨ source.shared.chunks ≠ []

variable {resource : Bytes} {source : HttpSource}

theorem ne_nil_of_flatten {chunks : List Bytes} (bytes : 0 < chunks.flatten.length) :
    chunks ≠ [] := by
  rintro rfl
  exact Nat.lt_irrefl 0 bytes

theorem Served.read {size : Nat} {next : HttpSource} (served : source.Served)
    (condition : source.LeavesSomething (.read size))
    (stepped : source.read size = some next) : next.Served := by
  obtain ⟨-, stepped⟩ := ite_none_left_eq_some.mp stepped
  split at stepped
  · rename_i hasError
    cases stepped
    refine ⟨served.counted, served.stopped, fun exited _ => .inr ?_⟩
    simp only [LeavesSomething, show source.prefetcher.point = .exited from exited,
      if_pos hasError] at condition
    exact condition
  · rename_i noError
    cases stepped
    have joined := congrArg List.length (drainChunks_append size source.shared.chunks)
    rw [length_append] at joined
    have counted := served.counted
    refine ⟨?_, served.stopped, fun exited _ => .inr ?_⟩
    · simp only
      omega
    · simp only [LeavesSomething, show source.prefetcher.point = .exited from exited,
        if_neg noError] at condition
      have short : (drainChunks size source.shared.chunks).1.length ≤ size := by
        rw [drainChunks_eq]
        exact length_take_le _ _
      apply ne_nil_of_flatten
      simp only
      omega

theorem Served.seekTo (served : source.Served) {newPos : Nat}
    (condition : source.prefetcher.point = .exited → newPos = source.pos ∨
      (source.pos < newPos ∧
        (newPos - source.pos < source.shared.buffered ∨
          (newPos - source.pos = source.shared.buffered ∧
            source.shared.error.isSome = true)))) :
    (source.seekTo newPos).Served := by
  have counted := served.counted
  simp only [HttpSource.seekTo]
  split
  · exact served
  · rename_i moved
    split
    · refine ⟨?_, served.stopped, fun exited _ => ?_⟩
      · simp only [SharedState.skip, skipChunks_flatten, length_drop]
        omega
      · rcases condition exited with stays | ⟨_, inside | ⟨_, hasError⟩⟩
        · exact absurd stays moved
        · right
          apply ne_nil_of_flatten
          simp only [SharedState.skip, skipChunks_flatten, length_drop]
          omega
        · exact .inl hasError
    · rename_i hard
      refine ⟨rfl, by simp, fun exited _ => ?_⟩
      rcases condition exited with stays | ⟨forward, inside | ⟨all, _⟩⟩
      · exact absurd stays moved
      · omega
      · omega

theorem Served.seek (served : source.Served) {origin : SeekFrom}
    (condition : source.LeavesSomething (.seek origin)) : (source.seek origin).Served := by
  simp only [HttpSource.seek]
  split
  · exact served
  · rename_i newPos target
    apply served.seekTo
    intro exited
    simp only [LeavesSomething, exited] at condition
    exact condition newPos target

theorem Served.move (served : source.Served) {prefetcher : Prefetcher}
    (stays : prefetcher.point ≠ .exited) : Served { source with prefetcher } :=
  ⟨served.counted, served.stopped, fun exited => absurd exited stays⟩

theorem Served.beginSeek (target : Nat) : (source.beginSeek target).Served := by
  simp only [HttpSource.beginSeek]
  split
  · split
    · exact ⟨rfl, by simp, by simp⟩
    · exact ⟨rfl, by simp, by simp⟩
  · exact ⟨rfl, by simp, by simp⟩

section

variable (served : source.Served)
include served

theorem Served.retry (message : String) : (source.retry message).Served := by
  apply served.move
  simp only
  split
  · nofun
  · nofun

theorem Served.skipChunk (target remaining socket : Nat)
    (chunk : Bytes) : (source.skipChunk target remaining socket chunk).Served := by
  simp only [HttpSource.skipChunk]
  split
  · exact served.move (by simp)
  · apply served.move
    simp only
    split
    · simp
    · simp

theorem Served.storeChunk (chunk : Bytes) : (source.storeChunk chunk).Served := by
  simp only [HttpSource.storeChunk]
  split
  · refine ⟨?_, served.stopped, by simp⟩
    simp [SharedState.pushBack, served.counted]
  · exact served.move (by simp)

/-- The command to stop is posted by `drop` only, so nobody reads after it. -/
theorem Served.closed (command : source.shared.command = .stop) : ¬ source.isOpen = true := by
  rw [served.stopped command]
  exact Bool.false_ne_true

theorem Served.step {next : HttpSource} {act : HttpAct} (condition : source.LeavesSomething act)
    (stepped : source.step resource act = some next) : next.Served := by
  have counted := served.counted
  cases step_move stepped with
  | read size next answers => exact served.read condition answers
  | seek origin => exact served.seek condition
  | drop => exact ⟨served.counted, fun _ => rfl, by simp⟩
  | stop atTop command =>
    exact ⟨served.counted, by simp, fun _ isOpen => absurd isOpen (served.closed command)⟩
  | beginSeek target atTop command => exact Served.beginSeek target
  | goOn _ _ _ | request _ _ _ | leaveGate _ _ | passGate _ _ | leaveEof _ | wakeUp _ _
  | fetchSucceeded _ | readChunk _ _ _ _ | skipEnds _ _ _ _ | skipFails _ _ _ _ _ =>
    exact served.move (by simp)
  | pushLeftover leftover pushing =>
    refine ⟨?_, served.stopped, by simp⟩
    simp only [goto, SharedState.pushFront, flatten_cons, length_append]
    omega
  | storeChunk chunk received => exact served.storeChunk chunk
  | markDone marking => exact ⟨served.counted, served.stopped, by simp⟩
  | stopSleeping sleeping command =>
    exact ⟨served.counted, served.stopped,
      fun _ isOpen => absurd isOpen (served.closed command)⟩
  | fail message failing => exact ⟨served.counted, served.stopped, fun _ _ => .inl rfl⟩
  | fetchFailed message fetching =>
    unfold fetchFailed
    split
    · exact served.move (by simp)
    · exact served.retry message
  | skipChunk size target remaining socket skipping => exact served.skipChunk _ _ _ _
  | bodyEnded reading =>
    apply served.move
    simp only
    split
    · simp
    · simp
  | bodyFailed message reading =>
    have closed : Served
        { source with prefetcher := { source.prefetcher with response := none } } := by
      apply served.move
      simp only [reading]
      simp
    exact closed.retry message

end

theorem new_served (len : Option Nat) : (new len).Served := ⟨rfl, nofun, nofun⟩

theorem Served.not_stranded (served : source.Served) : ¬ source.Stranded := by
  rintro ⟨exited, isOpen, empty, _, noError⟩
  rcases served.served exited isOpen with hasError | filled
  · rw [noError] at hasError
    cases hasError
  · exact filled empty

end HttpSource

/-- In a run that meets the condition no living reader waits, or would wait, for a
prefetch thread that has left its loop. -/
theorem reader_never_stranded (resource : Bytes) (len : Option Nat) (acts : List HttpAct)
    (source : HttpSource)
    (meets : (httpSystem resource).Meets HttpSource.LeavesSomething (HttpSource.new len) acts)
    (reached : (httpSystem resource).run (HttpSource.new len) acts = some source) :
    ¬ source.Stranded := by
  have served : source.Served :=
    (httpSystem resource).run_invariant HttpSource.LeavesSomething HttpSource.Served
      (fun served => served.step) acts (HttpSource.new_served len) meets reached
  exact served.not_stranded

/-- A failed body or request, and the retry it leads to. -/
def failOnce (failure : HttpAct) : List HttpAct := [failure, .locked, .locked]

/-- The body fails, and so do the five requests that follow. -/
def failFatally : List HttpAct :=
  failOnce (.bodyFails "reset") ++
    (List.replicate 4 (failOnce (.fetched (.error "refused")))).flatten ++
    [.fetched (.error "refused"), .locked]

/-- Four bytes are buffered when the thread leaves.  The reader takes the error and
two of them. -/
def readAfterFailure : List HttpAct :=
  fetchChunk 4 ++ [.locked, .locked] ++ failFatally ++ [.read 2, .read 2]

theorem not_stranded_with_bytes_left :
    ∃ source, (httpSystem digits).run (HttpSource.new (some 8)) readAfterFailure = some source ∧
      source.prefetcher.point = .exited ∧ ¬ source.Stranded := by
  have exits : ((httpSystem digits).run (HttpSource.new (some 8)) readAfterFailure).map
      (fun source => source.prefetcher.point) = some .exited := by decide
  obtain ⟨source, reached, exited⟩ := map_eq_some_iff.mp exits
  exact ⟨source, reached, exited, reader_never_stranded digits (some 8) readAfterFailure source
    (by decide) reached⟩

def readTakesError : List HttpAct := [.locked, .locked] ++ failFatally ++ [.read 4]

def seekErasesError : List HttpAct := [.locked, .locked] ++ failFatally ++ [.seek (.start 4)]

theorem stranding_runs :
    [readTakesError, seekErasesError].map (fun acts =>
      ((httpSystem digits).run (HttpSource.new (some 8)) acts).map fun source =>
        decide source.Stranded) = [some true, some true] := by
  decide

theorem read_of_fatal_error_strands_reader :
    ¬ ∀ (acts : List HttpAct) (source : HttpSource),
      (httpSystem digits).run (HttpSource.new (some 8)) acts = some source →
      ¬ source.Stranded := by
  intro claim
  have strands : ((httpSystem digits).run (HttpSource.new (some 8)) readTakesError).map
      (fun source => decide source.Stranded) = some true :=
    (List.cons.inj stranding_runs).1
  obtain ⟨source, reached, stranded⟩ := map_eq_some_iff.mp strands
  exact claim readTakesError source reached (of_decide_eq_true stranded)

end KizunaLink.Source
