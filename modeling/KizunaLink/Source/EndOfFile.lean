import KizunaLink.Source.Delivery
import KizunaLink.Source.FetchStream

/-!
# End of file is reported only at the end

A read that returns no byte found the buffer empty and `done` set.  The
prefetcher is never ahead of the frontier, so `done` is right when it is set for
the position the reader has: at a 416 for a request at the end or behind it, or
at the end of a body that `current_pos` has followed to the end.

It goes wrong where an error's text contains 416 for another reason (the URL is
part of the text), where the body ends early and the reported length does not
tell, and where a seek arrives before `done` is set.  An empty chunk of the body
looks like the end of file too.
-/

set_option autoImplicit false

namespace KizunaLink.Source

open KizunaLink.Lib List Option

theorem skipChunks_filled (count : Nat) {chunks : List Bytes}
    (filled : ∀ chunk ∈ chunks, chunk ≠ []) :
    ∀ chunk ∈ skipChunks count chunks, chunk ≠ [] := by
  induction chunks generalizing count with
  | nil => cases count <;> exact filled
  | cons front rest ih =>
    cases count with
    | zero => exact filled
    | succ count =>
      obtain ⟨-, restFilled⟩ := forall_mem_cons.mp filled
      by_cases whole : front.length ≤ count + 1
      · simp only [skipChunks, if_pos whole]
        exact ih _ restFilled
      · simp only [skipChunks, if_neg whole]
        intro chunk member
        rcases mem_cons.mp member with isFront | inRest
        · rw [isFront, Ne, drop_eq_nil_iff]
          omega
        · exact restFilled chunk inRest

theorem drainChunks_eq_nil {want : Nat} {chunks : List Bytes} (room : 0 < want)
    (filled : ∀ chunk ∈ chunks, chunk ≠ []) (nothing : (drainChunks want chunks).1 = []) :
    chunks = [] := by
  rw [drainChunks_eq, take_eq_nil_iff] at nothing
  have empty : chunks.flatten = [] := nothing.resolve_left (Nat.ne_of_gt room)
  cases chunks with
  | nil => rfl
  | cons front rest =>
    have frontEmpty := flatten_eq_nil_iff.mp empty front mem_cons_self
    exact absurd frontEmpty (filled front mem_cons_self)

/-- The prefetcher goes on at a position that is not beyond the frontier, and is
about to set `done` only when the frontier has reached the end. -/
def Prefetcher.Behind (resource : Bytes) (frontier : Nat) (prefetcher : Prefetcher) : Prop :=
  match prefetcher.point with
  | .skipping target _ _ => target ≤ frontier
  | .markingDone => resource.length ≤ frontier ∧ prefetcher.currentPos ≤ frontier
  | .top | .pushingLeftover _ | .fetching | .gate | .reading | .received _ | .eofWait
  | .sleeping => prefetcher.currentPos ≤ frontier
  | .failing _ | .exited => True

namespace HttpSource

structure EofSafe (resource : Bytes) (source : HttpSource) : Prop where
  counted : source.shared.buffered = source.shared.chunks.flatten.length
  filled : ∀ chunk ∈ source.shared.chunks, chunk ≠ []
  leftover : ∀ leftover, source.prefetcher.point = .pushingLeftover leftover → leftover ≠ []
  stopped : source.shared.command = .stop → source.isOpen = false
  ended : source.isOpen = true → source.shared.done = true →
    resource.length ≤ source.frontier
  pending : ∀ target, source.shared.command = .seek target → target ≤ source.pos
  behind : source.shared.command = .continue →
    source.prefetcher.Behind resource source.frontier

variable {resource : Bytes} {source : HttpSource}

section

variable (safe : source.EofSafe resource)
include safe

theorem EofSafe.read {size : Nat} {next : HttpSource}
    (stepped : source.read size = some next) : next.EofSafe resource := by
  obtain ⟨-, stepped⟩ := ite_none_left_eq_some.mp stepped
  split at stepped
  · cases stepped
    exact { safe with }
  · cases stepped
    have joined := congrArg List.length (drainChunks_append size source.shared.chunks)
    rw [length_append] at joined
    have counted := safe.counted
    have sameFrontier :
        source.pos + (drainChunks size source.shared.chunks).1.length +
          (source.shared.buffered - (drainChunks size source.shared.chunks).1.length) =
        source.frontier := by
      simp only [frontier]
      omega
    have filled : ∀ chunk ∈ (drainChunks size source.shared.chunks).2, chunk ≠ [] := by
      rw [drainChunks_eq]
      exact skipChunks_filled size safe.filled
    refine ⟨?_, filled, safe.leftover, safe.stopped, ?_, ?_, ?_⟩
    · simp only
      omega
    · intro isOpen done
      simp only [frontier, sameFrontier]
      exact safe.ended isOpen done
    · intro target command
      have earlier := safe.pending target command
      simp only
      omega
    · intro idle
      simp only [frontier, sameFrontier]
      exact safe.behind idle

theorem EofSafe.seekTo (newPos : Nat) : (source.seekTo newPos).EofSafe resource := by
  simp only [HttpSource.seekTo]
  split
  · exact safe
  · split
    · rename_i inBuffer
      have counted := safe.counted
      have sameFrontier :
          newPos + (source.shared.buffered - (newPos - source.pos)) = source.frontier := by
        simp only [frontier]
        omega
      refine ⟨?_, skipChunks_filled _ safe.filled, safe.leftover, safe.stopped, ?_, ?_, ?_⟩
      · simp only [SharedState.skip, skipChunks_flatten, length_drop]
        omega
      · intro isOpen done
        simp only [frontier, SharedState.skip, sameFrontier]
        exact safe.ended isOpen done
      · intro target command
        have earlier := safe.pending target command
        simp only
        omega
      · intro idle
        simp only [frontier, SharedState.skip, sameFrontier]
        exact safe.behind idle
    · refine ⟨rfl, by simp, safe.leftover, by simp, by simp, ?_, by simp⟩
      intro target command
      cases command
      exact Nat.le_refl _

theorem EofSafe.seek (origin : SeekFrom) : (source.seek origin).EofSafe resource := by
  simp only [HttpSource.seek]
  split
  · exact safe
  · exact safe.seekTo _

/-! ## The prefetcher -/

theorem EofSafe.move (prefetcher : Prefetcher)
    (leftover : ∀ leftover, prefetcher.point = .pushingLeftover leftover → leftover ≠ [])
    (behind : source.shared.command = .continue →
      prefetcher.Behind resource source.frontier) :
    EofSafe resource { source with prefetcher } :=
  { safe with leftover := leftover, behind := behind }

theorem EofSafe.beginSeek {target : Nat} (command : source.shared.command = .seek target) :
    (source.beginSeek target).EofSafe resource := by
  have reached := safe.pending target command
  have refetched : EofSafe resource
      { source with
        shared := { source.shared.clear with command := .continue }
        prefetcher :=
          { point := .fetching, currentPos := target, response := none, retryCount := 0 } } :=
    ⟨rfl, by simp, by simp, by simp, by simp, by simp, fun _ => reached⟩
  simp only [HttpSource.beginSeek]
  split
  · split
    · exact ⟨rfl, by simp, by simp, by simp, by simp, by simp, fun _ => reached⟩
    · exact refetched
  · exact refetched

theorem EofSafe.skipChunk {target remaining socket : Nat}
    (chunk : Bytes) (skipping : source.prefetcher.point = .skipping target remaining socket) :
    (source.skipChunk target remaining socket chunk).EofSafe resource := by
  have behind := safe.behind
  simp only [Prefetcher.Behind, skipping] at behind
  simp only [HttpSource.skipChunk]
  split
  · exact safe.move _ (by simp) behind
  · rename_i reaches
    by_cases whole : chunk.length = remaining
    · rw [if_pos whole]
      exact safe.move _ (by simp) behind
    · rw [if_neg whole]
      apply safe.move
      · intro leftover pushing
        cases pushing
        rw [Ne, drop_eq_nil_iff]
        omega
      · exact behind

theorem EofSafe.skipFailed {target remaining socket : Nat}
    (skipping : source.prefetcher.point = .skipping target remaining socket) :
    (source.skipFailed target).EofSafe resource := by
  have behind := safe.behind
  simp only [Prefetcher.Behind, skipping] at behind
  exact safe.move _ nofun behind

theorem EofSafe.grow {shared : SharedState}
    {prefetcher : Prefetcher} (command : shared.command = source.shared.command)
    (done : shared.done = source.shared.done)
    (counted : shared.buffered = shared.chunks.flatten.length)
    (grown : source.shared.buffered ≤ shared.buffered)
    (filled : ∀ chunk ∈ shared.chunks, chunk ≠ [])
    (leftover : ∀ leftover, prefetcher.point = .pushingLeftover leftover → leftover ≠ [])
    (behind : source.shared.command = .continue →
      prefetcher.Behind resource (source.pos + shared.buffered)) :
    EofSafe resource { source with shared, prefetcher } := by
  refine ⟨counted, filled, leftover, ?_, ?_, ?_, ?_⟩
  · rw [command]
    exact safe.stopped
  · intro isOpen isDone
    rw [done] at isDone
    exact (safe.ended isOpen isDone).trans (Nat.add_le_add_left grown _)
  · rw [command]
    exact safe.pending
  · rw [command]
    exact behind

theorem EofSafe.pushLeftover {leftover : Bytes}
    (pushing : source.prefetcher.point = .pushingLeftover leftover) :
    ({ source with shared := source.shared.pushFront leftover }.goto .gate).EofSafe
      resource := by
  have counted := safe.counted
  apply safe.grow
  · rfl
  · rfl
  · simp only [SharedState.pushFront, flatten_cons, length_append]
    omega
  · exact Nat.le_add_right _ _
  · intro chunk member
    rcases mem_cons.mp member with isLeftover | earlier
    · rw [isLeftover]
      exact safe.leftover leftover pushing
    · exact safe.filled chunk earlier
  · simp
  · intro idle
    have behind := safe.behind idle
    simp only [Prefetcher.Behind, pushing] at behind
    exact behind.trans (Nat.add_le_add_left (Nat.le_add_right _ _) _)

theorem EofSafe.storeChunk {chunk : Bytes} (received : source.prefetcher.point = .received chunk)
    (nonempty : source.shared.command = .continue → chunk ≠ []) :
    (source.storeChunk chunk).EofSafe resource := by
  simp only [HttpSource.storeChunk]
  split
  · rename_i idle
    have counted := safe.counted
    have behind := safe.behind idle
    simp only [Prefetcher.Behind, received, frontier] at behind
    apply safe.grow
    · rfl
    · rfl
    · simp only [SharedState.pushBack, flatten_append, flatten_cons, flatten_nil, append_nil,
        length_append]
      omega
    · exact Nat.le_add_right _ _
    · intro stored member
      rcases mem_append.mp member with earlier | now
      · exact safe.filled stored earlier
      · rw [mem_singleton.mp now]
        exact nonempty idle
    · simp
    · intro _
      simp only [Prefetcher.Behind, SharedState.pushBack]
      omega
  · rename_i busy
    exact safe.move _ (by simp) fun idle => absurd idle busy

theorem EofSafe.retry (message : String) (behind : source.shared.command = .continue →
      source.prefetcher.currentPos ≤ source.frontier) :
    (source.retry message).EofSafe resource := by
  simp only [HttpSource.retry]
  split
  · exact safe.move _ nofun fun _ => trivial
  · exact safe.move _ nofun behind

theorem EofSafe.fetchFailed {message : String} (fetching : source.prefetcher.point = .fetching)
    (genuine : source.shared.command = .continue → "416".toList <:+: message.toList →
      resource.length ≤ source.prefetcher.currentPos) :
    (source.fetchFailed message).EofSafe resource := by
  have behind := safe.behind
  simp only [Prefetcher.Behind, fetching] at behind
  unfold HttpSource.fetchFailed
  split
  · rename_i mentions
    apply safe.move
    · nofun
    · intro idle
      exact ⟨(genuine idle mentions).trans (behind idle), behind idle⟩
  · exact safe.retry message behind

theorem EofSafe.bodyEnded (reading : source.prefetcher.point = .reading)
    (genuine : source.shared.command = .continue →
      source.len.all (· ≤ source.prefetcher.currentPos) = true →
      resource.length ≤ source.prefetcher.currentPos) :
    source.bodyEnded.EofSafe resource := by
  have behind := safe.behind
  simp only [Prefetcher.Behind, reading] at behind
  simp only [HttpSource.bodyEnded]
  split
  · rename_i atEnd
    apply safe.move
    · nofun
    · intro idle
      exact ⟨(genuine idle atEnd).trans (behind idle), behind idle⟩
  · exact safe.move _ nofun behind

theorem EofSafe.markDone (marking : source.prefetcher.point = .markingDone)
    (noSeek : source.shared.command.target? = none) :
    EofSafe resource
      ({ source with shared := { source.shared with done := true } }.goto .eofWait) := by
  have behind := safe.behind
  simp only [Prefetcher.Behind, marking] at behind
  refine { safe with leftover := nofun, ended := ?_, behind := ?_ }
  · intro isOpen _
    cases command : source.shared.command with
    | «continue» => exact (behind command).1
    | seek target =>
      rw [command] at noSeek
      cases noSeek
    | stop =>
      -- the reader that could see `done` is gone
      have closed := safe.stopped command
      rw [show source.isOpen = true from isOpen] at closed
      cases closed
  · intro idle
    exact (behind idle).2

theorem EofSafe.step {next : HttpSource} {act : HttpAct}
    (condition : source.EndsGenuine resource act)
    (stepped : source.step resource act = some next) : next.EofSafe resource := by
  have behind := safe.behind
  simp only [Prefetcher.Behind] at behind
  cases step_move stepped with
  | read size next answers => exact safe.read answers
  | seek origin => exact safe.seek origin
  | drop =>
    exact ⟨safe.counted, safe.filled, safe.leftover, fun _ => rfl, by simp, by simp, by simp⟩
  | stop atTop command =>
    exact ⟨safe.counted, safe.filled, by simp, by simp, safe.ended, by simp, fun _ => trivial⟩
  | beginSeek target atTop command => exact safe.beginSeek command
  | goOn placed _ _ | request placed _ _ | leaveGate placed _ | passGate placed _ | leaveEof placed
  | wakeUp placed _ | fetchSucceeded placed | readChunk _ _ placed _ =>
    rw [placed] at behind
    exact safe.move _ (by simp) behind
  | pushLeftover leftover pushing => exact safe.pushLeftover pushing
  | storeChunk chunk received =>
    simp only [EndsGenuine, received] at condition
    exact safe.storeChunk received condition
  | markDone marking =>
    simp only [EndsGenuine, marking] at condition
    exact safe.markDone marking condition
  | stopSleeping sleeping command => exact safe.move _ (by simp) fun _ => trivial
  | fail message failing =>
    exact { safe with leftover := by simp, behind := fun _ => trivial }
  | fetchFailed message fetching =>
    simp only [EndsGenuine, fetching] at condition
    exact safe.fetchFailed fetching condition
  | skipChunk size target remaining socket skipping => exact safe.skipChunk _ skipping
  | skipEnds _ _ _ skipping | skipFails _ _ _ _ skipping => exact safe.skipFailed skipping
  | bodyEnded reading =>
    simp only [EndsGenuine, reading] at condition
    exact safe.bodyEnded reading condition
  | bodyFailed message reading =>
    rw [reading] at behind
    have closed : EofSafe resource
        { source with prefetcher := { source.prefetcher with response := none } } :=
      safe.move _ safe.leftover safe.behind
    exact closed.retry message behind

end

theorem new_eofSafe (resource : Bytes) (len : Option Nat) : (new len).EofSafe resource :=
  ⟨rfl, nofun, nofun, nofun, nofun, nofun, fun _ => Nat.le_refl _⟩

/-- A read into a nonempty buffer returns `Ok(0)`. -/
def EndOfFile (source : HttpSource) (size : Nat) : Prop :=
  source.isOpen = true ∧ 0 < size ∧
    (source.read size).map delivered = some (source.delivered ++ [(source.pos, [])])

instance (source : HttpSource) (size : Nat) : Decidable (source.EndOfFile size) :=
  inferInstanceAs (Decidable (_ ∧ _ ∧ _))

theorem EofSafe.endOfFile (safe : source.EofSafe resource) {size : Nat}
    (eof : source.EndOfFile size) : resource.length ≤ source.pos := by
  obtain ⟨isOpen, room, answered⟩ := eof
  obtain ⟨next, stepped, delivered⟩ := map_eq_some_iff.mp answered
  obtain ⟨awake, stepped⟩ := ite_none_left_eq_some.mp stepped
  split at stepped
  · cases stepped
    simp at delivered
  · rename_i noError
    cases stepped
    have nothing : (drainChunks size source.shared.chunks).1 = [] := by
      simpa [SharedState.drainInto] using delivered
    have empty := drainChunks_eq_nil room safe.filled nothing
    have done : source.shared.done = true := by
      simpa [empty, not_isSome_iff_eq_none.mp noError] using awake
    have reached := safe.ended isOpen done
    simpa [frontier, safe.counted, empty] using reached

end HttpSource

/-! ## Whole runs -/

def WireAct.EndsGenuine (canonicalReason : Nat → Option String) (url : String)
    (resource : Bytes) (source : HttpSource) (act : WireAct) : Prop :=
  ∀ http ∈ act.toHttp canonicalReason url source, source.EndsGenuine resource http

instance (canonicalReason : Nat → Option String) (url : String) (resource : Bytes)
    (source : HttpSource) (act : WireAct) :
    Decidable (act.EndsGenuine canonicalReason url resource source) :=
  inferInstanceAs (Decidable (∀ http ∈ act.toHttp canonicalReason url source, _))

/-- In a run that meets the condition, a read into a nonempty buffer returns no
byte only at the end of the resource or behind it. -/
theorem endOfFile_only_at_end (canonicalReason : Nat → Option String) (url : String)
    (resource : Bytes) (len : Option Nat) (acts : List WireAct) (source : HttpSource)
    (meets : (wireSystem canonicalReason url resource).Meets
      (fun source act => act.EndsGenuine canonicalReason url resource source)
      (HttpSource.new len) acts)
    (reached : (wireSystem canonicalReason url resource).run (HttpSource.new len) acts =
      some source) (size : Nat) (eof : source.EndOfFile size) : resource.length ≤ source.pos := by
  have safe : source.EofSafe resource := by
    refine (wireSystem canonicalReason url resource).run_invariant _ _ ?_ acts
      (HttpSource.new_eofSafe resource len) meets reached
    intro source act next safe genuine stepped
    obtain ⟨http, isHttp, stepped⟩ := bind_eq_some_iff.mp stepped
    exact safe.step (genuine http isHttp) stepped
  exact safe.endOfFile eof

def ownSteps (acts : List HttpAct) : List WireAct := acts.map .own

/-- All eight bytes are read, the server reported nine, and the request for the
ninth is answered with 416. -/
def readToTheEnd : List WireAct :=
  ownSteps (fetchChunk 8 ++ [.read 8, .locked, .locked, .bodyEnds, .locked]) ++
    [.answered (.ok { status := 416 }), .own .locked]

theorem endOfFile_after_last_byte :
    ∃ source, (wireSystem reasons "http://a.io/song.mp3" digits).run (HttpSource.new (some 9))
        readToTheEnd = some source ∧
      source.EndOfFile 4 ∧ digits.length ≤ source.pos := by
  have ends : ((wireSystem reasons "http://a.io/song.mp3" digits).run (HttpSource.new (some 9))
      readToTheEnd).map (fun source => decide (source.EndOfFile 4)) = some true := by decide
  obtain ⟨source, reached, eof⟩ := map_eq_some_iff.mp ends
  have eof := of_decide_eq_true eof
  exact ⟨source, reached, eof, endOfFile_only_at_end reasons "http://a.io/song.mp3" digits
    (some 9) readToTheEnd source (by decide) reached 4 eof⟩

/-- The connection fails, and the request that follows is answered with 503. -/
def overloaded : List WireAct :=
  ownSteps [.locked, .locked, .bodyFails "connection reset", .locked, .locked] ++
    [.answered (.ok { status := 503 }), .own .locked]

/-- The reader seeks back to the start before the prefetcher, which has seen the
end of the body, sets `done`. -/
def seekBeforeDone : List WireAct :=
  ownSteps (fetchChunk 8 ++
    [.read 8, .locked, .locked, .bodyEnds, .seek (.start 0), .locked])

/-- Without a reported length the body's early end passes for the end of file. -/
def earlyClose : List WireAct :=
  ownSteps (fetchChunk 2 ++ [.read 2, .locked, .locked, .bodyEnds, .locked])

def emptyChunk : List WireAct := ownSteps (fetchChunk 0)

theorem false_ends :
    [(some 8, overloaded), (some 8, seekBeforeDone), (none, earlyClose),
        (some 8, emptyChunk)].map (fun (len, acts) =>
      ((wireSystem reasons "http://a.io/416.mp3" digits).run (HttpSource.new len) acts).map
        fun source => (source.pos, decide (source.EndOfFile 4))) =
      [some (0, true), some (0, true), some (2, true), some (0, true)] := by
  decide

theorem unavailable_url_with_416_reads_as_end :
    ¬ ∀ (acts : List WireAct) (source : HttpSource),
      (wireSystem reasons "http://a.io/416.mp3" digits).run (HttpSource.new (some 8)) acts =
        some source →
      ∀ size, source.EndOfFile size → digits.length ≤ source.pos := by
  intro claim
  have ends : ((wireSystem reasons "http://a.io/416.mp3" digits).run (HttpSource.new (some 8))
      overloaded).map (fun source => (source.pos, decide (source.EndOfFile 4))) =
        some (0, true) :=
    (List.cons.inj false_ends).1
  obtain ⟨source, reached, found⟩ := map_eq_some_iff.mp ends
  simp only [Prod.mk.injEq] at found
  have beyond := claim overloaded source reached 4 (of_decide_eq_true found.2)
  rw [found.1] at beyond
  exact absurd beyond (by decide)

end KizunaLink.Source
