import KizunaLink.Hls.Delivery

/-!
# Waiting for a prefetch thread that has exited

The prefetch thread exits with an error, or by the command of `drop`.  A `read`
sees the error, and so does a seek that begins later.  A seek whose batch fails
is told by `seek_done`.  What is left is a seek that has looked for an error and
not yet posted its command: when the thread gives up there, the command is never
taken and the seek waits for ever.
-/

set_option autoImplicit false

namespace KizunaLink.Hls

open KizunaLink.Lib Option

variable {Seconds : Type}

def ReaderPoint.unposted : ReaderPoint → Bool
  | .aborting _ | .posting _ => true
  | .idle | .reading _ | .waiting _ | .dropping | .dropped => false

def PrefetchPoint.seeking : PrefetchPoint Seconds → Bool
  | .fetching batch | .fetched batch _ => batch.seeking
  | .top | .exited => false

def PrefetchPoint.hasExited : PrefetchPoint Seconds → Bool
  | .exited => true
  | .top | .fetching _ | .fetched _ _ => false

namespace HlsReader

variable (reader : HlsReader Seconds)

/-- The reader waits: for a seek to be done, or for a buffer with no error and no end. -/
def waits : Bool :=
  match reader.point with
  | .waiting _ => !reader.shared.seekDone
  | .reading _ =>
    reader.shared.nextBuf.isEmpty && reader.shared.error.isNone && !reader.shared.eos
  | .idle | .aborting _ | .posting _ | .dropping | .dropped => false

/-- The reader waits for a thread that has terminated. -/
def waitsForExited : Bool := reader.prefetcher.hasExited && reader.waits

/-- At this step the thread records the error of its batch and exits. -/
def givesUp : HlsAct → Bool
  | .store =>
    match reader.prefetcher with
    | .fetched batch (some _) => batch.seeking || reader.shared.command == .continue
    | .fetched _ none | .top | .fetching _ | .exited => false
  | .read _ _ | .readLocked | .seek _ | .raiseAbort | .postSeek | .finishSeek | .drop
  | .postStop | .takeCommand | .fetchNext _ => false

/-- The thread does not give up between a seek's look for an error and its command. -/
def SeekUndisturbed (act : HlsAct) : Prop :=
  reader.givesUp act = true → reader.point.unposted = false

instance (act : HlsAct) : Decidable (reader.SeekUndisturbed act) :=
  inferInstanceAs (Decidable (_ → _))

/-- Every party that may wait has someone to answer it. -/
structure Answered : Prop where
  stopped : reader.shared.command = .stop → reader.point = .dropped
  served : ∀ target, reader.point = .waiting target →
    reader.shared.seekDone = true ∨ reader.prefetcher.seeking = true ∨
      reader.prefetcher.hasExited = false ∧ ∃ index, reader.shared.command = .seek index
  exited : reader.prefetcher.hasExited = true →
    reader.point = .dropped ∨
      reader.shared.error.isSome = true ∧ reader.point.unposted = false

variable {reader} {stream : Stream Seconds}

theorem Answered.not_waitsForExited (answered : reader.Answered) :
    reader.waitsForExited = false := by
  cases gone : reader.prefetcher.hasExited with
  | false => simp [waitsForExited, gone]
  | true =>
    have notSeeking : reader.prefetcher.seeking = false := by
      cases point : reader.prefetcher <;>
        simp_all [PrefetchPoint.hasExited, PrefetchPoint.seeking]
    unfold waitsForExited waits
    split
    · next target waiting =>
        have served := answered.served target waiting
        simp only [notSeeking, gone] at served
        simp_all
    · next size reading =>
        rcases answered.exited gone with dropped | ⟨failed, -⟩
        · rw [reading] at dropped
          cases dropped
        · rw [isNone_eq_false_iff.mpr failed]
          simp
    all_goals simp

variable {next : HlsReader Seconds}

theorem Answered.move (answered : reader.Answered) (alive : reader.point ≠ .dropped)
    (command : next.shared.command = reader.shared.command)
    (prefetcher : next.prefetcher = reader.prefetcher)
    (error : next.shared.error = reader.shared.error)
    (notWaiting : ∀ target, next.point ≠ .waiting target)
    (looked : next.point.unposted = true → reader.prefetcher.hasExited = false) :
    next.Answered := by
  refine ⟨?_, fun target waiting => absurd waiting (notWaiting target), ?_⟩
  · intro stop
    exact absurd (answered.stopped (command ▸ stop)) alive
  · intro gone
    rw [prefetcher] at gone
    rcases answered.exited gone with dropped | ⟨failed, -⟩
    · exact absurd dropped alive
    · refine .inr ⟨error ▸ failed, ?_⟩
      cases unposted : next.point.unposted with
      | false => rfl
      | true => exact absurd (looked unposted) (by simp [gone])

theorem wakeEarly_frame (reader : HlsReader Seconds) (locked : Bool) :
    (reader.wakeEarly locked).shared.command = reader.shared.command ∧
      (reader.wakeEarly locked).prefetcher = reader.prefetcher ∧
      (reader.wakeEarly locked).shared.error = reader.shared.error := by
  unfold wakeEarly
  split <;> exact ⟨rfl, rfl, rfl⟩

section

variable (answered : reader.Answered)
include answered

theorem Answered.read (idle : reader.point = .idle) (size : Nat)
    (locked : Bool) : (reader.read size locked).Answered := by
  have alive : reader.point ≠ .dropped := by simp [idle]
  obtain ⟨command, prefetcher, error⟩ := wakeEarly_frame reader locked
  unfold HlsReader.read
  split
  · exact answered.move alive rfl rfl rfl (by simp [idle]) (by simp [idle, ReaderPoint.unposted])
  · split
    · exact answered.move alive command prefetcher error (by simp [serve])
        (by simp [serve, ReaderPoint.unposted])
    · exact answered.move alive rfl rfl rfl (by simp) (by simp [ReaderPoint.unposted])

theorem Answered.readLocked {size : Nat}
    (reading : reader.point = .reading size) : (reader.readLocked size).Answered := by
  have alive : reader.point ≠ .dropped := by simp [reading]
  unfold HlsReader.readLocked
  split
  · exact answered.move alive rfl rfl rfl (by simp [serve, swap])
      (by simp [serve, swap, ReaderPoint.unposted])
  · split
    · exact answered.move alive rfl rfl rfl (by simp) (by simp [ReaderPoint.unposted])
    · split
      · exact answered.move alive rfl rfl rfl (by simp) (by simp [ReaderPoint.unposted])
      · exact answered.move alive rfl rfl rfl (by simp [reading])
          (by simp [reading, ReaderPoint.unposted])

theorem Answered.runs (alive : reader.point ≠ .dropped)
    (free : reader.shared.error = none ∨ reader.point.unposted = true) :
    reader.prefetcher.hasExited = false := by
  cases gone : reader.prefetcher.hasExited with
  | false => rfl
  | true =>
    obtain ⟨failed, posted⟩ := (answered.exited gone).resolve_left alive
    rcases free with noError | unposted
    · rw [noError] at failed
      cases failed
    · rw [posted] at unposted
      cases unposted

theorem Answered.postSeek {target : Nat}
    (posting : reader.point = .posting target) : (reader.postSeek target).Answered := by
  have alive := answered.runs (by simp [posting]) (.inr (by rw [posting]; rfl))
  refine ⟨fun stop => (by cases stop), fun _ _ => .inr (.inr ⟨alive, target, rfl⟩), ?_⟩
  intro gone
  exact absurd (gone.symm.trans alive) (by decide)

theorem Answered.takeCommand (top : reader.prefetcher = .top)
    (stream : Stream Seconds) : (reader.takeCommand stream).Answered := by
  unfold HlsReader.takeCommand
  split
  · next stop =>
      have dropped := answered.stopped stop
      refine ⟨fun other => (by cases other), ?_, fun _ => .inl dropped⟩
      intro target waiting
      exact absurd (dropped.symm.trans waiting) (by simp)
  · next target seek =>
      exact ⟨fun other => (by cases other), fun _ _ => .inr (.inl rfl), fun gone => by cases gone⟩
  · next continues =>
      have done : ∀ target, reader.point = .waiting target → reader.shared.seekDone = true := by
        intro target waiting
        have served := answered.served target waiting
        simpa [top, continues, PrefetchPoint.seeking] using served
      unfold beginBatch
      split
      · refine ⟨answered.stopped, fun target waiting => .inl (done target waiting), ?_⟩
        intro gone
        rw [top] at gone
        cases gone
      · exact ⟨answered.stopped, fun target waiting => .inl (done target waiting),
          fun gone => by cases gone⟩

end

theorem Answered.fetchNext (answered : reader.Answered) {batch : Batch Seconds}
    (fetching : reader.prefetcher = .fetching batch) (stream : Stream Seconds)
    (failure : Option String) : (reader.fetchNext stream batch failure).Answered := by
  have served := answered.served
  rw [fetching] at served
  obtain ⟨_, _, later, same, rfl | ⟨_, rfl⟩, kind, -⟩ := fetchNext_eq stream reader batch failure
  all_goals
    rw [same]
    refine ⟨answered.stopped, fun target waiting => ?_, fun gone => by cases gone⟩
    exact (served target waiting).imp_right (.imp_left kind.trans)

theorem Answered.store (answered : reader.Answered) {batch : Batch Seconds}
    {fetchError : Option String} (fetched : reader.prefetcher = .fetched batch fetchError)
    (undisturbed : reader.SeekUndisturbed .store) : (reader.store batch fetchError).Answered := by
  have served := answered.served
  rw [fetched] at served
  unfold HlsReader.store
  split
  · next overtaken =>
      refine ⟨answered.stopped, ?_, fun gone => by cases gone⟩
      intro target waiting
      rcases served target waiting with done | seeking | ⟨-, posted⟩
      · exact .inl done
      · exact absurd (overtaken.1.symm.trans seeking) (by decide)
      · exact .inr (.inr ⟨rfl, posted⟩)
  · next inTime =>
      -- Without a command in the way, only the batch of a seek is waited for.
      have done : ∀ target, reader.point = .waiting target →
          (batch.seeking || reader.shared.seekDone) = true := by
        intro target waiting
        rcases served target waiting with done | seeking | ⟨-, index, posted⟩
        · rw [done, Bool.or_true]
        · rw [show batch.seeking = true from seeking, Bool.true_or]
        · cases seeking : batch.seeking with
          | true => rfl
          | false => exact absurd ⟨seeking, by simp [posted]⟩ inTime
      cases fetchError with
      | none =>
        exact ⟨answered.stopped, fun target waiting => .inl (done target waiting),
          fun gone => by cases gone⟩
      | some error =>
        refine ⟨answered.stopped, fun target waiting => .inl (done target waiting), ?_⟩
        intro _
        refine .inr ⟨rfl, undisturbed ?_⟩
        simp only [givesUp, fetched]
        cases seeking : batch.seeking with
        | true => rfl
        | false =>
          have continues : reader.shared.command = .continue := by
            by_contra other
            exact inTime ⟨seeking, other⟩
          rw [continues]
          rfl

theorem answered_new {mapFailure firstFailure : Option String}
    (opened : new stream mapFailure firstFailure = .ok reader) : reader.Answered := by
  obtain ⟨segment, rest, bytes, -, -, rfl⟩ := new_ok opened
  exact ⟨fun stop => (by cases stop), fun target waiting => (by cases waiting),
    fun gone => (by cases gone)⟩

section Durations

variable [Zero Seconds] [Add Seconds] [LE Seconds] [DecidableLE Seconds] [LT Seconds]
  [DecidableLT Seconds]

theorem Answered.seek (answered : reader.Answered) (idle : reader.point = .idle)
    (stream : Stream Seconds) (origin : SeekFrom) : (reader.seek stream origin).Answered := by
  have alive : reader.point ≠ .dropped := by simp [idle]
  have refused : ∀ answer, { reader with lastSeek := answer }.Answered := fun answer =>
    answered.move alive rfl rfl rfl (by simp [idle]) (by simp [idle, ReaderPoint.unposted])
  cases origin with
  | current _ | fromEnd _ => exact refused _
  | start positionMs =>
    simp only [HlsReader.seek, seekToMs]
    split
    · exact refused _
    · next noError =>
        split
        · exact answered.move alive rfl rfl rfl (by simp)
            fun _ => answered.runs alive (.inl noError)
        · exact refused _

theorem Answered.step {act : HlsAct} (answered : reader.Answered)
    (undisturbed : reader.SeekUndisturbed act)
    (stepped : (hlsSystem stream).step reader act = some next) : next.Answered := by
  cases steps_of_step stepped with
  | read size locked idle => exact answered.read idle size locked
  | readLocked reading => exact answered.readLocked reading
  | seek origin idle => exact answered.seek idle stream origin
  | raiseAbort aborting =>
    refine answered.move (by simp [aborting]) rfl rfl rfl (by simp [raiseAbort]) ?_
    exact fun _ => answered.runs (by simp [aborting]) (.inr (by rw [aborting]; rfl))
  | postSeek posting => exact answered.postSeek posting
  | finishSeek waiting done =>
    exact answered.move (by simp [waiting]) rfl rfl rfl (by simp [finishSeek])
      (by simp [finishSeek, ReaderPoint.unposted])
  | drop idle =>
    exact answered.move (by simp [idle]) rfl rfl rfl (by simp [raiseAbort])
      (by simp [raiseAbort, ReaderPoint.unposted])
  | postStop dropping =>
    exact ⟨fun _ => rfl, fun target waiting => (by cases waiting), fun _ => .inl rfl⟩
  | takeCommand top needed => exact answered.takeCommand top stream
  | fetchNext failure fetching => exact answered.fetchNext fetching stream failure
  | store fetched => exact answered.store fetched undisturbed

/-- The thread is gone, and a seek is on its way to wait for it or waits for it. -/
structure Stranded (reader : HlsReader Seconds) : Prop where
  exited : reader.prefetcher = .exited
  seeking : reader.point.unposted = true ∨
    ∃ target, reader.point = .waiting target ∧ reader.shared.seekDone = false

theorem stranded_of_disturbed {act : HlsAct} (disturbed : ¬ reader.SeekUndisturbed act)
    (stepped : (hlsSystem stream).step reader act = some next) : next.Stranded := by
  simp only [SeekUndisturbed, Classical.not_imp, Bool.not_eq_false] at disturbed
  obtain ⟨gives, unposted⟩ := disturbed
  unfold givesUp at gives
  split at gives
  · split at gives
    · next batch error fetched =>
        simp only [hlsSystem, step, fetched] at stepped
        cases stepped
        have stored : reader.store batch (some error) = reader.storeFailed batch error := by
          unfold store
          refine if_neg ?_
          rintro ⟨notSeeking, overtaken⟩
          simp [notSeeking, overtaken] at gives
        rw [stored]
        exact ⟨rfl, .inl unposted⟩
    all_goals cases gives
  all_goals cases gives

theorem Stranded.step {act : HlsAct} (stranded : reader.Stranded)
    (stepped : (hlsSystem stream).step reader act = some next) : next.Stranded := by
  obtain ⟨exited, seeking⟩ := stranded
  rcases seeking with unposted | ⟨target, waiting, notDone⟩
  · cases point : reader.point with
    | aborting target =>
      cases act <;> simp [hlsSystem, HlsReader.step, point, exited] at stepped
      cases stepped
      exact ⟨exited, .inl rfl⟩
    | posting target =>
      cases act <;> simp [hlsSystem, HlsReader.step, point, exited] at stepped
      cases stepped
      exact ⟨exited, .inr ⟨target, rfl, rfl⟩⟩
    | idle | reading _ | waiting _ | dropping | dropped => rw [point] at unposted; cases unposted
  · rw [step_none_of_abandoned waiting exited notDone] at stepped
    cases stepped

/-- In every run the reader waits for a thread that has terminated exactly when the thread
gave up under a seek that had not posted its command, and this seek has come to its wait;
no step is left then. -/
theorem waits_for_exited_iff (stream : Stream Seconds) (mapFailure firstFailure : Option String)
    (reader final : HlsReader Seconds) (acts : List HlsAct)
    (opened : new stream mapFailure firstFailure = .ok reader)
    (reached : (hlsSystem stream).run reader acts = some final) :
    final.waitsForExited = true ↔
      ¬ (hlsSystem stream).Meets SeekUndisturbed reader acts ∧
        ∃ target, final.point = .waiting target := by
  have stranded : ¬ (hlsSystem stream).Meets SeekUndisturbed reader acts → final.Stranded :=
    fun missed => (hlsSystem stream).run_of_not_meets SeekUndisturbed Stranded
      (fun disturbed stepped => stranded_of_disturbed disturbed stepped)
      (fun stranded => stranded.step) acts missed reached
  constructor
  · intro waits
    have missed : ¬ (hlsSystem stream).Meets SeekUndisturbed reader acts := by
      intro meets
      have answered := (hlsSystem stream).run_invariant SeekUndisturbed Answered
        (fun answered => answered.step) acts (answered_new opened) meets reached
      rw [answered.not_waitsForExited] at waits
      cases waits
    refine ⟨missed, ?_⟩
    obtain ⟨-, unposted | ⟨target, waiting, -⟩⟩ := stranded missed
    · cases point : final.point <;>
        simp_all [ReaderPoint.unposted, waitsForExited, HlsReader.waits]
    · exact ⟨target, waiting⟩
  · rintro ⟨missed, target, waiting⟩
    obtain ⟨exited, unposted | ⟨_, _, notDone⟩⟩ := stranded missed
    · rw [waiting] at unposted
      cases unposted
    · simp [waitsForExited, HlsReader.waits, exited, waiting, notDone, PrefetchPoint.hasExited]

end Durations

/-- A seek during which a batch is cut short, and a fetch that fails after it. -/
theorem undisturbed_seek_returns :
    ∃ final, new sampleStream none none = .ok sampleReader ∧
      (hlsSystem sampleStream).run sampleReader seekThenFail = some final ∧
      (hlsSystem sampleStream).Meets SeekUndisturbed sampleReader seekThenFail ∧
      final.waitsForExited = false := by
  have opened : new sampleStream none none = .ok sampleReader := rfl
  have meets : (hlsSystem sampleStream).Meets SeekUndisturbed sampleReader seekThenFail := by
    decide
  have outcome : ((hlsSystem sampleStream).run sampleReader seekThenFail).map
      lastSeek = some (some (.ok 0)) := by decide
  obtain ⟨final, reached, -⟩ := map_eq_some_iff.mp outcome
  refine ⟨final, opened, reached, meets, Bool.eq_false_iff.mpr fun waits => ?_⟩
  exact ((waits_for_exited_iff _ _ _ _ final _ opened reached).mp waits).1 meets

/-- `seek_to_ms` looks for an error before it posts, and a fetch may fail in between. -/
def failUnderSeek : List HlsAct :=
  [.takeCommand, .fetchNext (some "HTTP 500"), .seek (.start 0), .store, .raiseAbort, .postSeek]

theorem seek_waits_for_exited :
    ∃ final, new sampleStream none none = .ok sampleReader ∧
      (hlsSystem sampleStream).run sampleReader failUnderSeek = some final ∧
      final.waitsForExited = true ∧ final.point = .waiting 0 ∧
      final.shared.error = some "HTTP 500" := by
  have outcome : ((hlsSystem sampleStream).run sampleReader failUnderSeek).map
      (fun reader => (reader.waitsForExited, reader.point, reader.shared.error)) =
      some (true, .waiting 0, some "HTTP 500") := by decide
  obtain ⟨final, reached, view⟩ := map_eq_some_iff.mp outcome
  simp only [Prod.mk.injEq] at view
  exact ⟨final, rfl, reached, view⟩

end HlsReader

end KizunaLink.Hls
