import KizunaLink.Hls.Ready

/-!
# The HLS reader delivers its stream

Between two calls the bytes read, the active buffer and the look-ahead buffer hold
the stream from the last seek's target on (`Settled`).  A seek gives this up and
gets it back: until its command is posted the abort flag may cut a batch short, but
the command then discards what that batch stored, and the prefetcher does not start
another batch before the flag is cleared.
-/

set_option autoImplicit false

namespace KizunaLink.Hls

open KizunaLink.Lib List

namespace HlsReader

variable {Seconds : Type} {stream : Stream Seconds} {reader : HlsReader Seconds}
  {seeking : Bool} {first : Nat} {held : Bytes}

/-- Between two calls, and in a `read` that waits. -/
structure Settled (stream : Stream Seconds) (reader : HlsReader Seconds) : Prop where
  command : reader.shared.command = .continue
  clear : reader.abortFlag = false
  ready : reader.Ready stream false reader.start
    (reader.delivered ++ reader.remaining ++ reader.shared.nextBuf)

/-- The prefetcher has taken the seek: it says so when, and only when, its segment is
stored, and then waits for the reader. -/
structure Sought (stream : Stream Seconds) (target : Nat) (reader : HlsReader Seconds) :
    Prop where
  command : reader.shared.command = .continue
  ready : reader.Ready stream true target reader.shared.nextBuf
  stored : reader.shared.seekDone = true →
    reader.prefetcher = .top ∨ reader.prefetcher = .exited
  resting : reader.prefetcher = .top → reader.shared.needData = false

def Phase (stream : Stream Seconds) (reader : HlsReader Seconds) : Prop :=
  match reader.point with
  | .idle => reader.Settled stream
  | .reading _ => reader.Settled stream ∧ reader.remaining = []
  | .aborting target | .posting target =>
    target < stream.segments.length ∧ reader.shared.command = .continue ∧ reader.NotSeeking
  | .waiting target =>
    target < stream.segments.length ∧
      ((reader.shared.command = .seek target ∧ reader.shared.seekDone = false ∧
          reader.NotSeeking) ∨
        reader.Sought stream target)
  | .dropping | .dropped => True

/-- A fetch has failed and the bytes of all segments before it have been read. -/
structure Exhausted (stream : Stream Seconds) (reader : HlsReader Seconds) : Prop where
  exited : reader.prefetcher = .exited
  error : reader.shared.error.isSome = true
  drained : reader.remaining = [] ∧ reader.shared.nextBuf = []
  delivered : ∃ failed, reader.failedAt = some failed ∧ reader.start ≤ failed ∧
    reader.delivered = stream.span reader.start failed

structure Delivers (stream : Stream Seconds) (reader : HlsReader Seconds) : Prop where
  delivered : reader.delivered <+: stream.content reader.start
  failed : ∀ error, reader.lastRead = some (.error error) → reader.Exhausted stream
  alive : reader.shared.error.isSome = true → reader.prefetcher = .exited
  phase : reader.Phase stream

variable {batch : Batch Seconds} {next : HlsReader Seconds}

theorem Settled.delivered (settled : reader.Settled stream) :
    reader.delivered <+: stream.content reader.start := by
  refine List.IsPrefix.trans ?_ settled.ready.held_prefix
  rw [append_assoc]
  exact prefix_append _ _

theorem Delivers.prefetch (delivers : reader.Delivers stream)
    (running : reader.prefetcher ≠ .exited) (delivered : next.delivered = reader.delivered)
    (start : next.start = reader.start) (lastRead : next.lastRead = reader.lastRead)
    (error : next.shared.error = reader.shared.error ∨ next.prefetcher = .exited)
    (phase : next.Phase stream) : next.Delivers stream where
  delivered := by rw [delivered, start]; exact delivers.delivered
  failed error failed := absurd (delivers.failed error (lastRead ▸ failed)).exited running
  alive failed := error.resolve_left fun same => running (delivers.alive (same ▸ failed))
  phase := phase

/-! ### The prefetcher -/

/-- A step that begins or continues a batch leaves the reader's side alone. -/
structure Fetches (reader next : HlsReader Seconds) : Prop where
  point : next.point = reader.point
  abortFlag : next.abortFlag = reader.abortFlag
  start : next.start = reader.start
  delivered : next.delivered = reader.delivered
  lastRead : next.lastRead = reader.lastRead
  remaining : next.remaining = reader.remaining
  nextBuf : next.shared.nextBuf = reader.shared.nextBuf
  command : next.shared.command = reader.shared.command
  seekDone : next.shared.seekDone = reader.shared.seekDone
  error : next.shared.error = reader.shared.error

theorem fetches_beginBatch (reader : HlsReader Seconds) : Fetches reader reader.beginBatch := by
  unfold beginBatch
  split <;> exact ⟨rfl, rfl, rfl, rfl, rfl, rfl, rfl, rfl, rfl, rfl⟩

theorem fetches_fetchNext (stream : Stream Seconds) (reader : HlsReader Seconds)
    (batch : Batch Seconds) (failure : Option String) :
    Fetches reader (reader.fetchNext stream batch failure) := by
  obtain ⟨point, failedAt, later, same, -⟩ := fetchNext_eq stream reader batch failure
  rw [same]
  exact ⟨rfl, rfl, rfl, rfl, rfl, rfl, rfl, rfl, rfl, rfl⟩

/-- While the reader settles or is about to seek, only `Ready` and the kind of the batch
have to be shown again; once it has posted a seek, so has `Sought`. -/
theorem Phase.fetches (phase : reader.Phase stream) (fetches : Fetches reader next)
    (ready : ∀ first held, reader.abortFlag = false → reader.Ready stream false first held →
      next.Ready stream false first held) (notSeeking : reader.NotSeeking → next.NotSeeking)
    (sought : ∀ target, reader.Sought stream target → next.Sought stream target) :
    next.Phase stream := by
  have settles (settled : reader.Settled stream) : next.Settled stream := by
    refine ⟨fetches.command.trans settled.command, fetches.abortFlag.trans settled.clear, ?_⟩
    rw [fetches.start, fetches.delivered, fetches.remaining, fetches.nextBuf]
    exact ready _ _ settled.clear settled.ready
  unfold Phase at phase ⊢
  rw [fetches.point]
  split at phase
  · exact settles phase
  · exact ⟨settles phase.1, fetches.remaining.trans phase.2⟩
  · exact ⟨phase.1, fetches.command.trans phase.2.1, notSeeking phase.2.2⟩
  · exact ⟨phase.1, fetches.command.trans phase.2.1, notSeeking phase.2.2⟩
  · refine ⟨phase.1, phase.2.imp ?_ (sought _)⟩
    rintro ⟨command, waits, kind⟩
    exact ⟨fetches.command.trans command, fetches.seekDone.trans waits, notSeeking kind⟩
  · trivial
  · trivial

theorem notSeeking_beginBatch (top : reader.prefetcher = .top) : reader.beginBatch.NotSeeking := by
  unfold beginBatch
  split
  · simp only [NotSeeking, top]
  · rfl

theorem Delivers.beginBatch (delivers : reader.Delivers stream)
    (top : reader.prefetcher = .top) (needed : reader.shared.needData = true) :
    reader.beginBatch.Delivers stream := by
  have running : reader.prefetcher ≠ .exited := by rw [top]; nofun
  have fetches := fetches_beginBatch reader
  refine delivers.prefetch running fetches.delivered fetches.start fetches.lastRead
    (.inl fetches.error) ?_
  refine delivers.phase.fetches fetches (fun _ _ _ ready => ready.beginBatch top)
    (fun _ => notSeeking_beginBatch top) fun target sought => ?_
  exact absurd ((sought.resting top).symm.trans needed) (by decide)

theorem Phase.posted (phase : reader.Phase stream) (posted : reader.shared.command ≠ .continue) :
    (∃ target, reader.point = .waiting target ∧ target < stream.segments.length ∧
      reader.shared.command = .seek target ∧ reader.shared.seekDone = false) ∨
    reader.point = .dropping ∨ reader.point = .dropped := by
  unfold Phase at phase
  split at phase
  · exact absurd phase.command posted
  · exact absurd phase.1.command posted
  · exact absurd phase.2.1 posted
  · exact absurd phase.2.1 posted
  · next target waiting =>
      obtain ⟨within, ⟨command, waits, -⟩ | sought⟩ := phase
      · exact .inl ⟨target, waiting, within, command, waits⟩
      · exact absurd sought.command posted
  · next dropping => exact .inr (.inl dropping)
  · next dropped => exact .inr (.inr dropped)

theorem Delivers.beginSeek (delivers : reader.Delivers stream) {target : Nat}
    (top : reader.prefetcher = .top) (command : reader.shared.command = .seek target) :
    (reader.beginSeek stream target).Delivers stream := by
  have running : reader.prefetcher ≠ .exited := by rw [top]; nofun
  refine delivers.prefetch running rfl rfl rfl (.inl rfl) ?_
  unfold Phase
  have point : (reader.beginSeek stream target).point = reader.point := rfl
  rw [point]
  rcases delivers.phase.posted (by rw [command]; nofun) with
    ⟨sought, waiting, within, posted, waits⟩ | dropping | dropped
  · cases posted.symm.trans command
    simp only [waiting]
    refine ⟨within, .inr ⟨rfl, ready_beginSeek reader within.le, ?_, nofun⟩⟩
    exact fun done => absurd (waits.symm.trans done) (by decide)
  · simp only [dropping]
  · simp only [dropped]

theorem Delivers.takeCommand (delivers : reader.Delivers stream)
    (top : reader.prefetcher = .top) (needed : reader.shared.needData = true) :
    (reader.takeCommand stream).Delivers stream := by
  unfold HlsReader.takeCommand
  split
  · next command =>
      have running : reader.prefetcher ≠ .exited := by rw [top]; nofun
      refine delivers.prefetch running rfl rfl rfl (.inr rfl) ?_
      unfold Phase
      -- The command to stop is posted by `drop` only.
      rcases delivers.phase.posted (by rw [command]; nofun) with
        ⟨target, -, -, posted, -⟩ | dropping | dropped
      · exact absurd (posted.symm.trans command) nofun
      · simp only [dropping]
      · simp only [dropped]
  · next target command => exact delivers.beginSeek top command
  · exact delivers.beginBatch top needed

theorem NotSeeking.fetchNext (failure : Option String) (notSeeking : reader.NotSeeking)
    (fetching : reader.prefetcher = .fetching batch) :
    (reader.fetchNext stream batch failure).NotSeeking := by
  simp only [NotSeeking, fetching] at notSeeking
  obtain ⟨_, _, later, same, rfl | ⟨_, rfl⟩, kind, -⟩ := fetchNext_eq stream reader batch failure
  all_goals
    rw [same]
    exact kind.trans notSeeking

theorem fetchNext_ne_top (stream : Stream Seconds) (reader : HlsReader Seconds)
    (batch : Batch Seconds) (failure : Option String) :
    (reader.fetchNext stream batch failure).prefetcher ≠ .top := by
  obtain ⟨_, _, later, same, rfl | ⟨_, rfl⟩, -⟩ := fetchNext_eq stream reader batch failure
  all_goals simp [same]

theorem Delivers.fetchNext (delivers : reader.Delivers stream) (failure : Option String)
    (fetching : reader.prefetcher = .fetching batch) :
    (reader.fetchNext stream batch failure).Delivers stream := by
  have running : reader.prefetcher ≠ .exited := by rw [fetching]; nofun
  have fetches := fetches_fetchNext stream reader batch failure
  refine delivers.prefetch running fetches.delivered fetches.start fetches.lastRead
    (.inl fetches.error) ?_
  refine delivers.phase.fetches fetches
    (fun _ _ clear ready => ready.fetchNext failure fetching (.inr clear))
    (fun notSeeking => notSeeking.fetchNext failure fetching) fun target sought => ?_
  refine ⟨fetches.command.trans sought.command, ?_, ?_, fun top =>
    absurd top (fetchNext_ne_top stream reader batch failure)⟩
  · rw [fetches.nextBuf]
    exact sought.ready.fetchNext failure fetching (.inl rfl)
  · intro done
    rcases sought.stored (fetches.seekDone ▸ done) with top | exited
    · exact absurd (fetching.symm.trans top) nofun
    · exact absurd exited running

/-- A step that stores a batch, or its failed part, and rests or exits. -/
structure Stores (reader : HlsReader Seconds) (batch : Batch Seconds)
    (next : HlsReader Seconds) : Prop where
  point : next.point = reader.point
  abortFlag : next.abortFlag = reader.abortFlag
  start : next.start = reader.start
  delivered : next.delivered = reader.delivered
  lastRead : next.lastRead = reader.lastRead
  remaining : next.remaining = reader.remaining
  nextBuf : next.shared.nextBuf = reader.shared.nextBuf ++ batch.tmpBuf
  command : next.shared.command = reader.shared.command
  needData : next.shared.needData = false
  rests : next.prefetcher = .top ∨ next.prefetcher = .exited
  error : next.shared.error = reader.shared.error ∨ next.prefetcher = .exited

theorem stores_store (fetchError : Option String)
    (current : ¬ (batch.seeking = false ∧ reader.shared.command ≠ .continue)) :
    Stores reader batch (reader.store batch fetchError) := by
  unfold store
  rw [if_neg current]
  cases fetchError with
  | some error =>
    exact ⟨rfl, rfl, rfl, rfl, rfl, rfl, rfl, rfl, rfl, .inr rfl, .inr rfl⟩
  | none => exact ⟨rfl, rfl, rfl, rfl, rfl, rfl, rfl, rfl, rfl, .inl rfl, .inl rfl⟩

theorem notSeeking_of_rests (rests : next.prefetcher = .top ∨ next.prefetcher = .exited) :
    next.NotSeeking := by
  unfold NotSeeking
  rcases rests with rests | rests <;> simp only [rests]

theorem Phase.stores {fetchError : Option String} (phase : reader.Phase stream)
    (fetched : reader.prefetcher = .fetched batch fetchError)
    (current : ¬ (batch.seeking = false ∧ reader.shared.command ≠ .continue))
    (stores : Stores reader batch next)
    (ready : ∀ seeking first held, reader.Ready stream seeking first held →
      next.Ready stream seeking first (held ++ batch.tmpBuf)) :
    next.Phase stream := by
  have settles (settled : reader.Settled stream) : next.Settled stream := by
    refine ⟨stores.command.trans settled.command, stores.abortFlag.trans settled.clear, ?_⟩
    rw [stores.start, stores.delivered, stores.remaining, stores.nextBuf, ← append_assoc]
    exact ready _ _ _ settled.ready
  have notSeeking := notSeeking_of_rests stores.rests
  unfold Phase at phase ⊢
  rw [stores.point]
  split at phase
  · exact settles phase
  · exact ⟨settles phase.1, stores.remaining.trans phase.2⟩
  · exact ⟨phase.1, stores.command.trans phase.2.1, notSeeking⟩
  · exact ⟨phase.1, stores.command.trans phase.2.1, notSeeking⟩
  · obtain ⟨within, ⟨command, -, kind⟩ | sought⟩ := phase
    · -- A batch that a posted seek has overtaken is not stored.
      simp only [NotSeeking, fetched] at kind
      exact absurd ⟨kind, by rw [command]; nofun⟩ current
    · refine ⟨within, .inr ⟨stores.command.trans sought.command, ?_, fun _ => stores.rests,
        fun _ => stores.needData⟩⟩
      rw [stores.nextBuf]
      exact ready _ _ _ sought.ready
  · trivial
  · trivial

theorem Phase.discard (phase : reader.Phase stream) (stale : reader.shared.command ≠ .continue) :
    { reader with prefetcher := .top }.Phase stream := by
  unfold Phase
  rcases phase.posted stale with ⟨target, waiting, within, posted, waits⟩ | dropping | dropped
  · simp only [waiting]
    exact ⟨within, .inl ⟨posted, waits, trivial⟩⟩
  · simp only [dropping]
  · simp only [dropped]

theorem Delivers.store (delivers : reader.Delivers stream) {fetchError : Option String}
    (fetched : reader.prefetcher = .fetched batch fetchError) :
    (reader.store batch fetchError).Delivers stream := by
  have running : reader.prefetcher ≠ .exited := by rw [fetched]; nofun
  by_cases stale : batch.seeking = false ∧ reader.shared.command ≠ .continue
  · unfold HlsReader.store
    rw [if_pos stale]
    exact delivers.prefetch running rfl rfl rfl (.inl rfl) (delivers.phase.discard stale.2)
  · have stores := stores_store fetchError stale
    refine delivers.prefetch running stores.delivered stores.start stores.lastRead stores.error ?_
    exact delivers.phase.stores fetched stale stores fun _ _ _ ready => ready.store fetched stale

/-! ### The reader -/

theorem serve_remaining (reader : HlsReader Seconds) (size : Nat) :
    reader.remaining.take size ++ (reader.serve size).remaining = reader.remaining := by
  have same := prefix_iff_eq_take.mp (List.take_prefix size reader.remaining)
  have rest : (reader.serve size).remaining =
      reader.remaining.drop (reader.remaining.take size).length := by
    rw [remaining, remaining, drop_drop]
    rfl
  rw [rest]
  nth_rewrite 1 [same]
  exact take_append_drop _ _

theorem Settled.serve (settled : reader.Settled stream) (size : Nat) :
    (reader.serve size).Settled stream := by
  refine ⟨settled.command, settled.clear, ?_⟩
  have same : (reader.serve size).delivered ++ (reader.serve size).remaining =
      reader.delivered ++ reader.remaining := by
    conv_rhs => rw [← serve_remaining reader size]
    exact append_assoc _ _ _
  rw [same]
  exact settled.ready

theorem Settled.deliversServe (settled : reader.Settled stream) (size : Nat)
    (alive : reader.shared.error.isSome = true → reader.prefetcher = .exited) :
    (reader.serve size).Delivers stream where
  delivered := (settled.serve size).delivered
  failed := nofun
  alive := alive
  phase := settled.serve size

theorem Settled.wakeEarly (settled : reader.Settled stream) (locked : Bool) :
    (reader.wakeEarly locked).Settled stream := by
  unfold HlsReader.wakeEarly
  split
  · exact { settled with }
  · exact settled

theorem wakeEarly_alive (locked : Bool)
    (alive : reader.shared.error.isSome = true → reader.prefetcher = .exited) :
    (reader.wakeEarly locked).shared.error.isSome = true →
      (reader.wakeEarly locked).prefetcher = .exited := by
  unfold wakeEarly
  split <;> exact alive

theorem Settled.swap (settled : reader.Settled stream) (used : reader.remaining = []) :
    reader.swap.Settled stream := by
  refine ⟨settled.command, settled.clear, ?_⟩
  have same : reader.swap.delivered ++ reader.swap.remaining ++ reader.swap.shared.nextBuf =
      reader.delivered ++ reader.remaining ++ reader.shared.nextBuf := by
    rw [used]
    simp [HlsReader.swap, remaining]
  rw [same]
  exact settled.ready

section

variable (delivers : reader.Delivers stream)
include delivers

theorem Delivers.settled (idle : reader.point = .idle) : reader.Settled stream := by
  have phase := delivers.phase
  unfold Phase at phase
  rwa [idle] at phase

/-- A step that waits, raises the flag or posts a command changes nothing that has been
read or is held. -/
theorem Delivers.signal {point : ReaderPoint} {abortFlag needData seekDone : Bool}
    {lastSeek : Option (Except String Nat)} {command : PrefetchCommand}
    (moved : next = { reader with
      point, abortFlag, lastSeek, shared := { reader.shared with needData, seekDone, command } })
    (phase : next.Phase stream) : next.Delivers stream := by
  subst moved
  refine ⟨delivers.delivered, fun message failed => ?_, delivers.alive, phase⟩
  obtain ⟨exited, isSome, drained, before⟩ := delivers.failed message failed
  exact ⟨exited, isSome, drained, before⟩

theorem Delivers.read (idle : reader.point = .idle)
    (size : Nat) (locked : Bool) : (reader.read size locked).Delivers stream := by
  have settled := delivers.settled idle
  unfold HlsReader.read
  split
  · refine ⟨delivers.delivered, nofun, delivers.alive, ?_⟩
    simp only [Phase, idle]
    exact { settled with }
  · split
    · exact (settled.wakeEarly locked).deliversServe size (wakeEarly_alive locked delivers.alive)
    · next used =>
        refine delivers.signal rfl ⟨?_, ?_⟩
        · exact { settled with }
        · exact drop_eq_nil_of_le (Nat.le_of_not_lt used)

/-- A stored error is returned when both buffers are empty, and what has been read is
then everything before the segment that failed. -/
theorem Delivers.exhausted (settled : reader.Settled stream)
    (used : reader.remaining = []) (empty : reader.shared.nextBuf = [])
    (failed : reader.shared.error.isSome = true) : reader.Exhausted stream := by
  have exited := delivers.alive failed
  have ready := settled.ready
  rw [used, empty, append_nil, append_nil] at ready
  simp only [Ready, exited] at ready
  exact ⟨exited, failed, ⟨used, empty⟩, ready.2⟩

theorem Delivers.readLocked {size : Nat}
    (reading : reader.point = .reading size) : (reader.readLocked size).Delivers stream := by
  have phase := delivers.phase
  unfold Phase at phase
  rw [reading] at phase
  obtain ⟨settled, used⟩ := phase
  have idles (lastRead : Option (Except String Nat)) :
      { reader with point := .idle, lastRead := lastRead }.Settled stream :=
    { settled with }
  unfold HlsReader.readLocked
  split
  · exact (settled.swap used).deliversServe size delivers.alive
  · next empty =>
      split
      · next error found =>
          refine ⟨delivers.delivered, fun _ _ => ?_, delivers.alive, idles _⟩
          obtain ⟨exited, isSome, drained, delivered⟩ :=
            delivers.exhausted settled used (not_not.mp empty) (by rw [found]; rfl)
          exact ⟨exited, isSome, drained, delivered⟩
      · split
        · exact ⟨delivers.delivered, nofun, delivers.alive, idles _⟩
        · refine delivers.signal rfl ?_
          simp only [Phase, reading]
          exact ⟨{ settled with }, used⟩

end

theorem Ready.rests (ready : reader.Ready stream seeking first held)
    (rests : reader.prefetcher = .top ∨ reader.prefetcher = .exited) (other : Bool) :
    reader.Ready stream other first held := by
  unfold Ready at ready ⊢
  rcases rests with rests | rests <;> simpa only [rests] using ready

theorem Delivers.finishSeek (delivers : reader.Delivers stream) {target : Nat}
    (waiting : reader.point = .waiting target) (done : reader.shared.seekDone = true) :
    (reader.finishSeek target).Delivers stream := by
  have phase := delivers.phase
  unfold Phase at phase
  rw [waiting] at phase
  obtain ⟨-, ⟨-, waits, -⟩ | sought⟩ := phase
  · exact absurd (waits.symm.trans done) (by decide)
  · have ready := sought.ready.rests (sought.stored done) false
    have held : (reader.finishSeek target).delivered ++ (reader.finishSeek target).remaining ++
        (reader.finishSeek target).shared.nextBuf = reader.shared.nextBuf := by
      simp [HlsReader.finishSeek, swap, remaining]
    have settled : (reader.finishSeek target).Settled stream := by
      refine ⟨sought.command, rfl, ?_⟩
      rw [held]
      exact ready
    exact ⟨settled.delivered, nofun, delivers.alive, settled⟩

theorem new_ok {mapFailure firstFailure : Option String}
    (opened : new stream mapFailure firstFailure = .ok reader) :
    ∃ segment rest bytes, stream.segments = segment :: rest ∧
      stream.fetchAndDemux segment firstFailure = .ok bytes ∧
      reader =
        { buf := stream.map.getD [] ++ bytes
          shared := { pending := rest, currentSegmentIndex := 1 } } := by
  unfold new at opened
  split at opened
  · cases opened
  · next segment rest segments =>
      split at opened
      · cases opened
      · cases fetched : stream.fetchAndDemux segment firstFailure with
        | error error =>
          rw [fetched] at opened
          cases opened
        | ok bytes =>
          rw [fetched] at opened
          cases opened
          exact ⟨segment, rest, bytes, segments, fetched, rfl⟩

theorem delivers_new {mapFailure firstFailure : Option String}
    (opened : new stream mapFailure firstFailure = .ok reader) : reader.Delivers stream := by
  obtain ⟨segment, rest, bytes, segments, fetched, rfl⟩ := new_ok opened
  have first : stream.span 0 1 = stream.map.getD [] ++ bytes := by
    simp [Stream.span, segments, Stream.bytesOf_of_fetched fetched]
  have settled : (mk (stream.map.getD [] ++ bytes) 0
      { pending := rest, currentSegmentIndex := 1 } false .idle .top 0 [] none none
      none).Settled stream := by
    refine ⟨rfl, rfl, Nat.zero_le 1, ?_, ?_, ?_, by simp⟩
    · rw [segments, length_cons]
      exact Nat.le_add_left 1 _
    · rw [segments]
      rfl
    · simp [remaining, first]
  exact ⟨settled.delivered, by simp, by simp, settled⟩

section Durations

variable [Zero Seconds] [Add Seconds] [LE Seconds] [DecidableLE Seconds] [LT Seconds]
  [DecidableLT Seconds]

theorem targetIndex_lt (stream : Stream Seconds) (seekable : stream.hasDurations = true)
    (positionMs : Nat) : stream.targetIndex positionMs < stream.segments.length := by
  have nonempty : stream.segments ≠ [] := by
    intro empty
    simp [Stream.hasDurations, Stream.segmentDurations, empty] at seekable
  have positive := length_pos_iff.mpr nonempty
  unfold Stream.targetIndex
  simp only
  split <;> omega

theorem Delivers.seek (delivers : reader.Delivers stream) (idle : reader.point = .idle)
    (origin : SeekFrom) : (reader.seek stream origin).Delivers stream := by
  have settled := delivers.settled idle
  have refused (lastSeek : Option (Except String Nat)) :
      { reader with lastSeek := lastSeek }.Delivers stream := by
    refine delivers.signal rfl ?_
    simp only [Phase, idle]
    exact { settled with }
  cases origin with
  | current _ | fromEnd _ => exact refused _
  | start positionMs =>
    simp only [HlsReader.seek, seekToMs]
    split
    · exact refused _
    · next noError =>
        split
        · next seekable =>
            refine ⟨delivers.delivered, fun error failed => ?_, delivers.alive,
              targetIndex_lt stream seekable positionMs, settled.command, ?_⟩
            · have isSome := (delivers.failed error failed).error
              rw [noError] at isSome
              cases isSome
            · exact settled.ready.notSeeking
        · exact refused _

theorem Delivers.step {next : HlsReader Seconds} {act : HlsAct} (delivers : reader.Delivers stream)
    (stepped : (hlsSystem stream).step reader act = some next) : next.Delivers stream := by
  have phase := delivers.phase
  unfold Phase at phase
  cases steps_of_step stepped with
  | read size locked idle => exact delivers.read idle size locked
  | readLocked reading => exact delivers.readLocked reading
  | seek origin idle => exact delivers.seek idle origin
  | raiseAbort aborting =>
    rw [aborting] at phase
    exact delivers.signal rfl phase
  | postSeek posting =>
    rw [posting] at phase
    exact delivers.signal rfl
      ⟨phase.1, .inl ⟨rfl, rfl, phase.2.2⟩⟩
  | finishSeek waiting done => exact delivers.finishSeek waiting done
  | drop _ | postStop _ => exact delivers.signal rfl trivial
  | takeCommand top needed => exact delivers.takeCommand top needed
  | fetchNext failure fetching => exact delivers.fetchNext failure fetching
  | store fetched => exact delivers.store fetched

theorem reached_delivers {mapFailure firstFailure : Option String} {final : HlsReader Seconds}
    (acts : List HlsAct) (opened : new stream mapFailure firstFailure = .ok reader)
    (reached : (hlsSystem stream).run reader acts = some final) : final.Delivers stream :=
  (hlsSystem stream).run_invariant_of_step (Delivers stream)
    (fun delivers => delivers.step) acts (delivers_new opened) reached

/-- The positions of the last seek that was called and of the last that was completed. -/
def soughtBy (sought : Nat × Option Nat) : HlsAct → Nat × Option Nat
  | .seek (.start positionMs) => (positionMs, sought.2)
  | .finishSeek => (sought.1, some sought.1)
  | _ => sought

structure StartsAt (stream : Stream Seconds) (sought : Nat × Option Nat)
    (reader : HlsReader Seconds) : Prop where
  start : reader.start = (sought.2.map stream.targetIndex).getD 0
  target : ∀ target ∈ reader.point.target, target = stream.targetIndex sought.1

variable {sought : Nat × Option Nat} {next : HlsReader Seconds}

omit [LT Seconds] [DecidableLT Seconds] in
theorem StartsAt.same (starts : reader.StartsAt stream sought) (start : next.start = reader.start)
    (point : next.point = reader.point ∨ next.point.target = none) :
    next.StartsAt stream sought := by
  refine ⟨start.trans starts.start, fun target found => ?_⟩
  rcases point with same | none
  · exact starts.target target (same ▸ found)
  · cases none.symm.trans found

theorem StartsAt.step {act : HlsAct} (starts : reader.StartsAt stream sought)
    (stepped : (hlsSystem stream).step reader act = some next) :
    next.StartsAt stream (soughtBy sought act) := by
  cases steps_of_step stepped with
  | read size locked idle =>
    unfold HlsReader.read
    split
    · exact starts.same rfl (.inl rfl)
    split
    · have woken : (reader.wakeEarly locked).start = reader.start := by
        unfold wakeEarly
        split <;> rfl
      exact starts.same woken (.inr rfl)
    · exact starts.same rfl (.inr rfl)
  | readLocked reading =>
    unfold HlsReader.readLocked
    split
    · exact starts.same rfl (.inr rfl)
    split
    · exact starts.same rfl (.inr rfl)
    split
    · exact starts.same rfl (.inr rfl)
    · exact starts.same rfl (.inl rfl)
  | seek origin idle =>
    have refused : ∀ target, target ∉ reader.point.target := by
      rw [idle]
      exact nofun
    cases origin with
    | current _ | fromEnd _ => exact starts.same rfl (.inl rfl)
    | start positionMs =>
      simp only [HlsReader.seek, seekToMs]
      split
      · exact ⟨starts.start, fun target found => (refused target found).elim⟩
      split
      · exact ⟨starts.start, fun target found => (Option.some.inj found).symm⟩
      · exact ⟨starts.start, fun target found => (refused target found).elim⟩
  | raiseAbort point | postSeek point =>
    exact ⟨starts.start, fun target found => starts.target target (by rw [point]; exact found)⟩
  | finishSeek waiting done =>
    exact ⟨starts.target _ (by rw [waiting]; rfl), nofun⟩
  | drop _ | postStop _ => exact starts.same rfl (.inr rfl)
  | takeCommand top needed =>
    simp only [HlsReader.takeCommand]
    split
    · exact starts.same rfl (.inl rfl)
    · exact starts.same rfl (.inl rfl)
    · exact starts.same (fetches_beginBatch reader).start (.inl (fetches_beginBatch reader).point)
  | @fetchNext batch failure fetching =>
    have fetches := fetches_fetchNext stream reader batch failure
    exact starts.same fetches.start (.inl fetches.point)
  | store fetched =>
    simp only [HlsReader.store]
    repeat' split
    all_goals exact starts.same rfl (.inl rfl)

theorem run_startsAt {final : HlsReader Seconds} (acts : List HlsAct)
    (starts : reader.StartsAt stream sought)
    (reached : (hlsSystem stream).run reader acts = some final) :
    final.StartsAt stream (acts.foldl soughtBy sought) := by
  induction acts generalizing reader sought with
  | nil =>
    cases reached
    exact starts
  | cons act rest ih =>
    obtain ⟨next, stepped, later⟩ := (hlsSystem stream).run_cons_some reached
    exact ih (starts.step stepped) later

omit [LT Seconds] [DecidableLT Seconds] in
theorem startsAt_new {mapFailure firstFailure : Option String}
    (opened : new stream mapFailure firstFailure = .ok reader) :
    reader.StartsAt stream (0, none) := by
  obtain ⟨segment, rest, bytes, -, -, rfl⟩ := new_ok opened
  exact ⟨rfl, nofun⟩

/-- The last seek that was completed has set the start.  What has been read since is a prefix of
the init segment and the segments from there on; and an error comes when everything before the
segment that failed has been read. -/
theorem hls_reader_delivers_stream (stream : Stream Seconds)
    (mapFailure firstFailure : Option String) (reader final : HlsReader Seconds)
    (acts : List HlsAct) (opened : new stream mapFailure firstFailure = .ok reader)
    (reached : (hlsSystem stream).run reader acts = some final) :
    final.start = ((acts.foldl soughtBy (0, none)).2.map stream.targetIndex).getD 0 ∧
    final.delivered <+: stream.content final.start ∧
      ∀ error, final.lastRead = some (.error error) →
        ∃ failed, final.failedAt = some failed ∧ final.start ≤ failed ∧
          final.delivered = stream.span final.start failed := by
  have delivers := reached_delivers acts opened reached
  have starts := run_startsAt acts (startsAt_new opened) reached
  exact ⟨starts.start, delivers.delivered, fun error failed =>
    (delivers.failed error failed).delivered⟩

/-- Three segments of one second, and an init segment. -/
def sampleStream : Stream Nat where
  map := some [1]
  segments := [⟨[2], some 1⟩, ⟨[3], some 1⟩, ⟨[4], some 1⟩]
  extractAdts := id
  ofMillis := fun positionMs => positionMs / 1000

def sampleReader : HlsReader Nat where
  buf := [1, 2]
  shared := { pending := [⟨[3], some 1⟩, ⟨[4], some 1⟩], currentSegmentIndex := 1 }

/-- A seek to the second segment cuts a batch short, which is stored before the command is
posted; then the third segment fails. -/
def seekThenFail : List HlsAct :=
  [.takeCommand, .read 4 true, .fetchNext none, .seek (.start 1000), .raiseAbort,
    .fetchNext none, .store, .postSeek, .takeCommand, .fetchNext none, .fetchNext none, .store,
    .finishSeek, .takeCommand, .fetchNext (some "HTTP 500"), .store, .read 8 true, .read 8 true,
    .readLocked]

theorem error_after_second_segment :
    ∃ final, new sampleStream none none = .ok sampleReader ∧
      (hlsSystem sampleStream).run sampleReader seekThenFail = some final ∧
      final.lastRead = some (.error "HTTP 500") ∧
      final.start = 1 ∧ final.delivered <+: sampleStream.content final.start ∧
      ∃ failed, final.failedAt = some failed ∧ final.start ≤ failed ∧
        final.delivered = sampleStream.span final.start failed := by
  have opened : new sampleStream none none = .ok sampleReader := rfl
  have outcome : ((hlsSystem sampleStream).run sampleReader seekThenFail).map
      lastRead = some (some (.error "HTTP 500")) := by decide
  obtain ⟨final, reached, failed⟩ := Option.map_eq_some_iff.mp outcome
  have delivers :=
    hls_reader_delivers_stream sampleStream none none sampleReader final seekThenFail opened reached
  have start : final.start = 1 := delivers.1.trans (by decide)
  exact ⟨final, opened, reached, failed, start, delivers.2.1, delivers.2.2 "HTTP 500" failed⟩

theorem end_of_stream_complete {mapFailure firstFailure : Option String}
    {final : HlsReader Seconds} (acts : List HlsAct)
    (opened : new stream mapFailure firstFailure = .ok reader)
    (reached : (hlsSystem stream).run reader acts = some final) {size : Nat}
    (reading : final.point = .reading size) (empty : final.shared.nextBuf = [])
    (noError : final.shared.error = none) (ended : final.shared.eos = true) :
    final.delivered = stream.content final.start := by
  have phase := (reached_delivers acts opened reached).phase
  unfold Phase at phase
  rw [reading] at phase
  obtain ⟨settled, used⟩ := phase
  have ready := settled.ready
  rw [used, empty, append_nil, append_nil] at ready
  unfold Ready at ready
  split at ready
  · obtain ⟨-, within, ahead, delivered, last⟩ := ready
    have all : stream.segments.length ≤ final.shared.currentSegmentIndex :=
      drop_eq_nil_iff.mp (ahead.trans (last ended))
    rw [delivered, Nat.le_antisymm within all, Stream.span_length]
  · exact absurd (ready.2.2.2.symm.trans ended) (by decide)
  · exact absurd (ready.2.2.2.1.symm.trans ended) (by decide)
  · exact absurd (ready.2.2.2.1.symm.trans ended) (by decide)
  · rw [noError] at ready
    cases ready.1

def playToEnd : List HlsAct :=
  [.takeCommand, .fetchNext none, .fetchNext none, .fetchNext none, .store, .read 8 true,
    .read 8 true, .readLocked, .read 8 true]

theorem whole_stream_played :
    ∃ final, (hlsSystem sampleStream).run sampleReader playToEnd = some final ∧
      final.delivered = [1, 2, 3, 4] := by
  have opened : new sampleStream none none = .ok sampleReader := rfl
  exact ⟨_, rfl, end_of_stream_complete playToEnd opened rfl rfl rfl rfl rfl⟩

/-- A seek that is posted after the prefetcher has exited never returns: no step is left. -/
theorem step_none_of_abandoned {target : Nat} (waiting : reader.point = .waiting target)
    (exited : reader.prefetcher = .exited) (notDone : reader.shared.seekDone = false)
    (act : HlsAct) : (hlsSystem stream).step reader act = none := by
  cases act <;> simp [hlsSystem, step, waiting, exited, notDone]

end Durations

end HlsReader

end KizunaLink.Hls
