import KizunaLink.Youtube.ErrorBudget

/-!
# The error channel of a YouTube track

With two messages the second sender waits while the track is paused: the task
keeps the command channel, the monitor looks for a stuck track only while it
plays, and so nobody sees `Stopped` and nobody reads the channel.  With at most
one message no sender waits at all.
-/

set_option autoImplicit false

namespace KizunaLink.Youtube

open KizunaLink.Lib List

namespace YoutubeTrack

def Exited (track : YoutubeTrack) : Sender → Prop
  | .task => track.task = .exited
  | .decoder client => ∀ decoder, track.decoder = some decoder → decoder.client = client →
      ¬ decoder.point.Active

/-- The monitor has read the state `Stopped`. -/
def SeenStopped (track : YoutubeTrack) : Prop :=
  track.monitor = .sawStopped ∨ ∃ reason exception, track.monitor = .reported reason exception

/-- A sender waits, and however the program goes on from here, the monitor has seen
`Stopped` only where that sender has exited. -/
def CircularWait (track : YoutubeTrack) : Prop :=
  ∃ sender, track.Blocked sender ∧ ∀ acts after,
    partySystem.run track acts = some after → after.SeenStopped → after.Exited sender

variable {track : YoutubeTrack}

/-- The second message waits while the track is paused. -/
structure Stalled (sender : Sender) (track : YoutubeTrack) : Prop where
  blocked : track.Blocked sender
  attends : ∀ client, sender = .decoder client → track.task.Attends
  handle : track.handleAlive = true
  monitor : track.monitor = .waiting
  cell : track.cell = .paused
  mixing : track.mixing = none

variable {sender : Sender}

theorem Stalled.task_ne_exited (stalled : track.Stalled sender) : track.task ≠ .exited := by
  intro exited
  cases sender with
  | task =>
    obtain ⟨_, _, message, selects, posting⟩ := stalled.blocked
    rw [posting] at exited
    cases exited
  | decoder client =>
    have attends := stalled.attends client rfl
    rw [exited] at attends
    cases attends

theorem Blocked.post (blocked : track.Blocked sender) (message : String) :
    track.post message = none := by
  have full : track.monitor.receives = true ∧ track.errors ≠ [] := by
    cases sender with
    | task | decoder _ => exact ⟨blocked.1, blocked.2.1⟩
  simp [YoutubeTrack.post, full.1, if_neg full.2]

theorem Stalled.tick (stalled : track.Stalled sender) : track.tick.Stalled sender := by
  have seen : track.stateSeen = .paused := by
    rw [stateSeen, if_neg fun gone => stalled.task_ne_exited gone.2]
    exact stalled.cell
  have waiting : track.tick.monitor = track.monitor := by
    simp [YoutubeTrack.tick, seen, stalled.monitor]
  refine { stalled with
    blocked := ?_, monitor := waiting.trans stalled.monitor, cell := seen }
  have blocked := stalled.blocked
  cases sender with
  | task | decoder _ => exact ⟨(congrArg MonitorPoint.receives waiting).trans blocked.1, blocked.2⟩

theorem Stalled.mixerLoads (stalled : track.Stalled sender) : track.mixerLoads.Stalled sender := by
  have same : track.mixerLoads = track := by
    simp only [YoutubeTrack.mixerLoads, stalled.cell]
  rw [same]
  exact stalled

theorem Stalled.task_step {after : YoutubeTrack} {act : PartyAct} (stalled : track.Stalled .task)
    (stepped : track.partyStep act = some after) : after.Stalled .task := by
  obtain ⟨listens, full, message, selects, posting⟩ := stalled.blocked
  have decoding : ∀ {decoder : Option Decoder} {endedOk : Bool} {deliveredTo : Nat}
      {begins : List (Nat × Nat)},
      Stalled .task { track with decoder, endedOk, deliveredTo, begins } :=
    { stalled with blocked := ⟨listens, full, message, selects, posting⟩ }
  cases partyStep_move stepped with
  | resolve point | openReader point | spawn point | sendSeek point | receiveSeek point
  | receiveClosed point | forward point | decoderEnded point | decoderFailed point =>
    rw [posting] at point
    cases point
  | taskPosts _ post | decoderPosts _ _ post =>
    rw [stalled.blocked.post] at post
    cases post
  | construct =>
    simp only [construct]
    split <;> exact decoding
  | checkCommands =>
    simp only [checkCommands]
    split
    · split <;> exact decoding
    all_goals exact decoding
  | packet =>
    simp only [packet]
    split
    · exact decoding
    · split <;> exact decoding
  | endRun _ _ ended =>
    simp only [endRun] at ended
    split at ended
    all_goals cases ended
    all_goals exact decoding
  | tick => exact stalled.tick
  | mixerLoads => exact stalled.mixerLoads
  | checkStuck point | endMarker point | report point =>
    rw [stalled.monitor] at point
    cases point
  | mixerStops mixing => exact absurd stalled.mixing mixing
  | mixerReturns mixing =>
    rw [stalled.mixing] at mixing
    cases mixing

theorem Stalled.decoder_step {after : YoutubeTrack} {act : PartyAct} {client : Nat}
    (stalled : track.Stalled (.decoder client)) (stepped : track.partyStep act = some after) :
    after.Stalled (.decoder client) := by
  obtain ⟨listens, full, decoder, error, current, number, posting⟩ := stalled.blocked
  have attends := stalled.attends client rfl
  have waits : ∀ {other : Decoder} {point : DecoderPoint}, track.decoder = some other →
      other.point = point → .posting error = point := by
    intro other point found at_
    rw [current] at found
    cases found
    exact posting.symm.trans at_
  -- a command in the decoder's channel does not wake it
  have commanded : ∀ {task : TaskPoint} {commands : List Nat} {currentSeekMs : Nat}
      (command : DecoderCommand), task.Attends → Stalled (.decoder client) { track with
        task, commands, currentSeekMs
        decoder := track.decoder.map fun decoder => decoder.command command } := by
    intro task commands currentSeekMs command still
    refine { stalled with
      blocked := ⟨listens, full, decoder.command command, error, ?_, number, posting⟩
      attends := fun _ _ => still }
    simp [current]
  have quiet : ∀ {task : TaskPoint} {commands : List Nat} {currentSeekMs : Nat},
      task.Attends →
      Stalled (.decoder client) { track with task, commands, currentSeekMs } := by
    intro task commands currentSeekMs still
    exact { stalled with
      blocked := ⟨listens, full, decoder, error, current, number, posting⟩
      attends := fun _ _ => still }
  cases partyStep_move stepped with
  | resolve point | openReader point | spawn point | taskPosts point =>
    rw [point] at attends
    cases attends
  | sendSeek =>
    simp only [sendSeek]
    split
    · exact commanded _ trivial
    · exact quiet trivial
  | receiveSeek => exact quiet trivial
  | receiveClosed _ dropped =>
    rw [stalled.handle] at dropped
    cases dropped
  | forward => exact commanded _ trivial
  | decoderEnded _ found ended =>
    rcases ended with finished | dropped
    · cases waits found finished
    · cases waits found dropped
  | decoderFailed _ found point | construct found point | checkCommands found point
  | packet found point | endRun found point => cases waits found point
  | decoderPosts _ _ post =>
    rw [stalled.blocked.post] at post
    cases post
  | tick => exact stalled.tick
  | mixerLoads => exact stalled.mixerLoads
  | checkStuck point | endMarker point | report point =>
    rw [stalled.monitor] at point
    cases point
  | mixerStops mixing => exact absurd stalled.mixing mixing
  | mixerReturns mixing =>
    rw [stalled.mixing] at mixing
    cases mixing

theorem Stalled.circularWait (stalled : track.Stalled sender) : track.CircularWait := by
  refine ⟨sender, stalled.blocked, fun acts after reached seen => ?_⟩
  have still : after.Stalled sender := by
    refine partySystem.run_invariant_of_step (Stalled sender) ?_ acts stalled reached
    intro state act next stalled stepped
    cases sender with
    | task => exact stalled.task_step stepped
    | decoder client => exact stalled.decoder_step stepped
  rcases seen with seen | ⟨reason, exception, seen⟩
  · rw [still.monitor] at seen
    cases seen
  · rw [still.monitor] at seen
    cases seen

/-! ### Reaching it -/

/-- A paused track that no seek has been sent to, with the monitor between ticks. -/
def pausedAt (identifier : String) (clients : List ClientOutcome) (threshold : Nat)
    (task : TaskPoint) (current : Nat) (decoder : Option Decoder) (errors : List String) :
    YoutubeTrack :=
  { identifier, clients, stuckThresholdMs := threshold, cell := .paused, task,
    currentClientIndex := current, decoder, errors }

section Paused

variable {identifier : String} {clients : List ClientOutcome} {threshold idx current : Nat}
  {decoder decoder₀ : Option Decoder} {errors : List String}

/-- From this state on the paused track comes to wait for ever. -/
def Stalls (track : YoutubeTrack) : Prop :=
  ∃ acts after sender, partySystem.run track acts = some after ∧ after.Stalled sender

theorem Stalls.after {later : YoutubeTrack} (acts : List PartyAct)
    (reached : partySystem.run track acts = some later) (stalls : later.Stalls) :
    track.Stalls := by
  obtain ⟨rest, after, sender, tail, stalled⟩ := stalls
  exact ⟨acts ++ rest, after, sender, (partySystem.run_append acts rest _ _ reached).trans tail,
    stalled⟩

theorem pausedAt_posting_stalls (message : String) (selects : Bool) (full : errors ≠ []) :
    (pausedAt identifier clients threshold (.posting message selects) current decoder
      errors).Stalls :=
  ⟨[], _, .task, rfl, ⟨rfl, full, message, selects, rfl⟩, nofun, rfl, rfl, rfl, rfl⟩

def nextPoint (clients : List ClientOutcome) (idx : Nat) (message : String) : TaskPoint :=
  if idx + 1 < clients.length then .resolving (idx + 1) else .posting message false

theorem pausedAt_nextPoint_stalls (message : String)
    (further : ∀ current decoder, (pausedAt identifier clients threshold (.resolving (idx + 1))
      current decoder errors).Stalls)
    (last : clients.length ≤ idx + 1 → errors ≠ []) :
    (pausedAt identifier clients threshold (nextPoint clients idx message) current decoder
      errors).Stalls := by
  simp only [nextPoint]
  split
  · exact further current decoder
  · rename_i outside
    exact pausedAt_posting_stalls message false (last (Nat.le_of_not_lt outside))

/-- The acts from a client's turn to the first turn of its decoder's loop. -/
def startDecoder : List PartyAct := [.resolve, .openReader, .spawn, .sendSeek, .construct]

theorem run_constructionFails {error : String}
    (found : clients[idx]? = some (.constructionFails error)) :
    ∃ message decoder, partySystem.run
        (pausedAt identifier clients threshold (.resolving idx) current decoder₀ errors)
        (startDecoder ++ [.decoderDone]) =
      some (pausedAt identifier clients threshold (nextPoint clients idx message) (idx + 1)
        decoder errors) := by
  refine ⟨"All clients failed: " ++ ("Failed to initialize processor: " ++ error),
    some { client := idx, point := .done (some ("Failed to initialize processor: " ++ error)) }, ?_⟩
  simp [startDecoder, System.run, partySystem, partyStep, pausedAt,
    resolve, openReader, spawn, sendSeek,
    decoderAt, construct, decoderDone, nextClient, found,
    nextPoint]

theorem run_runFails {error : RunError} (found : clients[idx]? = some (.runFails error)) :
    partySystem.run
        (pausedAt identifier clients threshold (.resolving idx) current decoder₀ errors)
        (startDecoder ++ [.checkCommands none, .endRun]) =
      some (pausedAt identifier clients threshold .selecting idx
        (some { client := idx, point := .posting error }) errors) := by
  simp [startDecoder, System.run, partySystem, partyStep, pausedAt,
    resolve, openReader, spawn, sendSeek,
    decoderAt, construct, checkCommands, endRun, found]

theorem run_firstPost {error : RunError} :
    ∃ message decoder, partySystem.run
        (pausedAt identifier clients threshold .selecting idx
          (some { client := idx, point := .posting error }) [])
        [.decoderPosts, .decoderDone] =
      some (pausedAt identifier clients threshold (nextPoint clients idx message) (idx + 1)
        decoder [error.message]) := by
  refine ⟨"All clients failed: " ++ error.text,
    some { client := idx, point := .done (some error.text) }, ?_⟩
  simp [System.run, partySystem, partyStep, pausedAt, decoderPosts,
    post, MonitorPoint.receives, decoderDone,
    nextClient, nextPoint]

theorem run_resolve :
    partySystem.run
        (pausedAt identifier clients threshold (.resolving idx) current decoder₀ errors)
        [.resolve] =
      some ((pausedAt identifier clients threshold (.resolving idx) current decoder₀
        errors).resolve idx) :=
  rfl

theorem run_openReader {client : ClientOutcome} (found : clients[idx]? = some client)
    (url : client ≠ .noUrl) :
    partySystem.run
        (pausedAt identifier clients threshold (.resolving idx) current decoder₀ errors)
        [.resolve, .openReader] =
      some (pausedAt identifier clients threshold .opening idx decoder₀ errors).openReader := by
  have stepped : partySystem.step (pausedAt identifier clients threshold (.resolving idx) current
      decoder₀ errors) .resolve =
      some (pausedAt identifier clients threshold .opening idx decoder₀ errors) := by
    show some (resolve _ idx) = _
    simp only [resolve, pausedAt, found]
  rw [partySystem.run_cons_of_step _ stepped]
  rfl

/-- By induction on the clients that are left: two messages in the channel and to
come bring the track to a halt. -/
theorem pausedAt_stalls (rest : List ClientOutcome) (left : clients.drop idx = rest)
    (room : errors.length ≤ 1) (two : 2 ≤ errors.length + posts rest) :
    (pausedAt identifier clients threshold (.resolving idx) current decoder₀ errors).Stalls := by
  induction rest generalizing idx current decoder₀ errors with
  | nil =>
    have missing : clients[idx]? = none :=
      List.getElem?_eq_none_iff.mpr (drop_eq_nil_iff.mp left)
    refine Stalls.after _ run_resolve ?_
    simp only [resolve, pausedAt, missing]
    exact pausedAt_posting_stalls _ false
      (length_pos_iff.mp (by simp only [posts] at two; omega))
  | cons client rest ih =>
    have inside : idx < clients.length := by
      refine Nat.lt_of_not_le fun outside => ?_
      rw [drop_eq_nil_of_le outside] at left
      cases left
    have split := drop_eq_getElem_cons inside
    rw [left] at split
    obtain ⟨first, tail⟩ := List.cons.inj split
    have found : clients[idx]? = some client := by
      rw [List.getElem?_eq_getElem inside, ← first]
    have further : ∀ errors : List String, errors.length ≤ 1 →
        2 ≤ errors.length + posts rest → ∀ message current decoder,
        (pausedAt identifier clients threshold (nextPoint clients idx message) current decoder
          errors).Stalls := by
      intro errors room two message current decoder
      refine pausedAt_nextPoint_stalls message (fun _ _ => ih tail.symm room two) ?_
      intro outside
      rw [drop_eq_nil_of_le outside] at tail
      rw [tail] at two
      exact length_pos_iff.mp (by simp only [posts] at two; omega)
    cases client with
    | noUrl =>
      refine Stalls.after _ run_resolve ?_
      simp only [resolve, pausedAt, found]
      exact ih tail.symm room two
    | readerFails error =>
      refine Stalls.after _ (run_openReader found (by simp)) ?_
      simp only [openReader, pausedAt, found]
      exact further errors room two error (idx + 1) decoder₀
    | blockingFails error =>
      refine Stalls.after _ (run_openReader found (by simp)) ?_
      simp only [openReader, pausedAt, found]
      exact pausedAt_posting_stalls _ false
        (length_pos_iff.mp (by simp only [posts] at two; omega))
    | spawnFails error =>
      refine Stalls.after _ (run_openReader found (by simp)) ?_
      simp only [openReader, pausedAt, found]
      refine Stalls.after [.spawn] rfl ?_
      simp only [spawn, found]
      exact pausedAt_posting_stalls _ true
        (length_pos_iff.mp (by simp only [posts] at two; omega))
    | constructionFails error =>
      obtain ⟨message, decoder, reached⟩ := run_constructionFails found
      exact Stalls.after _ reached (further errors room two message (idx + 1) decoder)
    | runEnds | panics =>
      simp only [posts] at two
      omega
    | runFails error =>
      refine Stalls.after _ (run_runFails found) ?_
      cases errors with
      | nil =>
        obtain ⟨message, decoder, reached⟩ := run_firstPost
        refine Stalls.after _ reached
          (further [error.message] (Nat.le_refl 1) ?_ message _ decoder)
        simp only [posts, length_nil, length_singleton] at two ⊢
        omega
      | cons earlier errors =>
        refine ⟨[], _, .decoder idx, rfl,
          ⟨rfl, cons_ne_nil _ _, _, error, rfl, rfl, rfl⟩, ?_, rfl, rfl, rfl, rfl⟩
        exact fun _ _ => trivial

end Paused

end YoutubeTrack

theorem run_party (acts : List PartyAct) (track : YoutubeTrack) :
    fallbackSystem.run track (acts.map .party) = partySystem.run track acts := by
  induction acts generalizing track with
  | nil => rfl
  | cons act acts ih =>
    cases stepped : track.partyStep act with
    | none => simp only [map_cons, System.run, fallbackSystem, partySystem, stepped]
    | some next =>
      have same : fallbackSystem.step track (.party act) = some next := stepped
      have alone : partySystem.step track act = some next := stepped
      rw [map_cons, fallbackSystem.run_cons_of_step _ same, partySystem.run_cons_of_step _ alone]
      exact ih next

theorem circularWait_reachable (identifier : String) (clients : List ClientOutcome)
    (threshold : Nat) (two : 2 ≤ posts clients) :
    ∃ acts track,
      fallbackSystem.run (YoutubeTrack.new identifier clients threshold) acts = some track ∧
        track.CircularWait := by
  obtain ⟨acts, track, sender, reached, stalled⟩ : (YoutubeTrack.pausedAt identifier clients
      threshold (.resolving 0) 0 none []).Stalls := by
    refine YoutubeTrack.pausedAt_stalls clients rfl (Nat.zero_le 1) ?_
    rw [length_nil, Nat.zero_add]
    exact two
  refine ⟨.user (.pause false) :: acts.map .party, track, ?_, stalled.circularWait⟩
  rw [fallbackSystem.run_cons_of_step _ rfl, run_party]
  exact reached

/-- The track never comes to a circular wait exactly when its clients' turns send at
most one message. -/
theorem error_channel_never_deadlocks_iff (identifier : String) (clients : List ClientOutcome)
    (threshold : Nat) :
    (∀ acts track,
      fallbackSystem.run (YoutubeTrack.new identifier clients threshold) acts = some track →
        ¬ track.CircularWait) ↔ posts clients ≤ 1 := by
  constructor
  · intro never
    refine Nat.le_of_not_lt fun two => ?_
    obtain ⟨acts, track, reached, wait⟩ := circularWait_reachable identifier clients threshold two
    exact never acts track reached wait
  · intro few acts track reached wait
    obtain ⟨sender, blocked, _⟩ := wait
    exact (YoutubeTrack.reached_budget acts reached).not_blocked few sender blocked

theorem one_failed_run_never_deadlocks :
    ∀ acts track,
      fallbackSystem.run (YoutubeTrack.new "id" [.runFails (.read "reset"), .noUrl, .runEnds]
        10000) acts = some track → ¬ track.CircularWait :=
  (error_channel_never_deadlocks_iff "id" [.runFails (.read "reset"), .noUrl, .runEnds] 10000).mpr
    (by decide)

/-- The decoders of the first two clients fail while they run. -/
theorem two_failed_runs_deadlock :
    ¬ ∀ acts track,
      fallbackSystem.run (YoutubeTrack.new "id"
        [.runFails (.read "reset"), .runFails (.decode "corrupt"), .runEnds] 10000) acts =
          some track → ¬ track.CircularWait := by
  intro claim
  obtain ⟨acts, track, reached, wait⟩ := circularWait_reachable "id"
    [.runFails (.read "reset"), .runFails (.decode "corrupt"), .runEnds] 10000 (by decide)
  exact claim acts track reached wait

end KizunaLink.Youtube
