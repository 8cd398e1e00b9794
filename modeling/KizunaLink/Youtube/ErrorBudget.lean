import KizunaLink.Youtube.Fallback

/-!
# The messages of a YouTube track

`posts` counts the messages that a list of clients leads to: one for each decoder
run that ends with an error, and one of the task when no client is left.  While
the monitor listens, the messages sent and those still to come are no more than
that, so up to one message no sender ever waits.
-/

set_option autoImplicit false

namespace KizunaLink.Youtube

open KizunaLink.Lib List Option

/-- How many messages the clients' turns send, one after the other. -/
def posts : List ClientOutcome → Nat
  | [] => 1
  | .noUrl :: rest => posts rest
  | .readerFails _ :: rest => posts rest
  | .constructionFails _ :: rest => posts rest
  | .blockingFails _ :: _ => 1
  | .spawnFails _ :: _ => 1
  | .runEnds :: _ => 0
  | .panics :: _ => 0
  | .runFails _ :: rest => posts rest + 1

variable {clients : List ClientOutcome}

theorem drop_of_getElem? {idx : Nat} {client : ClientOutcome}
    (found : clients[idx]? = some client) :
    clients.drop idx = client :: clients.drop (idx + 1) := by
  obtain ⟨inside, rfl⟩ := List.getElem?_eq_some_iff.mp found
  exact drop_eq_getElem_cons inside

theorem posts_drop_of_length_le {idx : Nat} (outside : clients.length ≤ idx) :
    posts (clients.drop idx) = 1 := by
  rw [drop_eq_nil_of_le outside]
  rfl

def DecoderPoint.Active : DecoderPoint → Prop
  | .constructing | .checking | .reading | .posting _ => True
  | .done _ | .dropped => False

def DecoderPoint.Running : DecoderPoint → Prop
  | .constructing | .checking | .reading => True
  | .posting _ | .done _ | .dropped => False

def TaskPoint.Attends : TaskPoint → Prop
  | .seeking | .selecting | .forwarding _ => True
  | .resolving _ | .opening | .spawning | .posting _ _ | .exited => False

/-- The messages to come from a decoder's turn and the turns after it. -/
def Decoder.pending (clients : List ClientOutcome) (decoder : Decoder) : Nat :=
  match decoder.point with
  | .constructing | .checking | .reading => posts (clients.drop decoder.client)
  | .posting _ => posts (clients.drop (decoder.client + 1)) + 1
  | .done (some _) => posts (clients.drop (decoder.client + 1))
  | .done none | .dropped => 0

namespace YoutubeTrack

def pending (track : YoutubeTrack) : Nat :=
  match track.task with
  | .resolving idx => posts (track.clients.drop idx)
  | .opening | .spawning => posts (track.clients.drop track.currentClientIndex)
  | .seeking | .selecting | .forwarding _ =>
    (track.decoder.map (Decoder.pending track.clients)).getD 0
  | .posting _ _ => 1
  | .exited => 0

inductive Sender where
  | task
  | decoder (client : Nat)

/-- The sender waits for room in the error channel. -/
def Blocked (track : YoutubeTrack) : Sender → Prop
  | .task => track.monitor.receives = true ∧ track.errors ≠ [] ∧
      ∃ message selects, track.task = .posting message selects
  | .decoder client => track.monitor.receives = true ∧ track.errors ≠ [] ∧
      ∃ decoder error, track.decoder = some decoder ∧ decoder.client = client ∧
        decoder.point = .posting error

structure Budget (all : List ClientOutcome) (track : YoutubeTrack) : Prop where
  clients : track.clients = all
  handle : track.handleAlive = false → track.monitor.receives = false
  active : track.monitor.receives = true → ∀ decoder, track.decoder = some decoder →
    decoder.point.Active → track.task.Attends
  client : track.task.Attends → ∀ decoder, track.decoder = some decoder →
    decoder.client = track.currentClientIndex
  spawnFailed : ∀ message, track.task = .posting message true →
    ∃ decoder, track.decoder = some decoder ∧ decoder.point = .dropped ∧
      decoder.client = track.currentClientIndex
  budget : track.monitor.receives = true → track.errors.length + track.pending ≤ posts all

variable {all : List ClientOutcome} {track : YoutubeTrack}

variable {decoder : Decoder} {after : YoutubeTrack}

theorem pending_of_attends (attends : track.task.Attends) :
    track.pending = (track.decoder.map (Decoder.pending track.clients)).getD 0 := by
  cases point : track.task with
  | seeking | selecting | forwarding _ => simp only [pending, point]
  | resolving _ | opening | spawning | posting _ _ | exited =>
    rw [point] at attends
    cases attends

theorem pending_of_decoder (attends : track.task.Attends) (current : track.decoder = some decoder) :
    track.pending = decoder.pending track.clients := by
  rw [pending_of_attends attends, current, map_some, getD_some]

section

variable (bounded : track.Budget all)
include bounded

theorem Budget.not_blocked (few : posts all ≤ 1) (sender : Sender) : ¬ track.Blocked sender := by
  cases sender with
  | task =>
    rintro ⟨listens, full, message, selects, posting⟩
    have budget := bounded.budget listens
    have one := length_pos_iff.mpr full
    simp only [pending, posting] at budget
    omega
  | decoder client =>
    rintro ⟨listens, full, decoder, error, current, _, posting⟩
    have budget := bounded.budget listens
    have one := length_pos_iff.mpr full
    have attends : track.task.Attends := by
      refine bounded.active listens decoder current ?_
      rw [posting]
      trivial
    rw [pending_of_decoder attends current] at budget
    simp only [Decoder.pending, posting] at budget
    omega

/-! ### The task -/

theorem Budget.move {task : TaskPoint} {index : Nat}
    (inactive : track.monitor.receives = true → ∀ decoder, track.decoder = some decoder →
      ¬ decoder.point.Active)
    (leaves : ¬ task.Attends) (spawned : ∀ message, task ≠ .posting message true)
    (less : pending { track with task, currentClientIndex := index } ≤ track.pending) :
    Budget all { track with task, currentClientIndex := index } := by
  refine ⟨bounded.clients, bounded.handle, ?_, ?_, ?_, ?_⟩
  · intro listens decoder current active
    exact absurd active (inactive listens decoder current)
  · exact fun attends => absurd attends leaves
  · exact fun message failed => absurd failed (spawned message)
  · exact fun listens => Nat.le_trans (Nat.add_le_add_left less _) (bounded.budget listens)

theorem Budget.inactive (away : ¬ track.task.Attends) :
    track.monitor.receives = true → ∀ decoder, track.decoder = some decoder →
      ¬ decoder.point.Active :=
  fun listens decoder current active => away (bounded.active listens decoder current active)

theorem Budget.resolve {idx : Nat}
    (point : track.task = .resolving idx) : (track.resolve idx).Budget all := by
  have away : ¬ track.task.Attends := by
    rw [point]
    exact id
  have before : track.pending = posts (track.clients.drop idx) := by
    simp only [pending, point]
  simp only [YoutubeTrack.resolve]
  split
  · rename_i missing
    refine bounded.move (bounded.inactive away) id nofun ?_
    rw [before, posts_drop_of_length_le (List.getElem?_eq_none_iff.mp missing)]
    exact Nat.le_refl 1
  · rename_i found
    refine bounded.move (bounded.inactive away) id nofun ?_
    rw [before, drop_of_getElem? found]
    exact Nat.le_refl _
  · refine bounded.move (bounded.inactive away) id nofun ?_
    rw [before]
    exact Nat.le_refl _

theorem Budget.nextClient (message : String)
    (inactive : track.monitor.receives = true → ∀ decoder, track.decoder = some decoder →
      ¬ decoder.point.Active)
    (less : posts (track.clients.drop (track.currentClientIndex + 1)) ≤ track.pending) :
    (track.nextClient message).Budget all := by
  simp only [YoutubeTrack.nextClient]
  split
  · exact bounded.move inactive id nofun less
  · rename_i last
    refine bounded.move inactive id nofun ?_
    rw [posts_drop_of_length_le (Nat.le_of_not_lt last)] at less
    exact less

theorem Budget.openReader (point : track.task = .opening) : track.openReader.Budget all := by
  have away : ¬ track.task.Attends := by
    rw [point]
    exact id
  have before : track.pending = posts (track.clients.drop track.currentClientIndex) := by
    simp only [pending, point]
  simp only [YoutubeTrack.openReader]
  split
  · rename_i error found
    refine bounded.nextClient error (bounded.inactive away) ?_
    rw [before, drop_of_getElem? found]
    exact Nat.le_refl _
  · rename_i error found
    refine bounded.move (bounded.inactive away) id nofun ?_
    rw [before, drop_of_getElem? found]
    exact Nat.le_refl 1
  · refine bounded.move (bounded.inactive away) id nofun ?_
    rw [before]
    exact Nat.le_refl _

theorem Budget.spawn (point : track.task = .spawning) : track.spawn.Budget all := by
  have before : track.pending = posts (track.clients.drop track.currentClientIndex) := by
    simp only [pending, point]
  simp only [YoutubeTrack.spawn]
  split
  · rename_i error found
    refine ⟨bounded.clients, bounded.handle, ?_, nofun, ?_, ?_⟩
    · intro _ decoder current active
      cases current
      cases active
    · exact fun _ _ => ⟨_, rfl, rfl, rfl⟩
    · intro listens
      have budget := bounded.budget listens
      rw [before, drop_of_getElem? found] at budget
      exact budget
  · refine ⟨bounded.clients, bounded.handle, fun _ _ _ _ => trivial, ?_, nofun, ?_⟩
    · intro _ decoder current
      cases current
      rfl
    · intro listens
      have budget := bounded.budget listens
      rw [before] at budget
      exact budget

theorem Budget.attend {task : TaskPoint} {commands : List Nat} {currentSeekMs : Nat}
    {decoder : Option Decoder} (attends : track.task.Attends) (still : task.Attends)
    (sent : decoder = track.decoder ∨
      ∃ command, decoder = track.decoder.map fun decoder => decoder.command command) :
    Budget all { track with task, commands, currentSeekMs, decoder } := by
  refine ⟨bounded.clients, bounded.handle, fun _ _ _ _ => still, ?_, ?_, ?_⟩
  · intro _ later current
    rcases sent with rfl | ⟨command, rfl⟩
    · exact bounded.client attends later current
    · obtain ⟨earlier, found, rfl⟩ := map_eq_some_iff.mp current
      exact bounded.client attends earlier found
  · rintro message rfl
    cases still
  · intro listens
    have budget := bounded.budget listens
    have later : pending { track with task, commands, currentSeekMs, decoder } = _ :=
      pending_of_attends still
    rw [pending_of_attends attends] at budget
    rw [later]
    rcases sent with rfl | ⟨command, rfl⟩
    · exact budget
    · rw [Option.map_map]
      exact budget

theorem Budget.receiveClosed (dropped : track.handleAlive = false) :
    Budget all { track with
      decoder := track.decoder.map fun decoder => decoder.command .stop
      task := .exited } := by
  have deaf := bounded.handle dropped
  have silent : ¬ track.monitor.receives = true := Bool.eq_false_iff.mp deaf
  exact ⟨bounded.clients, fun _ => deaf, fun listens => absurd listens silent, nofun, nofun,
    fun listens => absurd listens silent⟩

theorem Budget.taskPosts {sent : YoutubeTrack} {message : String}
    {selects : Bool} (point : track.task = .posting message selects)
    (post : track.post message = some sent) :
    Budget all { sent with task := if selects then .seeking else .exited } := by
  have away : ¬ track.task.Attends := by
    rw [point]
    exact id
  have nothing : ∀ errors, pending { track with
      errors, task := if selects then .seeking else .exited } = 0 := by
    intro errors
    cases selects with
    | false => rfl
    | true =>
      obtain ⟨decoder, current, dropped, _⟩ := bounded.spawnFailed message point
      simp [pending, current, Decoder.pending, dropped]
  have client : (if selects then TaskPoint.seeking else .exited).Attends →
      ∀ decoder, track.decoder = some decoder →
        decoder.client = track.currentClientIndex := by
    cases selects with
    | false => nofun
    | true =>
      intro _ decoder current
      obtain ⟨dropped, found, _, client⟩ := bounded.spawnFailed message point
      rw [current] at found
      cases found
      exact client
  have unspawned : ∀ text, (if selects then TaskPoint.seeking else .exited) ≠
      .posting text true := by
    cases selects with
    | false | true => nofun
  rcases post_some post with ⟨listens, empty, rfl⟩ | ⟨deaf, rfl⟩
  · refine ⟨bounded.clients, bounded.handle, ?_, client, ?_, ?_⟩
    · intro _ decoder current active
      exact absurd active (bounded.inactive away listens decoder current)
    · exact fun text failed => absurd failed (unspawned text)
    · intro _
      have budget := bounded.budget listens
      simp only [pending, point] at budget
      rw [nothing]
      simp only [length_singleton]
      omega
  · have silent : ¬ sent.monitor.receives = true := Bool.eq_false_iff.mp deaf
    exact ⟨bounded.clients, bounded.handle, fun listens => absurd listens silent, client,
      fun text failed => absurd failed (unspawned text), fun listens => absurd listens silent⟩

end

theorem inactive_of_current (current : track.decoder = some decoder)
    (ended : ¬ decoder.point.Active) :
    track.monitor.receives = true → ∀ other, track.decoder = some other →
      ¬ other.point.Active := by
  intro _ other found
  rw [current] at found
  cases found
  exact ended

section

variable (bounded : track.Budget all)
include bounded

theorem Budget.decoderEnded (current : track.decoder = some decoder)
    (ended : decoder.point = .done none ∨ decoder.point = .dropped) :
    Budget all { track with task := .exited } := by
  refine bounded.move (inactive_of_current current ?_) id nofun (Nat.zero_le _)
  rcases ended with finished | dropped
  · rw [finished]
    exact id
  · rw [dropped]
    exact id

theorem Budget.decoderFailed {error : String}
    (attends : track.task.Attends) (current : track.decoder = some decoder)
    (failed : decoder.point = .done (some error)) (message : String) :
    (track.nextClient message).Budget all := by
  refine bounded.nextClient message (inactive_of_current current ?_) ?_
  · rw [failed]
    exact id
  · rw [pending_of_decoder attends current]
    simp only [Decoder.pending, failed, bounded.client attends decoder current]
    exact Nat.le_refl _

theorem Budget.decoderMoves {decoder later : Decoder} {errors : List String} {endedOk : Bool}
    {deliveredTo : Nat} {begins : List (Nat × Nat)} (current : track.decoder = some decoder)
    (active : decoder.point.Active) (client : later.client = decoder.client)
    (less : track.monitor.receives = true → errors.length + later.pending track.clients ≤
      track.errors.length + decoder.pending track.clients) :
    Budget all { track with decoder := some later, errors, endedOk, deliveredTo, begins } := by
  refine ⟨bounded.clients, bounded.handle, ?_, ?_, ?_, ?_⟩
  · exact fun listens _ _ _ => bounded.active listens decoder current active
  · intro attends other found
    cases found
    exact client.trans (bounded.client attends decoder current)
  · intro message failed
    obtain ⟨dropped, found, gone, _⟩ := bounded.spawnFailed message failed
    rw [current] at found
    cases found
    rw [gone] at active
    cases active
  · intro listens
    have attends := bounded.active listens decoder current active
    have budget := bounded.budget listens
    have less := less listens
    have moved : pending { track with
        decoder := some later, errors, endedOk, deliveredTo, begins } = _ :=
      pending_of_decoder attends rfl
    rw [pending_of_decoder attends current] at budget
    rw [moved]
    dsimp only
    omega

theorem Budget.turnGoes {decoder later : Decoder} {endedOk : Bool} {deliveredTo : Nat}
    {begins : List (Nat × Nat)} (current : track.decoder = some decoder)
    (running : decoder.point.Running) (client : later.client = decoder.client)
    (less : later.pending track.clients ≤ posts (track.clients.drop decoder.client)) :
    Budget all { track with decoder := some later, endedOk, deliveredTo, begins } := by
  refine bounded.decoderMoves current ?_ client fun _ => ?_
  · cases point : decoder.point with
    | constructing | checking | reading | posting _ => trivial
    | done _ | dropped =>
      rw [point] at running
      cases running
  · refine Nat.add_le_add_left (Nat.le_trans less ?_) _
    cases point : decoder.point with
    | constructing | checking | reading =>
      simp only [Decoder.pending, point]
      exact Nat.le_refl _
    | posting _ | done _ | dropped =>
      rw [point] at running
      cases running

section

variable (current : track.decoder = some decoder)
include current

section

variable (running : decoder.point.Running)
include running

theorem Budget.construct : (track.construct decoder).Budget all := by
  simp only [YoutubeTrack.construct]
  split
  · rename_i error found
    refine bounded.turnGoes current running rfl ?_
    rw [drop_of_getElem? found]
    exact Nat.le_refl _
  · exact bounded.turnGoes current running rfl (Nat.le_refl _)

theorem Budget.checkCommands (landed : Option Nat) :
    (track.checkCommands decoder landed).Budget all := by
  simp only [YoutubeTrack.checkCommands]
  split
  · cases landed with
    | none | some _ =>
      exact bounded.turnGoes current running rfl (Nat.le_refl _)
  · exact bounded.turnGoes current running rfl (Nat.zero_le _)
  · refine bounded.turnGoes current running rfl ?_
    split
    · exact Nat.zero_le _
    · exact Nat.le_refl _

theorem Budget.packet (ms : Nat) : (track.packet decoder ms).Budget all := by
  simp only [YoutubeTrack.packet]
  split
  · exact bounded.turnGoes current running rfl (Nat.le_refl _)
  · split
    · exact bounded.turnGoes current running rfl (Nat.le_refl _)
    · exact bounded.turnGoes current running rfl (Nat.zero_le _)

theorem Budget.endRun (ended : track.endRun decoder = some after) : after.Budget all := by
  simp only [YoutubeTrack.endRun] at ended
  split at ended
  · cases ended
    exact bounded.turnGoes current running rfl (Nat.zero_le _)
  · rename_i error found
    cases ended
    refine bounded.turnGoes current running rfl ?_
    rw [drop_of_getElem? found]
    exact Nat.le_refl _
  · cases ended
    exact bounded.turnGoes current running rfl (Nat.zero_le _)
  · cases ended

end

theorem Budget.decoderPosts {sent : YoutubeTrack} {error : RunError}
    (point : decoder.point = .posting error) (post : track.post error.message = some sent) :
    Budget all
      { sent with decoder := some { decoder with point := .done (some error.text) } } := by
  have active : decoder.point.Active := by
    rw [point]
    trivial
  rcases post_some post with ⟨listens, empty, rfl⟩ | ⟨deaf, rfl⟩
  · refine bounded.decoderMoves current active rfl fun _ => ?_
    simp only [length_singleton, Decoder.pending, point]
    omega
  · exact bounded.decoderMoves current active rfl
      fun listens => absurd listens (Bool.eq_false_iff.mp deaf)

end

theorem Budget.listening {cell : Engine.PlaybackState} {monitor : MonitorPoint}
    {stuckFired : Bool} (listens : track.monitor.receives = true) :
    Budget all { track with cell, monitor, stuckFired } := by
  refine { bounded with
    handle := ?_
    active := fun _ => bounded.active listens
    budget := fun _ => bounded.budget listens }
  intro dropped
  have deaf := bounded.handle dropped
  rw [listens] at deaf
  cases deaf

theorem Budget.partyStep {act : PartyAct}
    (stepped : track.partyStep act = some after) : after.Budget all := by
  cases partyStep_move stepped with
  | resolve point => exact bounded.resolve point
  | openReader point => exact bounded.openReader point
  | spawn point => exact bounded.spawn point
  | sendSeek point =>
    refine bounded.attend (by rw [point]; trivial) trivial ?_
    split
    · exact .inr ⟨_, rfl⟩
    · exact .inl rfl
  | receiveSeek point =>
    exact bounded.attend (by rw [point]; trivial) trivial (.inl rfl)
  | receiveClosed _ dropped => exact bounded.receiveClosed dropped
  | forward point =>
    exact bounded.attend (by rw [point]; trivial) trivial (.inr ⟨_, rfl⟩)
  | taskPosts point post => exact bounded.taskPosts point post
  | decoderEnded _ current ended => exact bounded.decoderEnded current ended
  | decoderFailed point current failed =>
    exact bounded.decoderFailed (by rw [point]; trivial) current failed _
  | construct current point => exact bounded.construct current (by rw [point]; trivial)
  | checkCommands current point =>
    exact bounded.checkCommands current (by rw [point]; trivial) _
  | packet current point => exact bounded.packet current (by rw [point]; trivial) _
  | endRun current point ended => exact bounded.endRun current (by rw [point]; trivial) ended
  | decoderPosts current point post => exact bounded.decoderPosts current point post
  | tick point | checkStuck point =>
    exact bounded.listening (by rw [point]; rfl)
  | endMarker => exact { bounded with handle := fun _ => rfl, active := nofun, budget := nofun }
  | report =>
    simp only [report]
    split <;> exact { bounded with handle := fun _ => rfl, active := nofun, budget := nofun }
  | mixerLoads =>
    simp only [mixerLoads]
    split <;> exact { bounded with }
  | mixerStops | mixerReturns =>
    exact { bounded with }

theorem Budget.userStep {act : UserAct}
    (stepped : track.userStep act = some after) : after.Budget all := by
  cases act with
  | pause _ | play _ | voice _ =>
    cases stepped
    exact { bounded with }
  | seek ms =>
    obtain ⟨_, rfl⟩ := ite_some_none_eq_some.mp stepped
    exact { bounded with }
  | dropHandle =>
    obtain ⟨deaf, ⟨⟩⟩ := ite_none_left_eq_some.mp stepped
    exact { bounded with handle := fun _ => Bool.eq_false_iff.mpr deaf }

end

theorem new_budget (identifier : String) (clients : List ClientOutcome) (threshold : Nat) :
    (new identifier clients threshold).Budget clients := by
  refine ⟨rfl, nofun, nofun, nofun, nofun, fun _ => ?_⟩
  exact Nat.le_of_eq (Nat.zero_add _)

theorem reached_budget {identifier : String} {threshold : Nat} (acts : List FallbackAct)
    (reached : fallbackSystem.run (new identifier clients threshold) acts = some track) :
    track.Budget clients := by
  refine fallbackSystem.run_invariant_of_step (Budget clients) ?_ acts
    (new_budget identifier clients threshold) reached
  intro state act next bounded stepped
  cases act with
  | party act => exact bounded.partyStep stepped
  | user act => exact bounded.userStep stepped

end YoutubeTrack

end KizunaLink.Youtube
