import KizunaLink.Youtube.ErrorBudget

/-!
# Fallback that the listener does not notice

A client that fails before its decoder runs leaves no message and no audio
behind.  A decoder run that ends with an error leaves both: its message stays in
the channel until the monitor reads it at the end of the track, and the next
decoder starts at the last position that was sought, whatever has been
delivered since.
-/

set_option autoImplicit false

namespace KizunaLink.Youtube

open KizunaLink.Lib List Option

/-- The task serves a decoder or has exited; it does not change the client. -/
def TaskPoint.Settled : TaskPoint → Prop
  | .seeking | .selecting | .forwarding _ | .exited => True
  | .resolving _ | .opening | .spawning | .posting _ _ => False

theorem TaskPoint.Attends.settled {task : TaskPoint} (attends : task.Attends) : task.Settled := by
  cases task with
  | seeking | selecting | forwarding _ => trivial
  | resolving _ | opening | spawning | posting _ _ | exited => cases attends

/-- Where a decoder stands agrees with what its client leads to. -/
structure Decoder.Explained (clients : List ClientOutcome) (decoder : Decoder) : Prop where
  fresh : decoder.point = .constructing → decoder.begun = false
  posting : ∀ error, decoder.point = .posting error →
    clients[decoder.client]? = some (.runFails error)
  failed : ∀ error, decoder.point = .done (some error) →
    decoder.begun = false ∨ ∃ error, clients[decoder.client]? = some (.runFails error)

theorem Decoder.Explained.quiet {clients : List ClientOutcome} {decoder : Decoder}
    (quiet : decoder.point = .checking ∨ decoder.point = .reading ∨
      decoder.point = .done none ∨ decoder.point = .dropped) : decoder.Explained clients := by
  rcases quiet with quiet | quiet | quiet | quiet
  all_goals
    constructor
    all_goals simp [quiet]

namespace YoutubeTrack

/-- A client before the current one had its decoder run end with an error. -/
def FailedBefore (track : YoutubeTrack) : Prop :=
  ∃ idx error, idx < track.currentClientIndex ∧ track.clients[idx]? = some (.runFails error)

/-- A message was sent while the monitor listened. -/
def Tainted (track : YoutubeTrack) : Prop :=
  track.errors ≠ [] ∨ ∃ reason error, track.monitor = .reported reason (some error)

/-- The current client's run has not ended well and will not. -/
def Lost (track : YoutubeTrack) : Prop :=
  track.clients[track.currentClientIndex]? ≠ some .runEnds ∧
    (track.task = .exited ∨ track.task.Attends ∧ ∃ decoder, track.decoder = some decoder ∧
      ¬ decoder.point.Active ∧ ∀ error, decoder.point = .done (some error) →
        ∃ error, track.clients[track.currentClientIndex]? = some (.runFails error))

structure Traced (track : YoutubeTrack) : Prop where
  explained : ∀ decoder, track.decoder = some decoder → decoder.Explained track.clients
  active : ∀ decoder, track.decoder = some decoder → decoder.point.Active →
    track.task.Settled ∧ decoder.client = track.currentClientIndex
  resolving : ∀ idx, track.task = .resolving idx → track.currentClientIndex ≤ idx ∧
    (idx = track.currentClientIndex ∨
      track.clients[track.currentClientIndex]? ≠ some .runEnds)
  posting : ∀ message selects, track.task = .posting message selects →
    track.clients[track.currentClientIndex]? ≠ some .runEnds
  reported : ∀ reason, track.monitor = .reported reason none → reason = .finished
  tainted : track.Tainted → track.FailedBefore ∨ track.Lost
  delivered : track.deliveredTo ≠ 0 → track.FailedBefore ∨
    track.task.Settled ∧ ∃ decoder, track.decoder = some decoder ∧
      decoder.client = track.currentClientIndex ∧ decoder.begun = true
  begins : ∀ begin ∈ track.begins, begin.2 ≤ begin.1 ∨ track.FailedBefore
  ended : track.endedOk = true → track.task.Settled ∧
    track.clients[track.currentClientIndex]? = some .runEnds ∧
    ∃ decoder, track.decoder = some decoder ∧ decoder.point = .done none

variable {track : YoutubeTrack}

variable {all : List ClientOutcome} {decoder : Decoder} {after : YoutubeTrack}

theorem FailedBefore.mono (failed : track.FailedBefore) (clients : after.clients = track.clients)
    (index : track.currentClientIndex ≤ after.currentClientIndex) : after.FailedBefore := by
  obtain ⟨idx, error, earlier, found⟩ := failed
  refine ⟨idx, error, Nat.lt_of_lt_of_le earlier index, ?_⟩
  rw [clients]
  exact found

theorem commanded {before after : Option Decoder}
    (sent : after = before ∨ ∃ command, after = before.map fun decoder => decoder.command command) :
    (∀ later, after = some later → ∃ decoder, before = some decoder ∧
      later.client = decoder.client ∧ later.point = decoder.point ∧
        later.begun = decoder.begun) ∧
    ∀ decoder, before = some decoder → ∃ later, after = some later ∧
      later.client = decoder.client ∧ later.point = decoder.point ∧
        later.begun = decoder.begun := by
  rcases sent with rfl | ⟨command, rfl⟩
  · exact ⟨fun later found => ⟨later, found, rfl, rfl, rfl⟩,
      fun decoder found => ⟨decoder, found, rfl, rfl, rfl⟩⟩
  · refine ⟨fun later found => ?_, fun decoder found => ?_⟩
    · obtain ⟨decoder, there, rfl⟩ := map_eq_some_iff.mp found
      exact ⟨decoder, there, rfl, rfl, rfl⟩
    · exact ⟨decoder.command command, by rw [found]; rfl, rfl, rfl, rfl⟩

section

variable (traced : track.Traced)
include traced

theorem Traced.transparent (ended : track.endedOk = true) (clean : ¬ track.FailedBefore) :
    (∀ reason exception, track.monitor = .reported reason exception →
      reason = .finished ∧ exception = none) ∧
    ∀ begin ∈ track.begins, begin.2 ≤ begin.1 := by
  obtain ⟨_, runEnds, _⟩ := traced.ended ended
  refine ⟨fun reason exception reported => ?_, fun begin member => ?_⟩
  · cases exception with
    | none => exact ⟨traced.reported reason reported, rfl⟩
    | some error =>
      rcases traced.tainted (.inr ⟨reason, error, reported⟩) with failed | lost
      · exact absurd failed clean
      · exact absurd runEnds lost.1
  · exact (traced.begins begin member).resolve_right clean

theorem Traced.unsettled (away : ¬ track.task.Settled) :
    (∀ decoder, track.decoder = some decoder → ¬ decoder.point.Active) ∧
    (track.Tainted → track.FailedBefore) ∧ (track.deliveredTo ≠ 0 → track.FailedBefore) ∧
    track.endedOk = false := by
  refine ⟨fun decoder current active => away (traced.active decoder current active).1, ?_, ?_, ?_⟩
  · intro sent
    refine (traced.tainted sent).resolve_right fun lost => ?_
    rcases lost.2 with exited | ⟨attends, _⟩
    · rw [exited] at away
      exact away trivial
    · exact away attends.settled
  · exact fun some => (traced.delivered some).resolve_right fun settled => away settled.1
  · cases ended : track.endedOk with
    | false => rfl
    | true => exact absurd (traced.ended ended).1 away

section

variable {task : TaskPoint} {index : Nat} (further : track.currentClientIndex ≤ index)
  (resolving : ∀ idx, task = .resolving idx → index ≤ idx ∧
    (idx = index ∨ track.clients[index]? ≠ some .runEnds))
  (posting : ∀ message selects, task = .posting message selects →
    track.clients[index]? ≠ some .runEnds)
include further resolving posting

theorem Traced.move
    (inactive : ∀ decoder, track.decoder = some decoder → ¬ decoder.point.Active)
    (tainted : track.Tainted → FailedBefore { track with currentClientIndex := index })
    (delivered : track.deliveredTo ≠ 0 → FailedBefore { track with currentClientIndex := index })
    (running : track.endedOk = false) :
    Traced { track with task, currentClientIndex := index } := by
  refine ⟨traced.explained, ?_, resolving, posting, traced.reported, ?_, ?_, ?_, ?_⟩
  · exact fun decoder current active => absurd active (inactive decoder current)
  · exact fun sent => .inl (tainted sent)
  · exact fun some => .inl (delivered some)
  · exact fun begin member =>
      (traced.begins begin member).imp_right fun failed => failed.mono rfl further
  · intro ended
    rw [show track.endedOk = true from ended] at running
    cases running

theorem Traced.leave (away : ¬ track.task.Settled) :
    Traced { track with task, currentClientIndex := index } := by
  obtain ⟨inactive, tainted, delivered, running⟩ := traced.unsettled away
  exact traced.move further resolving posting inactive
    (fun sent => (tainted sent).mono rfl further)
    (fun some => (delivered some).mono rfl further) running

end

theorem Traced.resolve {idx : Nat}
    (point : track.task = .resolving idx) : (track.resolve idx).Traced := by
  have away : ¬ track.task.Settled := by
    rw [point]
    exact id
  obtain ⟨further, fresh⟩ := traced.resolving idx point
  simp only [YoutubeTrack.resolve]
  split
  · rename_i missing
    refine traced.leave (Nat.le_refl _) (by simp) (fun _ _ _ => ?_) away
    rcases fresh with rfl | skipped
    · rw [missing]
      simp
    · exact skipped
  · rename_i found
    refine traced.leave further ?_ (by simp) away
    intro next goes
    cases goes
    rw [found]
    exact ⟨Nat.le_succ idx, .inr (by simp)⟩
  · exact traced.leave further (by simp) (by simp) away

theorem Traced.nextClient (message : String)
    (inactive : ∀ decoder, track.decoder = some decoder → ¬ decoder.point.Active)
    (tainted : track.Tainted → track.FailedBefore ∨
      ∃ error, track.clients[track.currentClientIndex]? = some (.runFails error))
    (delivered : track.deliveredTo ≠ 0 → track.FailedBefore ∨
      ∃ error, track.clients[track.currentClientIndex]? = some (.runFails error))
    (running : track.endedOk = false) : (track.nextClient message).Traced := by
  have failed : (track.FailedBefore ∨
      ∃ error, track.clients[track.currentClientIndex]? = some (.runFails error)) →
      FailedBefore { track with currentClientIndex := track.currentClientIndex + 1 } := by
    rintro (earlier | ⟨error, found⟩)
    · exact earlier.mono rfl (Nat.le_succ _)
    · exact ⟨track.currentClientIndex, error, Nat.lt_succ_self _, found⟩
  refine traced.move (Nat.le_succ _) ?_ ?_ inactive (fun sent => failed (tainted sent))
    (fun some => failed (delivered some)) running
  · intro idx goes
    split at goes
    · cases goes
      exact ⟨Nat.le_refl _, .inl rfl⟩
    · cases goes
  · intro text selects goes
    split at goes
    · cases goes
    · rename_i last
      rw [List.getElem?_eq_none_iff.mpr (Nat.le_of_not_lt last)]
      exact nofun

theorem Traced.openReader (away : ¬ track.task.Settled) : track.openReader.Traced := by
  simp only [YoutubeTrack.openReader]
  split
  · obtain ⟨inactive, tainted, delivered, running⟩ := traced.unsettled away
    exact traced.nextClient _ inactive (fun sent => .inl (tainted sent))
      (fun some => .inl (delivered some)) running
  · rename_i error found
    refine traced.leave (Nat.le_refl _) (by simp) (fun _ _ _ => ?_) away
    rw [found]
    simp
  · exact traced.leave (Nat.le_refl _) (by simp) (by simp) away

theorem Traced.spawn (away : ¬ track.task.Settled) : track.spawn.Traced := by
  obtain ⟨_, tainted, delivered, running⟩ := traced.unsettled away
  have unended : ∀ {settled : Prop}, track.endedOk = true → settled := by
    intro settled ended
    rw [running] at ended
    cases ended
  simp only [YoutubeTrack.spawn]
  split
  · rename_i error found
    refine ⟨?_, ?_, by simp, ?_, traced.reported, fun sent => .inl (tainted sent),
      fun some => .inl (delivered some), traced.begins, unended⟩
    · intro decoder current
      cases current
      exact .quiet (by simp)
    · intro decoder current active
      cases current
      cases active
    · intro message selects _
      rw [found]
      simp
  · refine ⟨?_, ?_, by simp, by simp, traced.reported, fun sent => .inl (tainted sent),
      fun some => .inl (delivered some), traced.begins, unended⟩
    · intro decoder current
      cases current
      exact ⟨fun _ => rfl, by simp, by simp⟩
    · intro decoder current _
      cases current
      exact ⟨trivial, rfl⟩

theorem Traced.command {task : TaskPoint} {commands : List Nat} {currentSeekMs : Nat}
    {decoder : Option Decoder} (attends : track.task.Attends)
    (next : task.Attends ∨ task = .exited) (sent : decoder = track.decoder ∨
      ∃ command, decoder = track.decoder.map fun decoder => decoder.command command) :
    Traced { track with task, commands, currentSeekMs, decoder } := by
  obtain ⟨old, kept⟩ := commanded sent
  have settled : task.Settled := by
    rcases next with attends | exited
    · exact attends.settled
    · rw [exited]
      trivial
  refine ⟨?_, ?_, ?_, ?_, traced.reported, ?_, ?_, traced.begins, ?_⟩
  · intro later current
    obtain ⟨decoder, before, client, point, begun⟩ := old later current
    have explained := traced.explained decoder before
    refine ⟨?_, ?_, ?_⟩
    · rw [point, begun]
      exact explained.fresh
    · rw [point, client]
      exact explained.posting
    · rw [point, begun, client]
      exact explained.failed
  · intro later current active
    obtain ⟨decoder, before, client, point, _⟩ := old later current
    rw [point] at active
    exact ⟨settled, client.trans (traced.active decoder before active).2⟩
  · rintro idx rfl
    cases settled
  · rintro message selects rfl
    cases settled
  · intro sent
    refine (traced.tainted sent).imp_right fun lost => ⟨lost.1, ?_⟩
    rcases next with still | exited
    · rcases lost.2 with gone | ⟨_, decoder, before, ended, runFailed⟩
      · rw [gone] at attends
        cases attends
      · obtain ⟨later, current, _, point, _⟩ := kept decoder before
        refine .inr ⟨still, later, current, ?_, ?_⟩
        · rw [point]
          exact ended
        · rw [point]
          exact runFailed
    · exact .inl exited
  · intro some
    refine (traced.delivered some).imp_right ?_
    rintro ⟨_, decoder, before, client, begun⟩
    obtain ⟨later, current, sameClient, _, sameBegun⟩ := kept decoder before
    exact ⟨settled, later, current, sameClient.trans client, sameBegun.trans begun⟩
  · intro ended
    obtain ⟨_, runEnds, decoder, before, finished⟩ := traced.ended ended
    obtain ⟨later, current, _, point, _⟩ := kept decoder before
    exact ⟨settled, runEnds, later, current, point.trans finished⟩

theorem Traced.taskPosts {sent : YoutubeTrack} {message : String} {selects : Bool}
    (bounded : track.Budget all) (point : track.task = .posting message selects)
    (post : track.post message = some sent) :
    Traced { sent with task := if selects then .seeking else .exited } := by
  have away : ¬ track.task.Settled := by
    rw [point]
    exact id
  obtain ⟨inactive, _, delivered, running⟩ := traced.unsettled away
  have lost : ∀ errors, Lost { track with
      errors, task := if selects then .seeking else .exited } := by
    intro errors
    refine ⟨traced.posting message selects point, ?_⟩
    cases selects with
    | false => exact .inl rfl
    | true =>
      obtain ⟨decoder, current, dropped, _⟩ := bounded.spawnFailed message point
      refine .inr ⟨trivial, decoder, current, ?_, ?_⟩
      · rw [dropped]
        exact id
      · intro error failed
        rw [dropped] at failed
        cases failed
  have done : ∀ errors, Traced { track with
      errors, task := if selects then .seeking else .exited } := by
    intro errors
    refine ⟨traced.explained, ?_, ?_, ?_, traced.reported, fun _ => .inr (lost errors),
      fun some => .inl (delivered some), traced.begins, ?_⟩
    · exact fun decoder current active => absurd active (inactive decoder current)
    · cases selects with
      | false | true => nofun
    · cases selects with
      | false | true => nofun
    · intro ended
      rw [show track.endedOk = true from ended] at running
      cases running
  rcases post_some post with ⟨_, _, rfl⟩ | ⟨_, rfl⟩
  · exact done [message]
  · exact done sent.errors

theorem Traced.decoderFailed {error : String}
    (point : track.task = .selecting) (current : track.decoder = some decoder)
    (failed : decoder.point = .done (some error)) (message : String) :
    (track.nextClient message).Traced := by
  refine traced.nextClient message ?_ ?_ ?_ ?_
  · intro other found
    rw [current] at found
    cases found
    rw [failed]
    exact id
  · intro sent
    refine (traced.tainted sent).imp_right fun lost => ?_
    rcases lost.2 with exited | ⟨_, other, found, _, runFailed⟩
    · rw [point] at exited
      cases exited
    · rw [current] at found
      cases found
      exact runFailed error failed
  · intro some
    refine (traced.delivered some).imp_right ?_
    rintro ⟨_, other, found, client, begun⟩
    rw [current] at found
    cases found
    have explained := (traced.explained decoder current).failed error failed
    rw [client, begun] at explained
    exact explained.resolve_left nofun
  · cases ended : track.endedOk with
    | false => rfl
    | true =>
      obtain ⟨_, _, other, found, finished⟩ := traced.ended ended
      rw [current] at found
      cases found
      rw [failed] at finished
      cases finished

theorem Traced.decode {decoder later : Decoder} {errors : List String} {endedOk : Bool}
    {deliveredTo : Nat} {begins : List (Nat × Nat)}
    (moved : after = { track with decoder := some later, errors, endedOk, deliveredTo, begins })
    (current : track.decoder = some decoder) (active : decoder.point.Active)
    (client : later.client = decoder.client) (explained : later.Explained track.clients)
    (tainted : after.Tainted → track.Tainted ∨ after.Lost)
    (delivered : deliveredTo ≠ 0 →
      later.begun = true ∨ track.deliveredTo ≠ 0 ∧ later.begun = decoder.begun)
    (begun : ∀ begin ∈ begins, begin ∈ track.begins ∨ begin.2 ≤ begin.1 ∨ track.FailedBefore)
    (ended : endedOk = true →
      track.endedOk = true ∨ track.clients[decoder.client]? = some .runEnds ∧
      later.point = .done none) :
    after.Traced := by
  subst moved
  obtain ⟨settled, turn⟩ := traced.active decoder current active
  refine ⟨?_, ?_, traced.resolving, traced.posting, traced.reported, ?_, ?_, ?_, ?_⟩
  · intro other found
    cases found
    exact explained
  · intro other found _
    cases found
    exact ⟨settled, client.trans turn⟩
  · intro sent
    rcases tainted sent with before | lost
    · refine (traced.tainted before).imp_right fun lost => ⟨lost.1, .inl ?_⟩
      rcases lost.2 with exited | ⟨_, other, found, gone, _⟩
      · exact exited
      · rw [current] at found
        cases found
        exact absurd active gone
    · exact .inr lost
  · intro some
    rcases delivered some with now | ⟨before, same⟩
    · exact .inr ⟨settled, later, rfl, client.trans turn, now⟩
    · refine (traced.delivered before).imp_right ?_
      rintro ⟨_, other, found, _, earlier⟩
      rw [current] at found
      cases found
      exact ⟨settled, later, rfl, client.trans turn, same.trans earlier⟩
  · intro begin member
    rcases begun begin member with before | early | earlier
    · exact traced.begins begin before
    · exact .inl early
    · exact .inr earlier
  · intro isEnded
    rcases ended isEnded with before | ⟨runEnds, finished⟩
    · obtain ⟨_, _, other, found, finished⟩ := traced.ended before
      rw [current] at found
      cases found
      rw [finished] at active
      cases active
    · rw [turn] at runEnds
      exact ⟨settled, runEnds, later, rfl, finished⟩

theorem Traced.decodeQuiet {decoder later : Decoder} {deliveredTo : Nat}
    (current : track.decoder = some decoder) (active : decoder.point.Active)
    (client : later.client = decoder.client) (explained : later.Explained track.clients)
    (begun : later.begun = decoder.begun)
    (reset : deliveredTo ≠ 0 → deliveredTo = track.deliveredTo) :
    Traced { track with decoder := some later, deliveredTo } := by
  refine traced.decode rfl current active client explained .inl ?_ ?_ .inl
  · exact fun some => .inr ⟨fun none => some ((reset some).trans none), begun⟩
  · exact fun begin member => .inl member

section

variable (current : track.decoder = some decoder)
include current

theorem Traced.construct
    (point : decoder.point = .constructing) : (track.construct decoder).Traced := by
  have active : decoder.point.Active := by
    rw [point]
    trivial
  have fresh := (traced.explained decoder current).fresh point
  simp only [YoutubeTrack.construct]
  split
  · exact traced.decodeQuiet current active rfl ⟨by simp, by simp, fun _ _ => .inl fresh⟩ rfl
      fun _ => rfl
  · exact traced.decodeQuiet current active rfl (.quiet (by simp)) rfl fun _ => rfl

variable (active : decoder.point.Active)
include active

theorem Traced.checkCommands (landed : Option Nat) :
    (track.checkCommands decoder landed).Traced := by
  simp only [YoutubeTrack.checkCommands]
  split
  · cases landed with
    | none => exact traced.decodeQuiet current active rfl (.quiet (by simp)) rfl fun _ => rfl
    | some position =>
      refine traced.decodeQuiet current active rfl (.quiet (by simp)) rfl fun some => ?_
      split at some
      · exact absurd rfl some
      · next other => exact if_neg other
  · exact traced.decodeQuiet current active rfl (.quiet (by simp)) rfl fun _ => rfl
  · refine traced.decodeQuiet current active rfl ?_ rfl fun _ => rfl
    split
    · exact .quiet (by simp)
    · exact .quiet (by simp)

theorem Traced.packet (ms : Nat) : (track.packet decoder ms).Traced := by
  simp only [YoutubeTrack.packet]
  split
  · exact traced.decodeQuiet current active rfl (.quiet (by simp)) rfl fun _ => rfl
  · split
    · refine traced.decode rfl current active rfl (.quiet (by simp)) .inl
        (fun _ => .inl rfl) ?_ .inl
      intro begin member
      split at member
      · exact .inl member
      · rename_i first
        rcases mem_append.mp member with before | now
        · exact .inl before
        · cases mem_singleton.mp now
          by_cases none : track.deliveredTo = 0
          · rw [none]
            exact .inr (.inl (Nat.zero_le _))
          · -- audio was delivered before this decoder's first, so by an earlier client
            refine .inr (.inr ((traced.delivered none).resolve_right ?_))
            rintro ⟨_, other, found, _, begun⟩
            rw [current] at found
            cases found
            exact first begun
    · exact traced.decodeQuiet current active rfl (.quiet (by simp)) rfl fun _ => rfl

theorem Traced.endRun (ended : track.endRun decoder = some after) : after.Traced := by
  simp only [YoutubeTrack.endRun] at ended
  split at ended
  · rename_i found
    cases ended
    exact traced.decode rfl current active rfl (.quiet (by simp)) .inl
      (fun some => .inr ⟨some, rfl⟩) (fun _ member => .inl member) fun _ => .inr ⟨found, rfl⟩
  · rename_i error found
    cases ended
    refine traced.decodeQuiet current active rfl ⟨by simp, ?_, by simp⟩ rfl fun _ => rfl
    intro other posting
    cases posting
    exact found
  · cases ended
    exact traced.decodeQuiet current active rfl (.quiet (by simp)) rfl fun _ => rfl
  · cases ended

end

theorem Traced.decoderPosts {sent : YoutubeTrack} {error : RunError}
    (bounded : track.Budget all) (current : track.decoder = some decoder)
    (point : decoder.point = .posting error) (post : track.post error.message = some sent) :
    Traced { sent with decoder := some { decoder with point := .done (some error.text) } } := by
  have active : decoder.point.Active := by
    rw [point]
    trivial
  have found := (traced.explained decoder current).posting error point
  have explained : Decoder.Explained track.clients
      { decoder with point := .done (some error.text) } :=
    ⟨nofun, nofun, fun _ _ => .inr ⟨error, found⟩⟩
  rcases post_some post with ⟨listens, _, rfl⟩ | ⟨_, rfl⟩
  · have attends := bounded.active listens decoder current active
    rw [bounded.client attends decoder current] at found
    refine traced.decode rfl current active rfl explained (fun _ => .inr ?_)
      (fun some => .inr ⟨some, rfl⟩) (fun _ member => .inl member) .inl
    refine ⟨?_, .inr ⟨attends, _, rfl, id, fun _ _ => ⟨error, found⟩⟩⟩
    rw [found]
    exact nofun
  · exact traced.decode rfl current active rfl explained .inl
      (fun some => .inr ⟨some, rfl⟩) (fun _ member => .inl member) .inl

theorem Traced.watch {cell : Engine.PlaybackState} {monitor : MonitorPoint} {stuckFired : Bool}
    (quiet : ∀ reason exception, monitor ≠ .reported reason exception) :
    Traced { track with cell, monitor, stuckFired } := by
  refine { traced with reported := ?_, tainted := ?_ }
  · exact fun reason reported => absurd reported (quiet reason none)
  · rintro (sent | ⟨reason, error, reported⟩)
    · exact traced.tainted (.inl sent)
    · exact absurd reported (quiet reason (some error))

theorem Traced.tick : track.tick.Traced := by
  refine traced.watch fun reason exception => ?_
  split
  · nofun
  · split
    · nofun
    · nofun

theorem Traced.report : track.report.Traced := by
  simp only [YoutubeTrack.report]
  split
  · rename_i error rest sent
    refine { traced with reported := by simp, tainted := fun _ => traced.tainted (.inl ?_) }
    rw [sent]
    exact cons_ne_nil _ _
  · refine { traced with reported := ?_, tainted := ?_ }
    · intro reason reported
      cases reported
      rfl
    · rintro (sent | ⟨reason, error, reported⟩)
      · exact traced.tainted (.inl sent)
      · cases reported

theorem Traced.partyStep {act : PartyAct} (bounded : track.Budget all)
    (stepped : track.partyStep act = some after) : after.Traced := by
  cases partyStep_move stepped with
  | resolve point => exact traced.resolve point
  | openReader point => exact traced.openReader (by rw [point]; exact id)
  | spawn point => exact traced.spawn (by rw [point]; exact id)
  | sendSeek point =>
    refine traced.command (by rw [point]; trivial) (.inl trivial) ?_
    split
    · exact .inr ⟨_, rfl⟩
    · exact .inl rfl
  | receiveSeek point =>
    exact traced.command (by rw [point]; trivial) (.inl trivial)
      (.inl rfl)
  | receiveClosed point =>
    exact traced.command (by rw [point]; trivial) (.inr rfl)
      (.inr ⟨_, rfl⟩)
  | forward point =>
    exact traced.command (by rw [point]; trivial) (.inl trivial)
      (.inr ⟨_, rfl⟩)
  | taskPosts point post => exact traced.taskPosts bounded point post
  | decoderEnded point =>
    exact traced.command (by rw [point]; trivial) (.inr rfl)
      (.inl rfl)
  | decoderFailed point current failed => exact traced.decoderFailed point current failed _
  | construct current point => exact traced.construct current point
  | checkCommands current point =>
    exact traced.checkCommands current (by rw [point]; trivial) _
  | packet current point => exact traced.packet current (by rw [point]; trivial) _
  | endRun current point ended => exact traced.endRun current (by rw [point]; trivial) ended
  | decoderPosts current point post => exact traced.decoderPosts bounded current point post
  | tick => exact traced.tick
  | checkStuck | endMarker => exact traced.watch (by simp)
  | report => exact traced.report
  | mixerLoads =>
    simp only [mixerLoads]
    split <;> exact { traced with }
  | mixerStops | mixerReturns => exact { traced with }

theorem Traced.userStep {act : UserAct}
    (stepped : track.userStep act = some after) : after.Traced := by
  cases act with
  | pause _ | play _ | voice _ =>
    cases stepped
    exact { traced with }
  | seek ms =>
    obtain ⟨_, rfl⟩ := ite_some_none_eq_some.mp stepped
    exact { traced with }
  | dropHandle =>
    obtain ⟨-, ⟨⟩⟩ := ite_none_left_eq_some.mp stepped
    exact { traced with }

end

theorem new_traced (identifier : String) (clients : List ClientOutcome) (threshold : Nat) :
    (new identifier clients threshold).Traced := by
  refine ⟨nofun, nofun, ?_, nofun, nofun, ?_, fun some => absurd rfl some, nofun, nofun⟩
  · intro idx resolving
    cases resolving
    exact ⟨Nat.le_refl 0, .inl rfl⟩
  · rintro (sent | ⟨_, _, reported⟩)
    · exact absurd rfl sent
    · cases reported

end YoutubeTrack

/-- In every run that comes to a decoder run ending by itself, with no earlier client
whose decoder run ended with an error: the report of the end is `Finished` without an
exception, and no decoder's audio began before what had been delivered since the last
seek of the user. -/
theorem fallback_transparent (identifier : String) (clients : List ClientOutcome)
    (threshold : Nat) (acts : List FallbackAct) (track : YoutubeTrack)
    (reached : fallbackSystem.run (YoutubeTrack.new identifier clients threshold) acts =
      some track) (ended : track.endedOk = true)
    (clean : ∀ idx error, idx < track.currentClientIndex →
      clients[idx]? ≠ some (.runFails error)) :
    (∀ reason exception, track.monitor = .reported reason exception →
      reason = .finished ∧ exception = none) ∧
    ∀ begin ∈ track.begins, begin.2 ≤ begin.1 := by
  have both : track.Budget clients ∧ track.Traced := by
    refine fallbackSystem.run_invariant_of_step
      (fun state => state.Budget clients ∧ state.Traced) ?_ acts
      ⟨YoutubeTrack.new_budget identifier clients threshold,
        YoutubeTrack.new_traced identifier clients threshold⟩ reached
    rintro state act next ⟨bounded, traced⟩ stepped
    cases act with
    | party act => exact ⟨bounded.partyStep stepped, traced.partyStep bounded stepped⟩
    | user act => exact ⟨bounded.userStep stepped, traced.userStep stepped⟩
  refine both.2.transparent ended ?_
  rintro ⟨idx, error, earlier, found⟩
  rw [both.1.clients] at found
  exact clean idx error earlier found

def playTurn : List FallbackAct :=
  [.resolve, .openReader, .spawn, .sendSeek, .construct, .checkCommands none, .packet 20,
    .checkCommands none, .endRun].map FallbackAct.party

def reportEnd : List FallbackAct := [.decoderDone, .tick, .report].map FallbackAct.party

/-- The first client has no URL, the second one's reader fails. -/
theorem transparent_after_two_clients :
    ∃ track, fallbackSystem.run
        (YoutubeTrack.new "id" [.noUrl, .readerFails "403", .runEnds] 10000)
        ([.party .resolve, .party .resolve, .party .openReader] ++ playTurn ++ reportEnd) =
          some track ∧
      track.monitor = .reported .finished none ∧ ∀ begin ∈ track.begins, begin.2 ≤ begin.1 := by
  have plays : (fallbackSystem.run
      (YoutubeTrack.new "id" [.noUrl, .readerFails "403", .runEnds] 10000)
      ([.party .resolve, .party .resolve, .party .openReader] ++ playTurn ++ reportEnd)).map
        (fun track => (track.endedOk, track.currentClientIndex, track.monitor)) =
      some (true, 2, .reported .finished none) := by decide
  obtain ⟨track, reached, ends⟩ := map_eq_some_iff.mp plays
  simp only [Prod.mk.injEq] at ends
  obtain ⟨ended, index, reported⟩ := ends
  refine ⟨track, reached, reported, ?_⟩
  refine (fallback_transparent "id" [.noUrl, .readerFails "403", .runEnds] 10000 _ track reached
    ended ?_).2
  intro idx error earlier
  rw [index] at earlier
  match idx, earlier with
  | 0, _ => nofun
  | 1, _ => nofun

def failThenPlay : List FallbackAct :=
  playTurn ++ [.party .decoderPosts, .party .decoderDone] ++ playTurn ++ reportEnd

/-- The first decoder fails after 20 ms and the second plays to the end: both parts are
broken, the report by the message that is still in the channel and the audio because
the second decoder starts at 0. -/
theorem failed_run_shows :
    (fallbackSystem.run
      (YoutubeTrack.new "id" [.runFails (.read "reset"), .runEnds] 10000) failThenPlay).map
        (fun track => (track.endedOk, track.monitor, track.begins)) =
      some (true, .reported .loadFailed (some "Packet read error: reset"),
        [(0, 0), (0, 20)]) := by
  decide

theorem failed_run_is_heard :
    ¬ ∀ (acts : List FallbackAct) (track : YoutubeTrack),
      fallbackSystem.run
        (YoutubeTrack.new "id" [.runFails (.read "reset"), .runEnds] 10000) acts = some track →
      track.endedOk = true →
      (∀ reason exception, track.monitor = .reported reason exception →
        reason = .finished ∧ exception = none) ∧
      ∀ begin ∈ track.begins, begin.2 ≤ begin.1 := by
  intro claim
  obtain ⟨track, reached, ends⟩ := map_eq_some_iff.mp failed_run_shows
  simp only [Prod.mk.injEq] at ends
  obtain ⟨ended, reported, _⟩ := ends
  have broken := ((claim failThenPlay track reached ended).1 _ _ reported).1
  cases broken

end KizunaLink.Youtube
