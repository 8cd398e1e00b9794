import KizunaLink.Engine.Mixer
import KizunaLink.Player.Playback

/-!
# A YouTube track and its clients

Model of `YoutubeTrack::start_decoding` (media/sources/youtube/track.rs) with the
decoder thread of engine/processor.rs, the monitor of
discord/player/manager/monitor.rs and what the mixer does to the state cell.

The fallback task tries the clients in turn.  For a client whose reader opens it
spawns a decoder thread, forwards seek commands to it and waits for its result.
The task and the threads report errors on a channel with room for one message;
`send` waits for room.  The monitor reads the channel once, after it has seen the
state `Stopped`.

What a client leads to is part of the track; everything else that the program
does not decide (how much a packet holds, where a seek lands, the time that has
passed) is part of the act.  Waiting for room in the frame channel only delays a
decoder and is left out, as is a stop by the user, after which nothing is
reported.
-/

set_option autoImplicit false

namespace KizunaLink.Youtube

open KizunaLink.Lib Option
open KizunaLink.Engine (PlaybackState)
open KizunaLink.Player (TrackEndReason)

/-- The errors that end `AudioProcessor::run`. -/
inductive RunError where
  | read (error : String)
  | decode (error : String)
  deriving DecidableEq, Repr

def RunError.text : RunError → String
  | .read error | .decode error => error

def RunError.message : RunError → String
  | .read error => "Packet read error: " ++ error
  | .decode error => "Decode error: " ++ error

/-- What a client's turn leads to.  `blockingFails`, `spawnFails` and `panics` are
failures of the runtime while that client has its turn. -/
inductive ClientOutcome where
  | noUrl
  | readerFails (error : String)
  | blockingFails (error : String)
  | spawnFails (error : String)
  | constructionFails (error : String)
  | runEnds
  | runFails (error : RunError)
  | panics
  deriving DecidableEq, Repr

/-- `byUser` tells the seeks of the user from the one that a new decoder is sent. -/
inductive DecoderCommand where
  | seek (ms : Nat) (byUser : Bool)
  | stop
  deriving DecidableEq, Repr

/-- `done` holds the error that the thread has sent to the task, if any; a thread
that is `dropped` ended without sending anything. -/
inductive DecoderPoint where
  | constructing
  | checking
  | reading
  | posting (error : RunError)
  | done (error : Option String)
  | dropped
  deriving DecidableEq, Repr

/-- `begun` says that audio has been delivered. -/
structure Decoder where
  client : Nat
  point : DecoderPoint := .constructing
  position : Nat := 0
  begun : Bool := false
  commands : List DecoderCommand := []
  deriving DecidableEq, Repr

def commandRoom : Nat := 8

/-- A thread that has ended has dropped its receiver, and `send` does not wait. -/
def Decoder.takesCommand (decoder : Decoder) : Bool :=
  match decoder.point with
  | .done _ | .dropped => true
  | .constructing | .checking | .reading | .posting _ =>
    decide (decoder.commands.length < commandRoom)

def Decoder.command (decoder : Decoder) (command : DecoderCommand) : Decoder :=
  { decoder with commands := decoder.commands ++ [command] }

/-- `selects` says that the task goes on to wait for commands after its message. -/
inductive TaskPoint where
  | resolving (idx : Nat)
  | opening
  | spawning
  | seeking
  | selecting
  | forwarding (ms : Nat)
  | posting (message : String) (selects : Bool)
  | exited
  deriving DecidableEq, Repr

inductive MonitorPoint where
  | waiting
  | checking
  | sawStopped
  | reported (reason : TrackEndReason) (exception : Option String)
  | marked
  deriving DecidableEq, Repr

/-- The monitor owns the receiver of the error channel. -/
def MonitorPoint.receives : MonitorPoint → Bool
  | .waiting | .checking | .sawStopped => true
  | .reported _ _ | .marked => false

/-- `mixing` is the state that a call of `mix` has read.  The last three fields
record that a decoder's run ended by itself, how far audio was delivered since the
last seek of the user, and for each decoder where its audio began and how far audio had been
delivered before it. -/
structure YoutubeTrack where
  identifier : String
  clients : List ClientOutcome
  stuckThresholdMs : Nat
  cell : PlaybackState := .playing
  voiceReady : Bool := true
  inMixer : Bool := true
  mixing : Option PlaybackState := none
  handleAlive : Bool := true
  commands : List Nat := []
  errors : List String := []
  task : TaskPoint := .resolving 0
  currentClientIndex : Nat := 0
  currentSeekMs : Nat := 0
  decoder : Option Decoder := none
  monitor : MonitorPoint := .waiting
  stuckFired : Bool := false
  endedOk : Bool := false
  deliveredTo : Nat := 0
  begins : List (Nat × Nat) := []
  deriving DecidableEq, Repr

namespace YoutubeTrack

variable (track : YoutubeTrack)

/-- `err_tx.send`: waits while the channel is full, and fails once the receiver is
gone, which the senders ignore. -/
def post (message : String) : Option YoutubeTrack :=
  if track.monitor.receives then
    if track.errors.isEmpty then some { track with errors := [message] } else none
  else some track

/-- One turn of the loop that asks the clients for a URL. -/
def resolve (idx : Nat) : YoutubeTrack :=
  match track.clients[idx]? with
  | none =>
    { track with
      task := .posting
        ("YoutubeTrack: All clients failed to resolve '" ++ track.identifier ++ "'") false }
  | some .noUrl => { track with currentClientIndex := idx, task := .resolving (idx + 1) }
  | some _ => { track with currentClientIndex := idx, task := .opening }

/-- The next client's turn, or the last message. -/
def nextClient (message : String) : YoutubeTrack :=
  { track with
    currentClientIndex := track.currentClientIndex + 1
    task :=
      if track.currentClientIndex + 1 < track.clients.length then
        .resolving (track.currentClientIndex + 1)
      else .posting message false }

def openReader : YoutubeTrack :=
  match track.clients[track.currentClientIndex]? with
  | some (.readerFails error) => track.nextClient error
  | some (.blockingFails error) =>
    { track with task := .posting ("Failed to spawn blocking task: " ++ error) false }
  | _ => { track with task := .spawning }

def spawn : YoutubeTrack :=
  match track.clients[track.currentClientIndex]? with
  | some (.spawnFails error) =>
    { track with
      decoder := some { client := track.currentClientIndex, point := .dropped }
      task := .posting ("Failed to spawn decoder thread: " ++ error) true }
  | _ =>
    { track with
      decoder := some { client := track.currentClientIndex }
      task := .seeking }

/-- A new decoder is sent to the last position that was sought. -/
def sendSeek : YoutubeTrack :=
  { track with
    decoder :=
      if 0 < track.currentSeekMs then
        track.decoder.map fun decoder => decoder.command (.seek track.currentSeekMs false)
      else track.decoder
    task := .selecting }

/-- The branch of `select!` for a command.  The handles are dropped when the
command channel is empty and closed. -/
def receive : Option YoutubeTrack :=
  match track.commands with
  | ms :: rest =>
    some { track with commands := rest, currentSeekMs := ms, task := .forwarding ms }
  | [] =>
    if !track.handleAlive && track.decoder.all Decoder.takesCommand then
      some { track with
        decoder := track.decoder.map fun decoder => decoder.command .stop
        task := .exited }
    else none

def forward (ms : Nat) : Option YoutubeTrack :=
  if track.decoder.all Decoder.takesCommand then
    some { track with
      decoder := track.decoder.map fun decoder => decoder.command (.seek ms true)
      task := .selecting }
  else none

def taskPosts (message : String) (selects : Bool) : Option YoutubeTrack :=
  (track.post message).map fun sent =>
    { sent with task := if selects then .seeking else .exited }

/-- The branch of `select!` for the end of the decoder thread. -/
def decoderDone : Option YoutubeTrack :=
  track.decoder.bind fun decoder =>
    match decoder.point with
    | .done none | .dropped => some { track with task := .exited }
    | .done (some error) => some (track.nextClient ("All clients failed: " ++ error))
    | .constructing | .checking | .reading | .posting _ => none

variable (decoder : Decoder)

def construct : YoutubeTrack :=
  match track.clients[decoder.client]? with
  | some (.constructionFails error) =>
    { track with
      decoder := some { decoder with
        point := .done (some ("Failed to initialize processor: " ++ error)) } }
  | _ => { track with decoder := some { decoder with point := .checking } }

/-- `check_commands`.  A seek that succeeds lands somewhere and sends the flush
marker. -/
def checkCommands (landed : Option Nat) : YoutubeTrack :=
  match decoder.commands with
  | .seek _ byUser :: rest =>
    match landed with
    | some position =>
      { track with
        decoder := some { decoder with commands := rest, position, point := .reading }
        deliveredTo := if byUser then 0 else track.deliveredTo }
    | none =>
      { track with decoder := some { decoder with commands := rest, point := .reading } }
  | .stop :: rest =>
    { track with decoder := some { decoder with commands := rest, point := .done none } }
  | [] =>
    { track with
      decoder := some { decoder with
        point := if track.task = .exited then .done none else .reading } }

/-- A packet with `ms` milliseconds of audio; one of another stream, or one that is
skipped, has none.  A decoder whose frames nobody receives ends. -/
def packet (ms : Nat) : YoutubeTrack :=
  if ms = 0 then { track with decoder := some { decoder with point := .checking } }
  else if track.inMixer then
    { track with
      decoder := some { decoder with
        position := decoder.position + ms, begun := true, point := .checking }
      deliveredTo := decoder.position + ms
      begins :=
        if decoder.begun then track.begins
        else track.begins ++ [(decoder.position, track.deliveredTo)] }
  else { track with decoder := some { decoder with point := .done none } }

def endRun : Option YoutubeTrack :=
  match track.clients[decoder.client]? with
  | some .runEnds =>
    some { track with
      decoder := some { decoder with point := .done none }
      endedOk := true }
  | some (.runFails error) =>
    some { track with decoder := some { decoder with point := .posting error } }
  | some .panics => some { track with decoder := some { decoder with point := .dropped } }
  | _ => none

/-- `send_error`; afterwards the thread sends its result to the task. -/
def decoderPosts (error : RunError) : Option YoutubeTrack :=
  (track.post error.message).map fun sent =>
    { sent with decoder := some { decoder with point := .done (some error.text) } }

/-- `get_state`: the task owns the receiver of the command channel. -/
def stateSeen : PlaybackState :=
  if track.cell ≠ .stopped ∧ track.task = .exited then .stopped else track.cell

def tick : YoutubeTrack :=
  { track with
    cell := track.stateSeen
    monitor :=
      if track.stateSeen = .stopped then .sawStopped
      else if track.stateSeen = .playing then .checking
      else .waiting }

/-- `check_stuck`, with the time since the position last moved.  The time starts
again whenever the position moves or voice is not ready. -/
def checkStuck (moved : Bool) (elapsedMs : Nat) : YoutubeTrack :=
  let fresh := moved || !track.voiceReady
  let fired := if fresh then false else track.stuckFired
  let elapsed := if fresh then 0 else elapsedMs
  let fires := !fired && decide (track.stuckThresholdMs ≤ elapsed)
  { track with
    cell := if fires then .stopped else track.cell
    stuckFired := fires || fired
    monitor := .waiting }

def endMarker : YoutubeTrack := { track with cell := .stopped, monitor := .marked }

def report : YoutubeTrack :=
  match track.errors with
  | error :: rest =>
    { track with errors := rest, monitor := .reported .loadFailed (some error) }
  | [] => { track with monitor := .reported .finished none }

def mixerLoads : YoutubeTrack :=
  match track.cell with
  | .stopped => { track with inMixer := false }
  | .paused => track
  | .playing | .stopping | .starting => { track with mixing := some track.cell }

/-- The task and the decoder own the senders of the frame channel. -/
def framesClosed : Bool :=
  decide (track.task = .exited) &&
    track.decoder.all fun decoder =>
      match decoder.point with
      | .done _ | .dropped => true
      | .constructing | .checking | .reading | .posting _ => false

def mixerReturns (loaded : PlaybackState) (rampCompleted : Bool) : YoutubeTrack :=
  { track with
    mixing := none
    cell :=
      if rampCompleted then
        match loaded with
        | .stopping => .paused
        | .starting => .playing
        | .playing | .paused | .stopped => track.cell
      else track.cell }

end YoutubeTrack

inductive PartyAct where
  | resolve
  | openReader
  | spawn
  | sendSeek
  | receive
  | forward
  | taskPosts
  | decoderDone
  | construct
  | checkCommands (landed : Option Nat)
  | packet (ms : Nat)
  | endRun
  | decoderPosts
  | tick
  | checkStuck (moved : Bool) (elapsedMs : Nat)
  | endMarker
  | report
  | mixerLoads
  | mixerStops
  | mixerReturns (rampCompleted : Bool)
  deriving DecidableEq, Repr

inductive UserAct where
  | pause (tapeStop : Bool)
  | play (tapeStop : Bool)
  | seek (ms : Nat)
  | voice (ready : Bool)
  | dropHandle
  deriving DecidableEq, Repr

namespace YoutubeTrack

/-- A step of the decoder thread at a given point. -/
def decoderAt (track : YoutubeTrack) (point : DecoderPoint)
    (step : Decoder → Option YoutubeTrack) : Option YoutubeTrack :=
  track.decoder.bind fun decoder => if decoder.point = point then step decoder else none

def partyStep (track : YoutubeTrack) : PartyAct → Option YoutubeTrack
  | .resolve =>
    match track.task with
    | .resolving idx => some (track.resolve idx)
    | _ => none
  | .openReader => if track.task = .opening then some track.openReader else none
  | .spawn => if track.task = .spawning then some track.spawn else none
  | .sendSeek => if track.task = .seeking then some track.sendSeek else none
  | .receive => if track.task = .selecting then track.receive else none
  | .forward =>
    match track.task with
    | .forwarding ms => track.forward ms
    | _ => none
  | .taskPosts =>
    match track.task with
    | .posting message selects => track.taskPosts message selects
    | _ => none
  | .decoderDone => if track.task = .selecting then track.decoderDone else none
  | .construct => track.decoderAt .constructing fun decoder => some (track.construct decoder)
  | .checkCommands landed =>
    track.decoderAt .checking fun decoder => some (track.checkCommands decoder landed)
  | .packet ms => track.decoderAt .reading fun decoder => some (track.packet decoder ms)
  | .endRun => track.decoderAt .reading fun decoder => track.endRun decoder
  | .decoderPosts =>
    track.decoder.bind fun decoder =>
      match decoder.point with
      | .posting error => track.decoderPosts decoder error
      | _ => none
  | .tick => if track.monitor = .waiting then some track.tick else none
  | .checkStuck moved elapsedMs =>
    if track.monitor = .checking then some (track.checkStuck moved elapsedMs) else none
  | .endMarker => if track.monitor = .checking then some track.endMarker else none
  | .report => if track.monitor = .sawStopped then some track.report else none
  | .mixerLoads =>
    if track.inMixer ∧ track.mixing = none then some track.mixerLoads else none
  | .mixerStops =>
    if track.mixing ≠ none ∧ track.framesClosed then some { track with cell := .stopped }
    else none
  | .mixerReturns rampCompleted =>
    track.mixing.map fun loaded => track.mixerReturns loaded rampCompleted

/-- The player and the monitor keep a handle; the last one is dropped after the
monitor has ended. -/
def userStep (track : YoutubeTrack) : UserAct → Option YoutubeTrack
  | .pause tapeStop =>
    some { track with cell := if tapeStop then .stopping else .paused }
  | .play tapeStop =>
    some { track with cell := if tapeStop then .starting else .playing }
  | .seek ms =>
    if track.handleAlive ∧ track.commands.length < commandRoom then
      some { track with commands := track.commands ++ [ms] }
    else none
  | .voice ready => some { track with voiceReady := ready }
  | .dropHandle =>
    if track.monitor.receives then none else some { track with handleAlive := false }

end YoutubeTrack

inductive FallbackAct where
  | party (act : PartyAct)
  | user (act : UserAct)
  deriving DecidableEq, Repr

def partySystem : System YoutubeTrack PartyAct := ⟨YoutubeTrack.partyStep⟩

def fallbackSystem : System YoutubeTrack FallbackAct where
  step track
    | .party act => track.partyStep act
    | .user act => track.userStep act

def YoutubeTrack.new (identifier : String) (clients : List ClientOutcome)
    (stuckThresholdMs : Nat) : YoutubeTrack :=
  { identifier, clients, stuckThresholdMs }

namespace YoutubeTrack

/-- The parties' steps with their guards. -/
inductive Move (track : YoutubeTrack) : PartyAct → YoutubeTrack → Prop
  | resolve {idx : Nat} (point : track.task = .resolving idx) :
      Move track .resolve (track.resolve idx)
  | openReader (point : track.task = .opening) : Move track .openReader track.openReader
  | spawn (point : track.task = .spawning) : Move track .spawn track.spawn
  | sendSeek (point : track.task = .seeking) : Move track .sendSeek track.sendSeek
  | receiveSeek {ms : Nat} {rest : List Nat} (point : track.task = .selecting)
      (commands : track.commands = ms :: rest) :
      Move track .receive
        { track with commands := rest, currentSeekMs := ms, task := .forwarding ms }
  | receiveClosed (point : track.task = .selecting) (dropped : track.handleAlive = false) :
      Move track .receive
        { track with
          decoder := track.decoder.map fun decoder => decoder.command .stop
          task := .exited }
  | forward {ms : Nat} (point : track.task = .forwarding ms) :
      Move track .forward
        { track with
          decoder := track.decoder.map fun decoder => decoder.command (.seek ms true)
          task := .selecting }
  | taskPosts {message : String} {selects : Bool} {sent : YoutubeTrack}
      (point : track.task = .posting message selects) (post : track.post message = some sent) :
      Move track .taskPosts { sent with task := if selects then .seeking else .exited }
  | decoderEnded {decoder : Decoder} (point : track.task = .selecting)
      (current : track.decoder = some decoder)
      (ended : decoder.point = .done none ∨ decoder.point = .dropped) :
      Move track .decoderDone { track with task := .exited }
  | decoderFailed {decoder : Decoder} {error : String} (point : track.task = .selecting)
      (current : track.decoder = some decoder) (failed : decoder.point = .done (some error)) :
      Move track .decoderDone (track.nextClient ("All clients failed: " ++ error))
  | construct {decoder : Decoder} (current : track.decoder = some decoder)
      (point : decoder.point = .constructing) : Move track .construct (track.construct decoder)
  | checkCommands {decoder : Decoder} {landed : Option Nat}
      (current : track.decoder = some decoder) (point : decoder.point = .checking) :
      Move track (.checkCommands landed) (track.checkCommands decoder landed)
  | packet {decoder : Decoder} {ms : Nat} (current : track.decoder = some decoder)
      (point : decoder.point = .reading) : Move track (.packet ms) (track.packet decoder ms)
  | endRun {decoder : Decoder} {after : YoutubeTrack} (current : track.decoder = some decoder)
      (point : decoder.point = .reading) (ended : track.endRun decoder = some after) :
      Move track .endRun after
  | decoderPosts {decoder : Decoder} {error : RunError} {sent : YoutubeTrack}
      (current : track.decoder = some decoder) (point : decoder.point = .posting error)
      (post : track.post error.message = some sent) :
      Move track .decoderPosts
        { sent with decoder := some { decoder with point := .done (some error.text) } }
  | tick (point : track.monitor = .waiting) : Move track .tick track.tick
  | checkStuck {moved : Bool} {elapsedMs : Nat} (point : track.monitor = .checking) :
      Move track (.checkStuck moved elapsedMs) (track.checkStuck moved elapsedMs)
  | endMarker (point : track.monitor = .checking) : Move track .endMarker track.endMarker
  | report (point : track.monitor = .sawStopped) : Move track .report track.report
  | mixerLoads : Move track .mixerLoads track.mixerLoads
  | mixerStops (mixing : track.mixing ≠ none) :
      Move track .mixerStops { track with cell := .stopped }
  | mixerReturns {loaded : PlaybackState} {rampCompleted : Bool}
      (mixing : track.mixing = some loaded) :
      Move track (.mixerReturns rampCompleted) (track.mixerReturns loaded rampCompleted)

variable {track after : YoutubeTrack}

theorem decoderAt_some {point : DecoderPoint} {step : Decoder → Option YoutubeTrack}
    (stepped : track.decoderAt point step = some after) :
    ∃ decoder, track.decoder = some decoder ∧ decoder.point = point ∧
      step decoder = some after := by
  obtain ⟨decoder, current, goes⟩ := bind_eq_some_iff.mp stepped
  split at goes
  · rename_i point
    exact ⟨decoder, current, point, goes⟩
  · cases goes

theorem receive_move (point : track.task = .selecting) (received : track.receive = some after) :
    track.Move .receive after := by
  simp only [receive] at received
  split at received
  · rename_i commands
    cases received
    exact .receiveSeek point commands
  · obtain ⟨closed, rfl⟩ := ite_some_none_eq_some.mp received
    simp only [Bool.and_eq_true, Bool.not_eq_true'] at closed
    exact .receiveClosed point closed.1

theorem decoderDone_move (point : track.task = .selecting)
    (ended : track.decoderDone = some after) : track.Move .decoderDone after := by
  obtain ⟨decoder, current, goes⟩ := bind_eq_some_iff.mp ended
  split at goes
  · rename_i finished
    cases goes
    exact .decoderEnded point current (.inl finished)
  · rename_i dropped
    cases goes
    exact .decoderEnded point current (.inr dropped)
  · rename_i failed
    cases goes
    exact .decoderFailed point current failed
  all_goals cases goes

theorem partyStep_move {act : PartyAct} (stepped : track.partyStep act = some after) :
    track.Move act after := by
  cases act with
  | resolve =>
    simp only [partyStep] at stepped
    split at stepped
    · rename_i point
      cases stepped
      exact .resolve point
    · cases stepped
  | openReader =>
    obtain ⟨point, rfl⟩ := ite_some_none_eq_some.mp stepped
    exact .openReader point
  | spawn =>
    obtain ⟨point, rfl⟩ := ite_some_none_eq_some.mp stepped
    exact .spawn point
  | sendSeek =>
    obtain ⟨point, rfl⟩ := ite_some_none_eq_some.mp stepped
    exact .sendSeek point
  | receive =>
    obtain ⟨point, stepped⟩ := ite_none_right_eq_some.mp stepped
    exact receive_move point stepped
  | forward =>
    simp only [partyStep] at stepped
    split at stepped
    · rename_i point
      obtain ⟨_, rfl⟩ := ite_some_none_eq_some.mp stepped
      exact .forward point
    · cases stepped
  | taskPosts =>
    simp only [partyStep] at stepped
    split at stepped
    · rename_i point
      obtain ⟨sent, post, rfl⟩ := map_eq_some_iff.mp stepped
      exact .taskPosts point post
    · cases stepped
  | decoderDone =>
    obtain ⟨point, stepped⟩ := ite_none_right_eq_some.mp stepped
    exact decoderDone_move point stepped
  | construct =>
    obtain ⟨decoder, current, point, goes⟩ := decoderAt_some stepped
    cases goes
    exact .construct current point
  | checkCommands landed =>
    obtain ⟨decoder, current, point, goes⟩ := decoderAt_some stepped
    cases goes
    exact .checkCommands current point
  | packet ms =>
    obtain ⟨decoder, current, point, goes⟩ := decoderAt_some stepped
    cases goes
    exact .packet current point
  | endRun =>
    obtain ⟨decoder, current, point, goes⟩ := decoderAt_some stepped
    exact .endRun current point goes
  | decoderPosts =>
    obtain ⟨decoder, current, goes⟩ := bind_eq_some_iff.mp stepped
    split at goes
    · rename_i point
      obtain ⟨sent, post, rfl⟩ := map_eq_some_iff.mp goes
      exact .decoderPosts current point post
    · cases goes
  | tick =>
    obtain ⟨point, rfl⟩ := ite_some_none_eq_some.mp stepped
    exact .tick point
  | checkStuck moved elapsedMs =>
    obtain ⟨point, rfl⟩ := ite_some_none_eq_some.mp stepped
    exact .checkStuck point
  | endMarker =>
    obtain ⟨point, rfl⟩ := ite_some_none_eq_some.mp stepped
    exact .endMarker point
  | report =>
    obtain ⟨point, rfl⟩ := ite_some_none_eq_some.mp stepped
    exact .report point
  | mixerLoads =>
    obtain ⟨_, rfl⟩ := ite_some_none_eq_some.mp stepped
    exact .mixerLoads
  | mixerStops =>
    obtain ⟨mixing, rfl⟩ := ite_some_none_eq_some.mp stepped
    exact .mixerStops mixing.1
  | mixerReturns rampCompleted =>
    obtain ⟨loaded, mixing, rfl⟩ := map_eq_some_iff.mp stepped
    exact .mixerReturns mixing

theorem post_some {message : String} {sent : YoutubeTrack} (post : track.post message = some sent) :
    (track.monitor.receives = true ∧ track.errors = [] ∧
      sent = { track with errors := [message] }) ∨
      (track.monitor.receives = false ∧ sent = track) := by
  simp only [YoutubeTrack.post] at post
  split at post
  · rename_i listens
    obtain ⟨empty, rfl⟩ := ite_some_none_eq_some.mp post
    exact .inl ⟨listens, List.isEmpty_iff.mp empty, rfl⟩
  · rename_i deaf
    cases post
    exact .inr ⟨Bool.eq_false_iff.mpr deaf, rfl⟩

end YoutubeTrack

end KizunaLink.Youtube
