import KizunaLink.Lib.System
import Mathlib.Data.List.Infix

/-!
# The HTTP source and its prefetcher

Model of engine/source/http: the reader (`read`, `seek`, `drop`) and the thread
of `prefetch_loop` share a buffer behind one lock.  The steps are the sections
that hold the lock and the reads of the response body between them.

The server answers a request at an offset with the resource's bytes from there.
An open response is therefore known by the offset of its next byte; a chunk of
any size may arrive, and the body may end or fail at any time.
-/

set_option autoImplicit false

namespace KizunaLink.Source

open KizunaLink.Lib Option

abbrev Bytes := List UInt8

inductive PrefetchCommand where
  | continue
  | seek (target : Nat)
  | stop
  deriving DecidableEq, Repr

structure SharedState where
  chunks : List Bytes := []
  buffered : Nat := 0
  done : Bool := false
  error : Option String := none
  command : PrefetchCommand := .continue
  deriving DecidableEq, Repr

/-- The bytes copied into a buffer of `want` bytes, and the chunks left. -/
def drainChunks : Nat → List Bytes → Bytes × List Bytes
  | _, [] => ([], [])
  | 0, chunks => ([], chunks)
  | want + 1, front :: rest =>
    if front.length ≤ want + 1 then
      let (written, left) := drainChunks (want + 1 - front.length) rest
      (front ++ written, left)
    else (front.take (want + 1), front.drop (want + 1) :: rest)

def skipChunks : Nat → List Bytes → List Bytes
  | _, [] => []
  | 0, chunks => chunks
  | count + 1, front :: rest =>
    if front.length ≤ count + 1 then skipChunks (count + 1 - front.length) rest
    else front.drop (count + 1) :: rest

namespace SharedState

variable (state : SharedState)

def drainInto (size : Nat) : Bytes × SharedState :=
  let (written, left) := drainChunks size state.chunks
  (written, { state with chunks := left, buffered := state.buffered - written.length })

/-- Called with no more than is buffered. -/
def skip (count : Nat) : SharedState :=
  { state with chunks := skipChunks count state.chunks, buffered := state.buffered - count }

def pushBack (chunk : Bytes) : SharedState :=
  { state with chunks := state.chunks ++ [chunk], buffered := state.buffered + chunk.length }

def pushFront (chunk : Bytes) : SharedState :=
  { state with chunks := chunk :: state.chunks, buffered := state.buffered + chunk.length }

def clear : SharedState :=
  { state with chunks := [], buffered := 0, done := false }

@[simp] theorem clear_chunks : state.clear.chunks = [] := rfl

@[simp] theorem clear_done : state.clear.done = false := rfl

end SharedState

/-! ## The two parties -/

def maxHttpBufBytes : Nat := 8 * 1024 * 1024

def maxFetchRetries : Nat := 5

def maxSocketSkip : Nat := 256 * 1024

/-- Where the prefetcher stands: at a lock, at a request, or at the socket. -/
inductive PrefetchPoint where
  | top
  | skipping (target remaining socket : Nat)
  | pushingLeftover (leftover : Bytes)
  | fetching
  | gate
  | reading
  | received (chunk : Bytes)
  | markingDone
  | eofWait
  | sleeping
  | failing (message : String)
  | exited
  deriving DecidableEq, Repr

/-- `response` is the offset of the next byte of the open response. -/
structure Prefetcher where
  point : PrefetchPoint := .top
  currentPos : Nat := 0
  response : Option Nat := some 0
  retryCount : Nat := 0
  deriving DecidableEq, Repr

/-- `delivered` records each successful read with the position it was made at. -/
structure HttpSource where
  pos : Nat := 0
  len : Option Nat
  isOpen : Bool := true
  shared : SharedState := {}
  prefetcher : Prefetcher := {}
  delivered : List (Nat × Bytes) := []
  deriving DecidableEq, Repr

inductive SeekFrom where
  | start (offset : Nat)
  | current (delta : Int)
  | fromEnd (delta : Int)
  deriving DecidableEq, Repr

def saturatingAddSigned (position : Nat) (delta : Int) : Nat :=
  min (position + delta).toNat (2 ^ 64 - 1)

namespace HttpSource

variable (source : HttpSource)

/-- `read` waits until there is something to return. -/
def read (size : Nat) : Option HttpSource :=
  if source.shared.chunks.isEmpty && !source.shared.done && source.shared.error.isNone then none
  else if source.shared.error.isSome then
    some { source with shared := { source.shared with error := none } }
  else
    let (written, shared) := source.shared.drainInto size
    some
      { source with
        pos := source.pos + written.length
        shared
        delivered := source.delivered ++ [(source.pos, written)] }

/-- `none` when the length is unknown: the error "stream length unknown". -/
def seekTarget : SeekFrom → Option Nat
  | .start offset => some offset
  | .current delta => some (saturatingAddSigned source.pos delta)
  | .fromEnd delta => source.len.map fun length => saturatingAddSigned length delta

def seekTo (newPos : Nat) : HttpSource :=
  if newPos = source.pos then source
  else if 0 < newPos - source.pos ∧ newPos - source.pos ≤ source.shared.buffered then
    { source with pos := newPos, shared := source.shared.skip (newPos - source.pos) }
  else
    -- a command that the prefetcher has not taken yet is overwritten
    { source with
      pos := newPos
      shared := { source.shared.clear with error := none, command := .seek newPos } }

def seek (origin : SeekFrom) : HttpSource :=
  match source.seekTarget origin with
  | none => source
  | some newPos => source.seekTo newPos

def drop : HttpSource :=
  { source with isOpen := false, shared := { source.shared with command := .stop } }

/-! ## The prefetcher -/

def goto (point : PrefetchPoint) : HttpSource :=
  { source with prefetcher := { source.prefetcher with point } }

@[simp] theorem goto_point (point : PrefetchPoint) :
    (source.goto point).prefetcher.point = point := rfl

@[simp] theorem goto_shared (point : PrefetchPoint) :
    (source.goto point).shared = source.shared := rfl

@[simp] theorem drop_isOpen : source.drop.isOpen = false := rfl

@[simp] theorem drop_command : source.drop.shared.command = .stop := rfl

/-- Behind a seek command, with the buffer cleared: skip on the open socket when
the target is near enough, and request it anew otherwise. -/
def beginSeek (target : Nat) : HttpSource :=
  let shared := { source.shared.clear with command := .continue }
  let forward := target - source.prefetcher.currentPos
  match source.prefetcher.response with
  | some socket =>
    if 0 < forward ∧ forward ≤ maxSocketSkip then
      { source with
        shared
        prefetcher := { source.prefetcher with
          point := .skipping target forward socket, response := none } }
    else
      { source with
        shared
        prefetcher :=
          { point := .fetching, currentPos := target, response := none, retryCount := 0 } }
  | none =>
    { source with
      shared
      prefetcher :=
        { point := .fetching, currentPos := target, response := none, retryCount := 0 } }

/-- The section at the top of the loop; it waits while the buffer is full or done. -/
def takeCommand : Option HttpSource :=
  match source.shared.command with
  | .stop =>
    some ({ source with shared := { source.shared with command := .continue } }.goto .exited)
  | .seek target => some (source.beginSeek target)
  | .continue =>
    if maxHttpBufBytes ≤ source.shared.buffered || source.shared.done then none
    else if source.prefetcher.response.isSome then some (source.goto .gate)
    else some (source.goto .fetching)

/-- A chunk while skipping: bytes beyond the target are left over. -/
def skipChunk (target remaining socket : Nat) (chunk : Bytes) : HttpSource :=
  if chunk.length < remaining then
    source.goto (.skipping target (remaining - chunk.length) (socket + chunk.length))
  else
    { source with
      prefetcher := { source.prefetcher with
        point :=
          if chunk.length = remaining then .gate else .pushingLeftover (chunk.drop remaining)
        -- the leftover is never added to the position
        currentPos := target
        response := some (socket + chunk.length)
        retryCount := 0 } }

def skipFailed (target : Nat) : HttpSource :=
  { source with
    prefetcher := { point := .fetching, currentPos := target, response := none, retryCount := 0 } }

def fetchSucceeded : HttpSource :=
  { source with
    prefetcher := { source.prefetcher with
      point := .gate, response := some source.prefetcher.currentPos, retryCount := 0 } }

/-- Give up after the last retry, and back off before it. -/
def retry (message : String) : HttpSource :=
  { source with
    prefetcher := { source.prefetcher with
      point :=
        if maxFetchRetries < source.prefetcher.retryCount + 1 then .failing message
        else .sleeping
      retryCount := source.prefetcher.retryCount + 1 } }

def fetchFailed (message : String) : HttpSource :=
  if "416".toList <:+: message.toList then source.goto .markingDone else source.retry message

/-- A chunk is dropped when a command is pending; the position stays behind then. -/
def storeChunk (chunk : Bytes) : HttpSource :=
  if source.shared.command = .continue then
    { source with
      shared := source.shared.pushBack chunk
      prefetcher := { source.prefetcher with
        point := .top, currentPos := source.prefetcher.currentPos + chunk.length } }
  else source.goto .top

def bodyEnded : HttpSource :=
  { source with
    prefetcher := { source.prefetcher with
      point :=
        if source.len.all (· ≤ source.prefetcher.currentPos) then .markingDone else .top
      response := none
      retryCount := 0 } }

def bodyFailed (message : String) : HttpSource :=
  { source with prefetcher := { source.prefetcher with response := none } }.retry message

/-- The prefetcher's next section behind the lock, if it can run. -/
def lockedSection : Option HttpSource :=
  match source.prefetcher.point with
  | .top => source.takeCommand
  | .pushingLeftover leftover =>
    some ({ source with shared := source.shared.pushFront leftover }.goto .gate)
  | .gate =>
    if source.shared.command ≠ .continue then some (source.goto .top)
    else if maxHttpBufBytes ≤ source.shared.buffered && !source.shared.done then none
    else some (source.goto .reading)
  | .received chunk => some (source.storeChunk chunk)
  | .markingDone =>
    some ({ source with shared := { source.shared with done := true } }.goto .eofWait)
  | .eofWait =>
    if source.shared.done && source.shared.command = .continue then none
    else some (source.goto .top)
  | .sleeping =>
    some (source.goto (if source.shared.command = .stop then .exited else .top))
  | .failing message =>
    some ({ source with shared := { source.shared with error := some message } }.goto .exited)
  | _ => none

end HttpSource

inductive HttpAct where
  | read (size : Nat)
  | seek (origin : SeekFrom)
  | drop
  | locked
  | fetched (answer : Except String Unit)
  | chunk (size : Nat)
  | bodyEnds
  | bodyFails (message : String)

/-- The next chunk of a response that stands at `socket`. -/
def chunkAt (resource : Bytes) (socket size : Nat) : Bytes := (resource.drop socket).take size

def HttpSource.step (resource : Bytes) (source : HttpSource) : HttpAct → Option HttpSource
  | .read size => if source.isOpen then source.read size else none
  | .seek origin => if source.isOpen then some (source.seek origin) else none
  | .drop => if source.isOpen then some source.drop else none
  | .locked => source.lockedSection
  | .fetched answer =>
    match source.prefetcher.point, answer with
    | .fetching, .ok () => some source.fetchSucceeded
    | .fetching, .error message => some (source.fetchFailed message)
    | _, _ => none
  | .chunk size =>
    match source.prefetcher.point, source.prefetcher.response with
    | .skipping target remaining socket, _ =>
      some (source.skipChunk target remaining socket (chunkAt resource socket size))
    | .reading, some socket =>
      let chunk := chunkAt resource socket size
      some
        { source with
          prefetcher := { source.prefetcher with
            point := .received chunk, response := some (socket + chunk.length) } }
    | _, _ => none
  | .bodyEnds =>
    match source.prefetcher.point with
    | .skipping target _ _ => some (source.skipFailed target)
    | .reading => some source.bodyEnded
    | _ => none
  | .bodyFails message =>
    match source.prefetcher.point with
    | .skipping target _ _ => some (source.skipFailed target)
    | .reading => some (source.bodyFailed message)
    | _ => none

def httpSystem (resource : Bytes) : System HttpSource HttpAct := ⟨HttpSource.step resource⟩

namespace HttpSource

/-- Every step with its guards. -/
inductive Move (resource : Bytes) (source : HttpSource) : HttpAct → HttpSource → Prop where
  | read (size : Nat) (next : HttpSource) (answers : source.read size = some next) :
      Move resource source (.read size) next
  | seek (origin : SeekFrom) : Move resource source (.seek origin) (source.seek origin)
  | drop : Move resource source .drop source.drop
  | stop (atTop : source.prefetcher.point = .top) (command : source.shared.command = .stop) :
      Move resource source .locked
        ({ source with shared := { source.shared with command := .continue } }.goto .exited)
  | beginSeek (target : Nat) (atTop : source.prefetcher.point = .top)
      (command : source.shared.command = .seek target) :
      Move resource source .locked (source.beginSeek target)
  | goOn (atTop : source.prefetcher.point = .top)
      (command : source.shared.command = .continue)
      (opened : source.prefetcher.response.isSome = true) :
      Move resource source .locked (source.goto .gate)
  | request (atTop : source.prefetcher.point = .top)
      (command : source.shared.command = .continue)
      (closed : source.prefetcher.response = none) :
      Move resource source .locked (source.goto .fetching)
  | pushLeftover (leftover : Bytes)
      (pushing : source.prefetcher.point = .pushingLeftover leftover) :
      Move resource source .locked
        ({ source with shared := source.shared.pushFront leftover }.goto .gate)
  | leaveGate (atGate : source.prefetcher.point = .gate)
      (busy : source.shared.command ≠ .continue) :
      Move resource source .locked (source.goto .top)
  | passGate (atGate : source.prefetcher.point = .gate)
      (command : source.shared.command = .continue) :
      Move resource source .locked (source.goto .reading)
  | storeChunk (chunk : Bytes) (received : source.prefetcher.point = .received chunk) :
      Move resource source .locked (source.storeChunk chunk)
  | markDone (marking : source.prefetcher.point = .markingDone) :
      Move resource source .locked
        ({ source with shared := { source.shared with done := true } }.goto .eofWait)
  | leaveEof (waiting : source.prefetcher.point = .eofWait) :
      Move resource source .locked (source.goto .top)
  | stopSleeping (sleeping : source.prefetcher.point = .sleeping)
      (command : source.shared.command = .stop) :
      Move resource source .locked (source.goto .exited)
  | wakeUp (sleeping : source.prefetcher.point = .sleeping)
      (command : source.shared.command ≠ .stop) :
      Move resource source .locked (source.goto .top)
  | fail (message : String) (failing : source.prefetcher.point = .failing message) :
      Move resource source .locked
        ({ source with shared := { source.shared with error := some message } }.goto .exited)
  | fetchSucceeded (fetching : source.prefetcher.point = .fetching) :
      Move resource source (.fetched (.ok ())) source.fetchSucceeded
  | fetchFailed (message : String) (fetching : source.prefetcher.point = .fetching) :
      Move resource source (.fetched (.error message)) (source.fetchFailed message)
  | skipChunk (size target remaining socket : Nat)
      (skipping : source.prefetcher.point = .skipping target remaining socket) :
      Move resource source (.chunk size)
        (source.skipChunk target remaining socket (chunkAt resource socket size))
  | readChunk (size socket : Nat) (reading : source.prefetcher.point = .reading)
      (response : source.prefetcher.response = some socket) :
      Move resource source (.chunk size)
        { source with
          prefetcher := { source.prefetcher with
            point := .received (chunkAt resource socket size)
            response := some (socket + (chunkAt resource socket size).length) } }
  | skipEnds (target remaining socket : Nat)
      (skipping : source.prefetcher.point = .skipping target remaining socket) :
      Move resource source .bodyEnds (source.skipFailed target)
  | bodyEnded (reading : source.prefetcher.point = .reading) :
      Move resource source .bodyEnds source.bodyEnded
  | skipFails (message : String) (target remaining socket : Nat)
      (skipping : source.prefetcher.point = .skipping target remaining socket) :
      Move resource source (.bodyFails message) (source.skipFailed target)
  | bodyFailed (message : String) (reading : source.prefetcher.point = .reading) :
      Move resource source (.bodyFails message) (source.bodyFailed message)

variable {resource : Bytes} {source next : HttpSource}

theorem takeCommand_move (atTop : source.prefetcher.point = .top)
    (stepped : source.takeCommand = some next) : Move resource source .locked next := by
  unfold takeCommand at stepped
  split at stepped
  · next command =>
      cases stepped
      exact .stop atTop command
  · next target command =>
      cases stepped
      exact .beginSeek target atTop command
  · next command =>
      split at stepped
      · cases stepped
      · split at stepped
        · next opened =>
            cases stepped
            exact .goOn atTop command opened
        · next closed =>
            cases stepped
            exact .request atTop command (not_isSome_iff_eq_none.mp closed)

theorem lockedSection_move (stepped : source.lockedSection = some next) :
    Move resource source .locked next := by
  simp only [lockedSection] at stepped
  split at stepped
  · next atTop => exact takeCommand_move atTop stepped
  · next leftover pushing =>
      cases stepped
      exact .pushLeftover leftover pushing
  · next atGate =>
      split at stepped
      · next busy =>
          cases stepped
          exact .leaveGate atGate busy
      · next idle =>
          obtain ⟨-, ⟨⟩⟩ := ite_none_left_eq_some.mp stepped
          exact .passGate atGate (not_not.mp idle)
  · next chunk received =>
      cases stepped
      exact .storeChunk chunk received
  · next marking =>
      cases stepped
      exact .markDone marking
  · next waiting =>
      split at stepped
      · cases stepped
      · cases stepped
        exact .leaveEof waiting
  · next sleeping =>
      by_cases command : source.shared.command = .stop
      · rw [if_pos command] at stepped
        cases stepped
        exact .stopSleeping sleeping command
      · rw [if_neg command] at stepped
        cases stepped
        exact .wakeUp sleeping command
  · next message failing =>
      cases stepped
      exact .fail message failing
  · cases stepped

theorem step_move {act : HttpAct} (stepped : source.step resource act = some next) :
    Move resource source act next := by
  cases act with
  | read size =>
    obtain ⟨-, stepped⟩ := ite_none_right_eq_some.mp stepped
    exact .read size next stepped
  | seek origin =>
    obtain ⟨-, rfl⟩ := ite_some_none_eq_some.mp stepped
    exact .seek origin
  | drop =>
    obtain ⟨-, rfl⟩ := ite_some_none_eq_some.mp stepped
    exact .drop
  | locked => exact lockedSection_move stepped
  | fetched answer =>
    simp only [step] at stepped
    split at stepped
    · next fetching =>
        cases stepped
        exact .fetchSucceeded fetching
    · next message fetching =>
        cases stepped
        exact .fetchFailed message fetching
    · cases stepped
  | chunk size =>
    simp only [step] at stepped
    split at stepped
    · next target remaining socket skipping =>
        cases stepped
        exact .skipChunk size target remaining socket skipping
    · next socket reading response =>
        cases stepped
        exact .readChunk size socket reading response
    · cases stepped
  | bodyEnds =>
    simp only [step] at stepped
    split at stepped
    · next target remaining socket skipping =>
        cases stepped
        exact .skipEnds target remaining socket skipping
    · next reading =>
        cases stepped
        exact .bodyEnded reading
    · cases stepped
  | bodyFails message =>
    simp only [step] at stepped
    split at stepped
    · next target remaining socket skipping =>
        cases stepped
        exact .skipFails message target remaining socket skipping
    · next reading =>
        cases stepped
        exact .bodyFailed message reading
    · cases stepped

end HttpSource

end KizunaLink.Source
