import KizunaLink.Lib.System

/-!
# Voice updates of one guild

Model of `handle_voice_update` (api/ws/opcodes.rs), `handle_voice`
(api/rest/routes/player/update.rs), `connect_voice` (server/voice.rs) and the
destruction of a player (server/session.rs, discord/player/context.rs).

A section under a player's write lock is one step: an aborted task that is
awaited there has ended when the lock is released, and what the section awaits
besides does not touch the player.  The connection's loop handles one operation
after another, so there is at most one WebSocket operation at a time, beside any
number of REST requests.

Players are numbered in the order of their creation; `entry` is the guild's
entry in the session's map.  An operation keeps the number of the player it has
read from the map.
-/

set_option autoImplicit false

namespace KizunaLink.Player

open KizunaLink.Lib

structure VoiceConnectionState where
  token : String := ""
  endpoint : String := ""
  sessionId : String := ""
  channelId : Option String := none
  deriving DecidableEq, Repr

/-- The `voiceUpdate` operation: the two strings of its event may be missing. -/
structure VoiceUpdate where
  sessionId : String
  channelId : Option String
  token : Option String
  endpoint : Option String
  deriving DecidableEq, Repr

/-- An aborted task runs until its next await point. -/
inductive TaskStatus where
  | running
  | aborting
  | ended
  deriving DecidableEq, Repr

/-- A gateway task, the player it was started for and the credentials it was
started with. -/
structure GatewayTask where
  player : Nat
  voice : VoiceConnectionState
  status : TaskStatus
  deriving DecidableEq, Repr

structure PlayerVoice where
  voice : VoiceConnectionState := {}
  gatewayTask : Option Nat := none
  destroyed : Bool := false
  deriving DecidableEq, Repr

/-- The place of a WebSocket operation: what it does when it goes on. -/
inductive WsOp where
  | leaving (player : Nat)
  | deciding (player : Nat) (voice : VoiceConnectionState)
  | connecting (player : Nat) (voice : VoiceConnectionState)
  | installing (player task : Nat)
  | destroying (player : Nat)
  deriving DecidableEq, Repr

inductive RestOp where
  | patching (player : Nat) (voice : VoiceConnectionState)
  | removing
  | destroying (player : Nat)
  deriving DecidableEq, Repr

structure GuildVoice where
  userId : Option Nat
  players : List PlayerVoice := []
  entry : Option Nat := none
  tasks : List GatewayTask := []
  ws : Option WsOp := none
  requests : List RestOp := []
  deriving DecidableEq, Repr

def parseU64 (text : String) : Option Nat :=
  let digits :=
    match text.toList with
    | '+' :: rest => rest
    | chars => chars
  if digits ≠ [] ∧ digits.all Char.isDigit then
    let value := digits.foldl (fun value digit => value * 10 + (digit.toNat - '0'.toNat)) 0
    if value < 2 ^ 64 then some value else none
  else none

namespace GuildVoice

variable (guild : GuildVoice) (player : Nat)

def modifyPlayer (change : PlayerVoice → PlayerVoice) : GuildVoice :=
  { guild with players := guild.players.modify player change }

def setStatus (task : Nat) (status : TaskStatus) : GuildVoice :=
  { guild with tasks := guild.tasks.modify task fun entry => { entry with status } }

variable (voice : VoiceConnectionState)

def setVoice : GuildVoice :=
  guild.modifyPlayer player fun state => { state with voice }

def gatewayTask (player : Nat) : Option Nat :=
  guild.players[player]?.bind PlayerVoice.gatewayTask

/-- Take the player's gateway task, abort it and await its end. -/
def takeGatewayTask : GuildVoice :=
  match guild.gatewayTask player with
  | none => guild
  | some task =>
    (guild.modifyPlayer player fun state => { state with gatewayTask := none }).setStatus task
      .ended

def getOrCreatePlayer : GuildVoice × Nat :=
  match guild.entry with
  | some player => (guild, player)
  | none =>
    ({ guild with
        players := guild.players ++ [{}]
        entry := some guild.players.length },
      guild.players.length)

/-- The gateway task is the last one of the list.  Without a valid channel the
spawned task is empty. -/
def connectVoice : GuildVoice :=
  let status := if (voice.channelId.bind parseU64).isSome then .running else .ended
  { guild with tasks := guild.tasks ++ [{ player, voice, status }] }

def leaveVoice : GuildVoice :=
  (guild.takeGatewayTask player).setVoice player {}

/-- The first locked section of `handle_voice_update`: the credentials are stored,
and the result is whether a task has to be started. -/
def decideSpawn : GuildVoice × Bool :=
  let changed := decide (guild.players[player]?.map PlayerVoice.voice ≠ some voice)
  let stored := if changed then guild.setVoice player voice else guild
  if changed || (stored.gatewayTask player).isNone then (stored.takeGatewayTask player, true)
  else (stored, false)

/-- The second locked section: the new task is dropped when there is one. -/
def install (player task : Nat) : GuildVoice :=
  match guild.gatewayTask player with
  -- aborted, but nobody awaits its end
  | some _ => guild.setStatus task .aborting
  | none => guild.modifyPlayer player fun state => { state with gatewayTask := some task }

def handleVoiceUpdate (update : VoiceUpdate) : GuildVoice :=
  match update.channelId with
  | none => { guild with ws := guild.entry.map .leaving }
  | some channelId =>
    match update.token, update.endpoint, guild.userId with
    | some token, some endpoint, some _ =>
      let (guild, player) := guild.getOrCreatePlayer
      { guild with
        ws := some (.deciding player
          { token, endpoint, sessionId := update.sessionId, channelId := some channelId }) }
    | _, _, _ => guild

def destroy : GuildVoice :=
  (guild.takeGatewayTask player).modifyPlayer player fun state => { state with destroyed := true }

def wsStep (op : WsOp) : GuildVoice :=
  match op with
  | .leaving player => { guild.leaveVoice player with ws := none }
  | .deciding player voice =>
    let (guild, spawn) := guild.decideSpawn player voice
    { guild with ws := if spawn then some (.connecting player voice) else none }
  | .connecting player voice =>
    { guild.connectVoice player voice with ws := some (.installing player guild.tasks.length) }
  | .installing player task => { guild.install player task with ws := none }
  | .destroying player => { guild.destroy player with ws := none }

def handleVoice : GuildVoice :=
  match voice.channelId with
  | none => guild.leaveVoice player
  | some _ =>
    if voice.token = "" ∨ voice.endpoint = "" ∨ voice.sessionId = "" then guild
    else
      let guild := guild.setVoice player voice
      match guild.userId with
      -- the credentials are stored although no task can be started
      | none => guild
      | some _ =>
        let guild := guild.takeGatewayTask player
        (guild.connectVoice player voice).modifyPlayer player fun state =>
          { state with gatewayTask := some guild.tasks.length }

/-- The request at an index goes on; `rest` are the requests without it. -/
def restStep (op : RestOp) (rest : List RestOp) : GuildVoice :=
  match op with
  | .patching player voice => { guild.handleVoice player voice with requests := rest }
  | .removing =>
    match guild.entry with
    | none => { guild with requests := rest }
    | some player => { guild with entry := none, requests := rest ++ [.destroying player] }
  | .destroying player => { guild.destroy player with requests := rest }

end GuildVoice

inductive VoiceAct where
  | voiceUpdate (update : VoiceUpdate)
  | wsDestroy
  | wsStep
  | patch (voice : VoiceConnectionState)
  | delete
  | restStep (index : Nat)
  | taskEnds (task : Nat)
  deriving DecidableEq, Repr

def GuildVoice.step (guild : GuildVoice) : VoiceAct → Option GuildVoice
  | .voiceUpdate update =>
    if guild.ws = none then some (guild.handleVoiceUpdate update) else none
  | .wsDestroy =>
    if guild.ws = none then
      some { guild with entry := none, ws := guild.entry.map .destroying }
    else none
  | .wsStep => guild.ws.map guild.wsStep
  | .patch voice =>
    let (guild, player) := guild.getOrCreatePlayer
    some { guild with requests := guild.requests ++ [.patching player voice] }
  | .delete =>
    if guild.entry.isSome then some { guild with requests := guild.requests ++ [.removing] }
    else some guild
  | .restStep index =>
    guild.requests[index]?.map fun op => guild.restStep op (guild.requests.eraseIdx index)
  | .taskEnds task => some (guild.setStatus task .ended)

def voiceSystem : System GuildVoice VoiceAct := ⟨GuildVoice.step⟩

def GuildVoice.new (userId : Option Nat) : GuildVoice := { userId }

end KizunaLink.Player
