import KizunaLink.Player.VoiceTasks

/-!
# Voice updates in progress

A task that has not ended is installed in its player, or the WebSocket operation
that started it has still to install it.  The operations under a lock keep this
by themselves, with two exceptions: the installation after the connection was
made without the lock, and an update of a player that was destroyed while the
request waited for the lock.  The condition is about these two.
-/

set_option autoImplicit false

namespace KizunaLink.Player

open KizunaLink.Lib List Option

namespace GuildVoice

variable {guild : GuildVoice} {loose : Nat → Prop}

/-! ## What an operation in progress relies on -/

/-- A part of a locked section: it adds players and tasks and changes those there
are, but a task keeps its player. -/
structure Grows (guild next : GuildVoice) : Prop where
  userId : next.userId = guild.userId
  entry : next.entry = guild.entry
  ws : next.ws = guild.ws
  requests : next.requests = guild.requests
  players : guild.players.length ≤ next.players.length
  tasks : ∀ (task : Nat) (entry : GatewayTask), guild.tasks[task]? = some entry →
    ∃ later, next.tasks[task]? = some later ∧ later.player = entry.player

variable {next : GuildVoice}

theorem Grows.refl (guild : GuildVoice) : guild.Grows guild :=
  ⟨rfl, rfl, rfl, rfl, Nat.le_refl _, fun _ entry found => ⟨entry, found, rfl⟩⟩

theorem Grows.trans {first second third : GuildVoice} (one : first.Grows second)
    (two : second.Grows third) : first.Grows third := by
  refine ⟨two.userId.trans one.userId, two.entry.trans one.entry, two.ws.trans one.ws,
    two.requests.trans one.requests, Nat.le_trans one.players two.players, ?_⟩
  intro task entry found
  obtain ⟨middle, foundMiddle, samePlayer⟩ := one.tasks task entry found
  obtain ⟨later, foundLater, samePlayer'⟩ := two.tasks task middle foundMiddle
  exact ⟨later, foundLater, samePlayer'.trans samePlayer⟩

theorem grows_modifyPlayer (guild : GuildVoice) (player : Nat)
    (change : PlayerVoice → PlayerVoice) : guild.Grows (guild.modifyPlayer player change) := by
  refine ⟨rfl, rfl, rfl, rfl, ?_, fun _ entry found => ⟨entry, found, rfl⟩⟩
  simp only [modifyPlayer, length_modify]
  exact Nat.le_refl _

theorem grows_setStatus (guild : GuildVoice) (task : Nat) (status : TaskStatus) :
    guild.Grows (guild.setStatus task status) := by
  refine ⟨rfl, rfl, rfl, rfl, Nat.le_refl _, fun other entry found => ?_⟩
  refine ⟨if task = other then { entry with status } else entry, ?_, ?_⟩
  · rw [getElem?_setStatus, found]
    rfl
  · split <;> rfl

theorem grows_take (guild : GuildVoice) (player : Nat) :
    guild.Grows (guild.takeGatewayTask player) := by
  simp only [takeGatewayTask]
  split
  · exact .refl guild
  · exact (grows_modifyPlayer _ _ _).trans (grows_setStatus _ _ _)

theorem grows_connect (guild : GuildVoice) (player : Nat) (voice : VoiceConnectionState) :
    guild.Grows (guild.connectVoice player voice) := by
  refine ⟨rfl, rfl, rfl, rfl, Nat.le_refl _, fun task entry found => ⟨entry, ?_, rfl⟩⟩
  rw [← found]
  exact List.getElem?_append_left (List.getElem?_eq_some_iff.mp found).1

def WsOp.Known (guild : GuildVoice) : WsOp → Prop
  | .deciding player voice | .connecting player voice =>
    player < guild.players.length ∧ voice.channelId ≠ none ∧ guild.userId ≠ none
  | .installing player task =>
    player < guild.players.length ∧
      ∃ entry, guild.tasks[task]? = some entry ∧ entry.player = player
  | _ => True

def RestOp.Known (guild : GuildVoice) : RestOp → Prop
  | .patching player _ => player < guild.players.length
  | _ => True

theorem WsOp.Known.grows {op : WsOp} (known : WsOp.Known guild op) (grows : guild.Grows next) :
    WsOp.Known next op := by
  cases op with
  | deciding player voice | connecting player voice =>
    refine ⟨Nat.lt_of_lt_of_le known.1 grows.players, known.2.1, ?_⟩
    rw [grows.userId]
    exact known.2.2
  | installing player task =>
    obtain ⟨inRange, entry, found, own⟩ := known
    obtain ⟨later, foundLater, samePlayer⟩ := grows.tasks task entry found
    exact ⟨Nat.lt_of_lt_of_le inRange grows.players, later, foundLater, samePlayer.trans own⟩
  | leaving player | destroying player => trivial

theorem RestOp.Known.grows {op : RestOp} (known : RestOp.Known guild op)
    (grows : guild.Grows next) : RestOp.Known next op := by
  cases op with
  | patching player voice => exact Nat.lt_of_lt_of_le known grows.players
  | removing | destroying player => trivial

/-- The task that the WebSocket operation has started and not yet installed. -/
def InFlight (ws : Option WsOp) (task : Nat) : Prop :=
  ∃ player, ws = some (.installing player task)

structure VoiceSafe (guild : GuildVoice) : Prop where
  held : guild.Held (InFlight guild.ws)
  entry : ∀ player ∈ guild.entry, player < guild.players.length
  ws : ∀ op ∈ guild.ws, WsOp.Known guild op
  requests : ∀ op ∈ guild.requests, RestOp.Known guild op

/-- The condition on a step: the WebSocket operation installs its task in a player
that still lives, has still the credentials of the task and no other task; and a
request updates the voice of a player that still lives. -/
def Undisturbed (guild : GuildVoice) (act : VoiceAct) : Prop :=
  match act with
  | .wsStep =>
    match guild.ws with
    | some (.installing player task) =>
      ∀ state ∈ guild.players[player]?, ∀ entry ∈ guild.tasks[task]?,
        state.destroyed = false ∧ entry.voice = state.voice ∧ state.gatewayTask = none
    | _ => True
  | .restStep index =>
    match guild.requests[index]? with
    | some (.patching player voice) =>
      voice.channelId ≠ none → ∀ state ∈ guild.players[player]?, state.destroyed = false
    | _ => True
  | _ => True

instance (guild : GuildVoice) (act : VoiceAct) : Decidable (guild.Undisturbed act) := by
  unfold Undisturbed
  split
  · split <;> infer_instance
  · split <;> infer_instance
  · infer_instance

/-! ## The steps -/

theorem VoiceSafe.goOn (safe : guild.VoiceSafe) (grows : guild.Grows next) (ws : Option WsOp)
    (held : next.Held (InFlight ws)) (known : ∀ op ∈ ws, WsOp.Known next op) :
    VoiceSafe { next with ws } := by
  refine ⟨{ held with }, ?_, known, ?_⟩
  · intro player isEntry
    exact Nat.lt_of_lt_of_le (safe.entry player (grows.entry ▸ isEntry)) grows.players
  · intro op member
    have later : RestOp.Known next op :=
      (safe.requests op (grows.requests ▸ member)).grows grows
    exact later

theorem VoiceSafe.serve (safe : guild.VoiceSafe) (grows : guild.Grows next)
    (held : next.Held (InFlight guild.ws)) {requests : List RestOp}
    (known : ∀ op ∈ requests, RestOp.Known next op) : VoiceSafe { next with requests } := by
  refine ⟨?_, ?_, ?_, known⟩
  · rw [← grows.ws] at held
    exact { held with }
  · intro player isEntry
    exact Nat.lt_of_lt_of_le (safe.entry player (grows.entry ▸ isEntry)) grows.players
  · intro op isOp
    have later : WsOp.Known next op := (safe.ws op (grows.ws ▸ isOp)).grows grows
    exact later

theorem VoiceSafe.forget (safe : guild.VoiceSafe) : VoiceSafe { guild with entry := none } :=
  ⟨⟨safe.held.installed, safe.held.held, safe.held.channel, safe.held.user⟩, nofun, safe.ws,
    safe.requests⟩

theorem grows_leave (guild : GuildVoice) (player : Nat) : guild.Grows (guild.leaveVoice player) :=
  (guild.grows_take player).trans (grows_modifyPlayer _ _ _)

theorem grows_destroy (guild : GuildVoice) (player : Nat) : guild.Grows (guild.destroy player) :=
  (guild.grows_take player).trans (grows_modifyPlayer _ _ _)

theorem Held.destroy (held : guild.Held loose) (player : Nat) : (guild.destroy player).Held loose :=
  (held.take player).change (guild.gatewayTask_take player) fun _ => rfl

theorem decideSpawn_cases (guild : GuildVoice) (player : Nat) (voice : VoiceConnectionState) :
    guild.decideSpawn player voice =
        ((guild.takeGatewayTask player).setVoice player voice, true) ∨
      guild.decideSpawn player voice = (guild.takeGatewayTask player, true) ∨
      guild.decideSpawn player voice = (guild, false) := by
  rw [← take_setVoice]
  simp only [decideSpawn]
  generalize decide (guild.players[player]?.map PlayerVoice.voice ≠ some voice) = changed
  cases changed with
  | true => exact .inl (by simp)
  | false =>
    right
    by_cases none : guild.gatewayTask player = none
    · exact .inl (by simp [none])
    · exact .inr (by simp [none])

theorem Held.decideSpawn (held : guild.Held loose) (player : Nat) (voice : VoiceConnectionState) :
    (guild.decideSpawn player voice).1.Held loose ∧
      guild.Grows (guild.decideSpawn player voice).1 := by
  rcases guild.decideSpawn_cases player voice with decided | decided | decided
  · rw [decided]
    exact ⟨held.replace player voice, (guild.grows_take player).trans (grows_modifyPlayer _ _ _)⟩
  · rw [decided]
    exact ⟨held.take player, guild.grows_take player⟩
  · rw [decided]
    exact ⟨held, .refl guild⟩

theorem VoiceSafe.wsStep (safe : guild.VoiceSafe) {op : WsOp} (current : guild.ws = some op)
    (condition : guild.Undisturbed .wsStep) : (guild.wsStep op).VoiceSafe := by
  have known := safe.ws op current
  have held := safe.held
  rw [current] at held
  cases op with
  | leaving player =>
    have grounded : guild.Held (InFlight none) := held.congr (by simp [InFlight])
    exact safe.goOn (guild.grows_leave player) none (grounded.replace player {}) nofun
  | destroying player =>
    have grounded : guild.Held (InFlight none) := held.congr (by simp [InFlight])
    exact safe.goOn (guild.grows_destroy player) none (grounded.destroy player) nofun
  | deciding player voice =>
    obtain ⟨decided, grows⟩ := held.decideSpawn player voice
    simp only [GuildVoice.wsStep]
    cases (guild.decideSpawn player voice).2 with
    | true =>
      refine safe.goOn grows _ (decided.congr (by simp [InFlight])) ?_
      rintro _ ⟨⟩
      exact known.grows grows
    | false =>
      exact safe.goOn grows none (decided.congr (by simp [InFlight])) nofun
  | connecting player voice =>
    have grows := guild.grows_connect player voice
    refine safe.goOn grows _ ?_ ?_
    · apply (held.connect player known.2.1 known.2.2).congr
      simp [InFlight, eq_comm]
    · intro next isNext
      cases isNext
      refine ⟨known.1, _, List.getElem?_concat_length, rfl⟩
  | installing player task =>
    obtain ⟨inRange, entry, foundEntry, own⟩ := known
    simp only [Undisturbed, current] at condition
    have found := List.getElem?_eq_getElem inRange
    obtain ⟨live, voice, free⟩ := condition _ found entry foundEntry
    have noTask : guild.gatewayTask player = none := by
      simp [gatewayTask, found, free]
    have installed := held.installs found free live foundEntry own voice ⟨player, rfl⟩
    simp only [GuildVoice.wsStep, install, noTask]
    refine safe.goOn (grows_modifyPlayer _ _ _) none (installed.congr ?_) nofun
    simp +contextual [InFlight, eq_comm]

theorem grows_handleVoice (guild : GuildVoice) (player : Nat) (voice : VoiceConnectionState) :
    guild.Grows (guild.handleVoice player voice) := by
  simp only [handleVoice]
  split
  · exact guild.grows_leave player
  · split
    · exact .refl guild
    · split
      · exact grows_modifyPlayer _ _ _
      · exact (((grows_modifyPlayer _ _ _).trans (grows_take _ _)).trans
          (grows_connect _ _ _)).trans (grows_modifyPlayer _ _ _)

theorem Held.noTask_of_noUser (held : guild.Held loose) (noUser : guild.userId = none)
    (player : Nat) : guild.gatewayTask player = none := by
  cases taken : guild.gatewayTask player with
  | none => rfl
  | some task =>
    obtain ⟨state, found, installed⟩ := gatewayTask_eq_some taken
    obtain ⟨_, _, entry, foundEntry, _⟩ := held.installed player state found task installed
    rw [held.user noUser] at foundEntry
    cases foundEntry

/-- A task that is started and installed under one lock is never loose. -/
theorem Held.connectInstalled (held : guild.Held loose) {player : Nat} {state : PlayerVoice}
    (exist : ∀ task, loose task → ∃ entry, guild.tasks[task]? = some entry)
    (found : guild.players[player]? = some state) (free : state.gatewayTask = none)
    (live : state.destroyed = false) (channel : state.voice.channelId ≠ none)
    (user : guild.userId ≠ none) :
    ((guild.connectVoice player state.voice).modifyPlayer player fun state =>
      { state with gatewayTask := some guild.tasks.length }).Held loose := by
  have connected := held.connect player channel user
  have foundEntry : ∃ entry : GatewayTask,
      (guild.connectVoice player state.voice).tasks[guild.tasks.length]? = some entry ∧
        entry.player = player ∧ entry.voice = state.voice :=
    ⟨_, List.getElem?_concat_length, rfl, rfl⟩
  obtain ⟨entry, foundEntry, own, voice⟩ := foundEntry
  apply (connected.installs found free live foundEntry own voice (.inr rfl)).congr
  intro task
  constructor
  · rintro ⟨isLoose | same, different⟩
    · exact isLoose
    · exact absurd same different
  · intro isLoose
    obtain ⟨old, foundOld⟩ := exist task isLoose
    have inRange := (List.getElem?_eq_some_iff.mp foundOld).1
    exact ⟨.inl isLoose, Nat.ne_of_lt inRange⟩

theorem Held.handleVoice (held : guild.Held loose) {player : Nat} (voice : VoiceConnectionState)
    (exist : ∀ task, loose task → ∃ entry, guild.tasks[task]? = some entry)
    (inRange : player < guild.players.length) (live : voice.channelId ≠ none →
      ∀ state ∈ guild.players[player]?, state.destroyed = false) :
    (guild.handleVoice player voice).Held loose := by
  simp only [GuildVoice.handleVoice]
  split
  case h_1 => exact held.replace player {}
  case h_2 channelId channel =>
    have hasChannel : voice.channelId ≠ none := by simp [channel]
    have found := List.getElem?_eq_getElem inRange
    split
    case isTrue => exact held
    case isFalse =>
      split
      case h_1 noUser =>
        exact held.change (held.noTask_of_noUser noUser player) fun _ => rfl
      case h_2 user hasUser =>
        have grows : guild.Grows ((guild.takeGatewayTask player).setVoice player voice) :=
          (guild.grows_take player).trans (grows_modifyPlayer _ _ _)
        have foundNow : ((guild.takeGatewayTask player).setVoice player voice).players[player]? =
            some { guild.players[player] with voice, gatewayTask := none } := by
          simp [setVoice, getElem?_modifyPlayer, getElem?_take, found]
        have alive : guild.players[player].destroyed = false := live hasChannel _ found
        rw [take_setVoice]
        apply (held.replace player voice).connectInstalled ?_ foundNow rfl alive hasChannel
        · rw [grows.userId]
          simpa [setVoice, modifyPlayer] using hasUser ▸ some_ne_none user
        · intro task isLoose
          obtain ⟨entry, foundEntry⟩ := exist task isLoose
          obtain ⟨later, foundLater, _⟩ := grows.tasks task entry foundEntry
          exact ⟨later, foundLater⟩

theorem VoiceSafe.restStep (safe : guild.VoiceSafe) {index : Nat} {op : RestOp}
    (current : guild.requests[index]? = some op) (condition : guild.Undisturbed (.restStep index)) :
    (guild.restStep op (guild.requests.eraseIdx index)).VoiceSafe := by
  have known := safe.requests op (List.mem_of_getElem? current)
  have others : ∀ {next : GuildVoice}, guild.Grows next →
      ∀ other ∈ guild.requests.eraseIdx index, RestOp.Known next other := by
    intro next grows other member
    exact (safe.requests other (mem_of_mem_eraseIdx member)).grows grows
  cases op with
  | patching player voice =>
    simp only [Undisturbed, current] at condition
    have grows := guild.grows_handleVoice player voice
    refine safe.serve grows (safe.held.handleVoice voice ?_ known condition) (others grows)
    rintro task ⟨owner, isFlying⟩
    obtain ⟨_, entry, found, _⟩ := safe.ws _ isFlying
    exact ⟨entry, found⟩
  | removing =>
    simp only [GuildVoice.restStep]
    split
    case h_1 => exact safe.serve (.refl guild) safe.held (others (.refl guild))
    case h_2 player isEntry =>
      have served : VoiceSafe { guild with
          requests := guild.requests.eraseIdx index ++ [RestOp.destroying player] } := by
        apply safe.serve (.refl guild) safe.held
        intro other member
        rcases mem_append.mp member with old | new
        · exact others (.refl guild) other old
        · cases mem_singleton.mp new
          trivial
      exact served.forget
  | destroying player =>
    have grows := guild.grows_destroy player
    exact safe.serve grows (safe.held.destroy player) (others grows)

theorem VoiceSafe.getOrCreatePlayer (safe : guild.VoiceSafe) :
    guild.getOrCreatePlayer.1.VoiceSafe ∧
      guild.getOrCreatePlayer.2 < guild.getOrCreatePlayer.1.players.length := by
  simp only [GuildVoice.getOrCreatePlayer]
  split
  case h_1 player isEntry => exact ⟨safe, safe.entry player isEntry⟩
  case h_2 =>
    have grows : guild.Grows { guild with players := guild.players ++ [{}] } :=
      ⟨rfl, rfl, rfl, rfl, by simp, fun _ entry found => ⟨entry, found, rfl⟩⟩
    have created : VoiceSafe { guild with players := guild.players ++ [{}] } :=
      safe.serve grows safe.held.create fun op member => (safe.requests op member).grows grows
    have inRange : guild.players.length < (guild.players ++ [({} : PlayerVoice)]).length := by
      simp
    refine ⟨⟨⟨created.held.installed, created.held.held, created.held.channel,
      created.held.user⟩, ?_, created.ws, created.requests⟩, inRange⟩
    intro player isEntry
    cases isEntry
    exact inRange

theorem getOrCreatePlayer_frame (guild : GuildVoice) :
    guild.getOrCreatePlayer.1.ws = guild.ws ∧
      guild.getOrCreatePlayer.1.userId = guild.userId := by
  simp only [getOrCreatePlayer]
  split <;> exact ⟨rfl, rfl⟩

theorem VoiceSafe.handleVoiceUpdate (safe : guild.VoiceSafe) (idle : guild.ws = none)
    (update : VoiceUpdate) : (guild.handleVoiceUpdate update).VoiceSafe := by
  have held := safe.held
  rw [idle] at held
  simp only [GuildVoice.handleVoiceUpdate]
  split
  case h_1 =>
    refine safe.goOn (.refl guild) _ (held.congr ?_) ?_
    · cases guild.entry <;> simp [InFlight]
    · intro op isOp
      obtain ⟨player, _, rfl⟩ := map_eq_some_iff.mp isOp
      trivial
  case h_2 channelId channel =>
    split
    case h_1 token endpoint user _ _ hasUser =>
      obtain ⟨created, inRange⟩ := safe.getOrCreatePlayer
      obtain ⟨sameWs, sameUser⟩ := guild.getOrCreatePlayer_frame
      have createdHeld := created.held
      rw [sameWs, idle] at createdHeld
      refine created.goOn (.refl _) _ (createdHeld.congr (by simp [InFlight])) ?_
      rintro _ ⟨⟩
      exact ⟨inRange, by simp, by simp [sameUser, hasUser]⟩
    case h_2 => exact safe

theorem VoiceSafe.step {act : VoiceAct} (safe : guild.VoiceSafe) (condition : guild.Undisturbed act)
    (stepped : guild.step act = some next) : next.VoiceSafe := by
  cases act with
  | voiceUpdate update =>
    simp only [GuildVoice.step] at stepped
    split at stepped
    case isTrue idle =>
      cases stepped
      exact safe.handleVoiceUpdate idle update
    case isFalse => cases stepped
  | wsDestroy =>
    simp only [GuildVoice.step] at stepped
    split at stepped
    case isTrue idle =>
      cases stepped
      have held := safe.held
      rw [idle] at held
      have gone : VoiceSafe { guild with ws := guild.entry.map WsOp.destroying } := by
        refine safe.goOn (.refl guild) _ (held.congr ?_) ?_
        · cases guild.entry <;> simp [InFlight]
        · intro op isOp
          obtain ⟨player, _, rfl⟩ := map_eq_some_iff.mp isOp
          trivial
      exact gone.forget
    case isFalse => cases stepped
  | wsStep =>
    obtain ⟨op, current, rfl⟩ := map_eq_some_iff.mp stepped
    exact safe.wsStep current condition
  | patch voice =>
    obtain ⟨created, inRange⟩ := safe.getOrCreatePlayer
    cases stepped
    refine created.serve (.refl _) created.held ?_
    intro op member
    rcases mem_append.mp member with old | new
    · exact created.requests op old
    · cases mem_singleton.mp new
      exact inRange
  | delete =>
    simp only [GuildVoice.step] at stepped
    split at stepped
    · cases stepped
      refine safe.serve (.refl guild) safe.held ?_
      intro op member
      rcases mem_append.mp member with old | new
      · exact safe.requests op old
      · cases mem_singleton.mp new
        trivial
    · cases stepped
      exact safe
  | restStep index =>
    obtain ⟨op, current, rfl⟩ := map_eq_some_iff.mp stepped
    exact safe.restStep current condition
  | taskEnds task =>
    cases stepped
    have grows := guild.grows_setStatus task .ended
    have held := safe.held.ended task (fun _ isLoose _ => isLoose) fun _ isLoose => isLoose
    exact safe.serve grows held fun op member => (safe.requests op member).grows grows

end GuildVoice

end KizunaLink.Player
