import KizunaLink.Player.VoiceUpdate

/-!
# Installed gateway tasks

A task that has not ended is installed in its player with the credentials stored
there, or is one of the loose ones a caller names.  The parts of the locked
sections keep this, with the loose tasks they add or remove.
-/

set_option autoImplicit false

namespace KizunaLink.Player

open List Option

namespace GuildVoice

/-- Every task is installed with the credentials of its player, or ended, or one of
the loose ones. -/
structure Held (guild : GuildVoice) (loose : Nat → Prop) : Prop where
  installed : ∀ (player : Nat) (state : PlayerVoice), guild.players[player]? = some state →
    ∀ task, state.gatewayTask = some task →
      state.destroyed = false ∧ ¬ loose task ∧
        ∃ entry, guild.tasks[task]? = some entry ∧ entry.player = player ∧
          entry.voice = state.voice
  held : ∀ (task : Nat) (entry : GatewayTask), guild.tasks[task]? = some entry →
    entry.status ≠ .ended → loose task ∨ guild.gatewayTask entry.player = some task
  channel : ∀ (task : Nat) (entry : GatewayTask), guild.tasks[task]? = some entry →
    entry.voice.channelId ≠ none
  user : guild.userId = none → guild.tasks = []

variable {guild : GuildVoice} {loose loose' : Nat → Prop}

theorem Held.congr (held : guild.Held loose) (same : ∀ task, loose task ↔ loose' task) :
    guild.Held loose' := by
  have equal : loose = loose' := funext fun task => propext (same task)
  rw [← equal]
  exact held

/-! ## The parts of the locked sections -/

theorem getElem?_modifyPlayer (guild : GuildVoice) (player other : Nat)
    (change : PlayerVoice → PlayerVoice) :
    (guild.modifyPlayer player change).players[other]? =
      guild.players[other]?.map fun state => if player = other then change state else state := by
  simp only [modifyPlayer, List.getElem?_modify]
  rfl

theorem getElem?_setStatus (guild : GuildVoice) (task other : Nat) (status : TaskStatus) :
    (guild.setStatus task status).tasks[other]? =
      guild.tasks[other]?.map fun entry =>
        if task = other then { entry with status } else entry := by
  simp only [setStatus, List.getElem?_modify]
  rfl

theorem Held.change (held : guild.Held loose) {player : Nat}
    {change : PlayerVoice → PlayerVoice} (free : guild.gatewayTask player = none)
    (keeps : ∀ state, (change state).gatewayTask = state.gatewayTask) :
    (guild.modifyPlayer player change).Held loose := by
  have sameTask : ∀ other, (guild.modifyPlayer player change).gatewayTask other =
      guild.gatewayTask other := by
    intro other
    simp only [gatewayTask, getElem?_modifyPlayer]
    cases found : guild.players[other]? with
    | none => rfl
    | some state =>
      simp only [map_some, bind_some]
      split
      · exact keeps state
      · rfl
  refine ⟨?_, ?_, held.channel, held.user⟩
  · intro other state found task installed
    rw [getElem?_modifyPlayer] at found
    obtain ⟨before, foundBefore, rfl⟩ := map_eq_some_iff.mp found
    split at installed
    case isTrue same =>
      subst same
      rw [keeps] at installed
      simp [gatewayTask, foundBefore, installed] at free
    case isFalse other' =>
      rw [if_neg other']
      exact held.installed other before foundBefore task installed
  · intro task entry found alive
    rw [sameTask]
    exact held.held task entry found alive

theorem Held.ended (held : guild.Held loose) (task : Nat)
    (still : ∀ other, loose other → other ≠ task → loose' other)
    (fewer : ∀ other, loose' other → loose other) :
    (guild.setStatus task .ended).Held loose' := by
  refine ⟨?_, ?_, ?_, ?_⟩
  · intro player state found other installed
    obtain ⟨live, notLoose, entry, foundEntry, own, voice⟩ :=
      held.installed player state found other installed
    refine ⟨live, fun isLoose => notLoose (fewer other isLoose),
      if task = other then { entry with status := .ended } else entry, ?_, ?_, ?_⟩
    · rw [getElem?_setStatus, foundEntry]
      rfl
    · split <;> exact own
    · split <;> exact voice
  · intro other entry found alive
    rw [getElem?_setStatus] at found
    obtain ⟨before, foundBefore, rfl⟩ := map_eq_some_iff.mp found
    split at alive
    case isTrue => exact absurd rfl alive
    case isFalse different =>
      rw [if_neg different]
      rcases held.held other before foundBefore alive with isLoose | installed
      · exact .inl (still other isLoose (Ne.symm different))
      · exact .inr installed
  · intro other entry found
    rw [getElem?_setStatus] at found
    obtain ⟨before, foundBefore, rfl⟩ := map_eq_some_iff.mp found
    have channel := held.channel other before foundBefore
    split <;> exact channel
  · intro noUser
    simp [setStatus, held.user noUser]

theorem gatewayTask_eq_some {player task : Nat} (taken : guild.gatewayTask player = some task) :
    ∃ state, guild.players[player]? = some state ∧ state.gatewayTask = some task :=
  bind_eq_some_iff.mp taken

theorem Held.release (held : guild.Held loose) {player task : Nat}
    (taken : guild.gatewayTask player = some task) :
    (guild.modifyPlayer player fun state => { state with gatewayTask := none }).Held
      fun other => loose other ∨ other = task := by
  obtain ⟨owner, foundOwner, owns⟩ := gatewayTask_eq_some taken
  obtain ⟨_, _, own, foundOwn, ownPlayer, _⟩ := held.installed player owner foundOwner task owns
  refine ⟨?_, ?_, held.channel, held.user⟩
  · intro other state found installedTask installed
    rw [getElem?_modifyPlayer] at found
    obtain ⟨before, foundBefore, rfl⟩ := map_eq_some_iff.mp found
    split at installed
    case isTrue => cases installed
    case isFalse different =>
      rw [if_neg different]
      obtain ⟨live, notLoose, entry, foundEntry, entryPlayer, voice⟩ :=
        held.installed other before foundBefore installedTask installed
      refine ⟨live, ?_, entry, foundEntry, entryPlayer, voice⟩
      -- a task installed in two players would belong to both
      rintro (isLoose | rfl)
      · exact notLoose isLoose
      · cases Option.some.inj (foundOwn.symm.trans foundEntry)
        exact different (ownPlayer.symm.trans entryPlayer)
  · intro other entry found alive
    rcases held.held other entry found alive with isLoose | installed
    · exact .inl (.inl isLoose)
    · by_cases same : player = entry.player
      · rw [← same, taken] at installed
        exact .inl (.inr (Option.some.inj installed).symm)
      · refine .inr ?_
        obtain ⟨state, foundState, installs⟩ := gatewayTask_eq_some installed
        simp [gatewayTask, getElem?_modifyPlayer, foundState, same, installs]

theorem Held.take (held : guild.Held loose) (player : Nat) :
    (guild.takeGatewayTask player).Held loose := by
  simp only [takeGatewayTask]
  split
  case h_1 => exact held
  case h_2 task taken =>
    apply (held.release taken).ended task
    · rintro other (isLoose | same) different
      · exact isLoose
      · exact absurd same different
    · exact fun other isLoose => .inl isLoose

theorem getElem?_take (guild : GuildVoice) (player : Nat) :
    (guild.takeGatewayTask player).players[player]? =
      guild.players[player]?.map fun state => { state with gatewayTask := none } := by
  cases taken : guild.gatewayTask player with
  | none =>
    simp only [takeGatewayTask, taken]
    cases found : guild.players[player]? with
    | none => rfl
    | some state =>
      simp only [gatewayTask, found, bind_some] at taken
      simp [← taken]
  | some task =>
    simp [takeGatewayTask, taken, setStatus, getElem?_modifyPlayer]

theorem gatewayTask_take (guild : GuildVoice) (player : Nat) :
    (guild.takeGatewayTask player).gatewayTask player = none := by
  simp only [gatewayTask, getElem?_take]
  cases guild.players[player]? <;> rfl

theorem take_setVoice (guild : GuildVoice) (player : Nat) (voice : VoiceConnectionState) :
    (guild.setVoice player voice).takeGatewayTask player =
      (guild.takeGatewayTask player).setVoice player voice := by
  have same : (guild.setVoice player voice).gatewayTask player = guild.gatewayTask player := by
    simp only [gatewayTask, setVoice, getElem?_modifyPlayer, if_true]
    cases guild.players[player]? <;> rfl
  simp only [takeGatewayTask, same]
  split
  · rfl
  · simp only [setVoice, modifyPlayer, setStatus, modify_modify_eq]
    rfl

section

variable (held : guild.Held loose)
include held

theorem Held.replace (player : Nat) (voice : VoiceConnectionState) :
    ((guild.takeGatewayTask player).setVoice player voice).Held loose :=
  (held.take player).change (guild.gatewayTask_take player) fun _ => rfl

theorem Held.connect (player : Nat) {voice : VoiceConnectionState}
    (channel : voice.channelId ≠ none) (user : guild.userId ≠ none) :
    (guild.connectVoice player voice).Held
      fun other => loose other ∨ other = guild.tasks.length := by
  refine ⟨?_, ?_, ?_, fun noUser => absurd noUser user⟩
  · intro other state found task installed
    obtain ⟨live, notLoose, entry, foundEntry, own, sameVoice⟩ :=
      held.installed other state found task installed
    have old := (List.getElem?_eq_some_iff.mp foundEntry).1
    refine ⟨live, ?_, entry, ?_, own, sameVoice⟩
    · rintro (isLoose | rfl)
      · exact notLoose isLoose
      · exact Nat.lt_irrefl _ old
    · rw [← foundEntry]
      exact List.getElem?_append_left old
  · intro task entry found alive
    by_cases old : task < guild.tasks.length
    · have foundBefore := (List.getElem?_append_left old).symm.trans found
      rcases held.held task entry foundBefore alive with isLoose | installed
      · exact .inl (.inl isLoose)
      · exact .inr installed
    · have bound := (List.getElem?_eq_some_iff.mp found).1
      simp only [connectVoice, length_append, length_singleton] at bound
      exact .inl (.inr (by omega))
  · intro task entry found
    rcases mem_append.mp (List.mem_of_getElem? found) with old | new
    · obtain ⟨index, foundBefore⟩ := List.getElem?_of_mem old
      exact held.channel index entry foundBefore
    · cases mem_singleton.mp new
      exact channel

theorem Held.installs {player task : Nat} {state : PlayerVoice}
    {entry : GatewayTask} (found : guild.players[player]? = some state)
    (free : state.gatewayTask = none) (live : state.destroyed = false)
    (foundEntry : guild.tasks[task]? = some entry) (own : entry.player = player)
    (voice : entry.voice = state.voice) (isLoose : loose task) :
    (guild.modifyPlayer player fun state => { state with gatewayTask := some task }).Held
      fun other => loose other ∧ other ≠ task := by
  refine ⟨?_, ?_, held.channel, held.user⟩
  · intro other otherState foundOther installedTask installed
    rw [getElem?_modifyPlayer] at foundOther
    obtain ⟨before, foundBefore, rfl⟩ := map_eq_some_iff.mp foundOther
    split at installed
    case isTrue same =>
      subst same
      cases Option.some.inj (found.symm.trans foundBefore)
      cases installed
      rw [if_pos rfl]
      exact ⟨live, fun both => both.2 rfl, entry, foundEntry, own, voice⟩
    case isFalse different =>
      rw [if_neg different]
      obtain ⟨stays, notLoose, rest⟩ :=
        held.installed other before foundBefore installedTask installed
      exact ⟨stays, fun both => notLoose both.1, rest⟩
  · intro other otherEntry foundOther alive
    by_cases same : other = task
    · subst same
      cases Option.some.inj (foundEntry.symm.trans foundOther)
      right
      simp [gatewayTask, getElem?_modifyPlayer, own, found]
    · rcases held.held other otherEntry foundOther alive with stillLoose | installed
      · exact .inl ⟨stillLoose, same⟩
      · right
        obtain ⟨otherState, foundState, installs⟩ := gatewayTask_eq_some installed
        have different : player ≠ otherEntry.player := by
          rintro rfl
          cases Option.some.inj (found.symm.trans foundState)
          rw [free] at installs
          cases installs
        simp [gatewayTask, getElem?_modifyPlayer, foundState, different, installs]

theorem Held.create : Held { guild with players := guild.players ++ [{}] } loose := by
  refine ⟨?_, ?_, held.channel, held.user⟩
  · intro player state found task installed
    by_cases old : player < guild.players.length
    · exact held.installed player state ((List.getElem?_append_left old).symm.trans found) task
        installed
    · have new := List.mem_of_getElem?
        ((List.getElem?_append_right (Nat.not_lt.mp old)).symm.trans found)
      cases mem_singleton.mp new
      cases installed
  · intro task entry found alive
    rcases held.held task entry found alive with isLoose | installed
    · exact .inl isLoose
    · obtain ⟨state, foundState, installs⟩ := gatewayTask_eq_some installed
      have old := (List.getElem?_eq_some_iff.mp foundState).1
      right
      simp [gatewayTask, List.getElem?_append_left old, foundState, installs]

end

end GuildVoice

end KizunaLink.Player
