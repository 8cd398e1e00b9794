import KizunaLink.Player.VoiceSteps

/-!
# Gateway tasks and stored credentials

Between updates every gateway task that has not ended belongs to a player that
lives, and has the credentials this player stores.
-/

set_option autoImplicit false

namespace KizunaLink.Player

open KizunaLink.Lib Option

namespace GuildVoice

variable {guild : GuildVoice}

theorem new_voiceSafe (userId : Option Nat) : (GuildVoice.new userId).VoiceSafe :=
  ⟨⟨nofun, nofun, nofun, fun _ => rfl⟩, nofun, nofun, nofun⟩

def Quiet (guild : GuildVoice) : Prop := guild.ws = none ∧ guild.requests = []

instance (guild : GuildVoice) : Decidable guild.Quiet := inferInstanceAs (Decidable (_ ∧ _))

/-- The installed tasks have the stored credentials, and every task that has not
ended belongs to a player that lives, has not left voice and stores its
credentials. -/
def Agrees (guild : GuildVoice) : Prop :=
  (∀ (player : Nat) (state : PlayerVoice), guild.players[player]? = some state →
    ∀ task, state.gatewayTask = some task →
      ∃ entry, guild.tasks[task]? = some entry ∧ entry.voice = state.voice) ∧
  ∀ entry ∈ guild.tasks, entry.status ≠ .ended →
    ∃ state, guild.players[entry.player]? = some state ∧ state.destroyed = false ∧
      state.voice.channelId ≠ none ∧ entry.voice = state.voice

theorem VoiceSafe.agrees (safe : guild.VoiceSafe) (idle : guild.ws = none) : guild.Agrees := by
  constructor
  · intro player state found task installed
    obtain ⟨_, _, entry, foundEntry, _, voice⟩ :=
      safe.held.installed player state found task installed
    exact ⟨entry, foundEntry, voice⟩
  · intro entry member alive
    obtain ⟨task, foundEntry⟩ := List.getElem?_of_mem member
    rcases safe.held.held task entry foundEntry alive with ⟨_, inFlight⟩ | isInstalled
    · rw [idle] at inFlight
      cases inFlight
    · obtain ⟨state, found, installed⟩ := gatewayTask_eq_some isInstalled
      obtain ⟨live, _, same, foundSame, _, voice⟩ :=
        safe.held.installed _ state found task installed
      cases Option.some.inj (foundEntry.symm.trans foundSame)
      exact ⟨state, found, live, voice ▸ safe.held.channel task entry foundEntry, voice⟩

end GuildVoice

/-- Under the condition the gateway tasks and the stored credentials agree
whenever no update is in progress. -/
theorem gateway_tasks_match_stored_voice (userId : Option Nat) (acts : List VoiceAct)
    (guild : GuildVoice) (reached : voiceSystem.run (.new userId) acts = some guild)
    (meets : voiceSystem.Meets GuildVoice.Undisturbed (.new userId) acts)
    (quiet : guild.Quiet) : guild.Agrees := by
  have safe : guild.VoiceSafe :=
    voiceSystem.run_invariant GuildVoice.Undisturbed GuildVoice.VoiceSafe
      (fun safe => safe.step) acts (GuildVoice.new_voiceSafe userId) meets reached
  exact safe.agrees quiet.1

def firstVoice : VoiceConnectionState :=
  { token := "t1", endpoint := "e", sessionId := "s", channelId := some "7" }

def secondVoice : VoiceConnectionState := { firstVoice with token := "t2" }

def firstUpdate : VoiceUpdate :=
  { sessionId := "s", channelId := some "7", token := some "t1", endpoint := some "e" }

def updateThenPatch : List VoiceAct :=
  [.voiceUpdate firstUpdate, .wsStep, .wsStep, .wsStep, .patch secondVoice, .restStep 0]

theorem gateway_tasks_match_after_patch :
    ∃ guild, voiceSystem.run (.new (some 1)) updateThenPatch = some guild ∧ guild.Quiet ∧
      guild.tasks.map GatewayTask.status = [.ended, .running] ∧ guild.Agrees := by
  have ended : (voiceSystem.run (.new (some 1)) updateThenPatch).map
      (fun guild => (decide guild.Quiet, guild.tasks.map GatewayTask.status)) =
      some (true, [.ended, .running]) := by decide
  obtain ⟨guild, reached, ended⟩ := map_eq_some_iff.mp ended
  simp only [Prod.mk.injEq, decide_eq_true_eq] at ended
  exact ⟨guild, reached, ended.1, ended.2,
    gateway_tasks_match_stored_voice (some 1) updateThenPatch guild reached (by decide) ended.1⟩

/-- While the WebSocket update connects, the player leaves voice. -/
def leaveInGap : List VoiceAct :=
  [.voiceUpdate firstUpdate, .wsStep, .wsStep, .patch {}, .restStep 0, .wsStep]

/-- While the WebSocket update connects, the player is destroyed. -/
def destroyInGap : List VoiceAct :=
  [.voiceUpdate firstUpdate, .wsStep, .wsStep, .delete, .restStep 0, .restStep 0, .wsStep]

/-- A PATCH has read the player from the map and waits for its lock while the player
is destroyed. -/
def patchAfterDestroy : List VoiceAct :=
  [.patch firstVoice, .delete, .restStep 1, .restStep 1, .restStep 0]

/-- A task's status, whether its player is destroyed, and whether that player stores
its credentials. -/
structure TaskReport where
  status : TaskStatus
  destroyed : Bool
  sameVoice : Bool
  deriving DecidableEq, Repr

def GuildVoice.reports (guild : GuildVoice) : List TaskReport :=
  guild.tasks.filterMap fun entry =>
    guild.players[entry.player]?.map fun state =>
      { status := entry.status, destroyed := state.destroyed,
        sameVoice := entry.voice = state.voice }

theorem GuildVoice.Agrees.reports {guild : GuildVoice} (agrees : guild.Agrees) :
    ∀ report ∈ guild.reports, report.status ≠ .ended →
      report.destroyed = false ∧ report.sameVoice = true := by
  intro report member alive
  obtain ⟨entry, inTasks, isReport⟩ := List.mem_filterMap.mp member
  obtain ⟨owner, foundOwner, rfl⟩ := map_eq_some_iff.mp isReport
  obtain ⟨state, found, live, _, voice⟩ := agrees.2 entry inTasks alive
  cases Option.some.inj (foundOwner.symm.trans found)
  exact ⟨live, decide_eq_true voice⟩

def outcome (acts : List VoiceAct) : Option (Bool × List TaskReport) :=
  (voiceSystem.run (.new (some 1)) acts).map fun guild => (decide guild.Quiet, guild.reports)

theorem disturbed_runs :
    outcome leaveInGap = some (true, [⟨.running, false, false⟩]) ∧
      outcome destroyInGap = some (true, [⟨.running, true, true⟩]) ∧
      outcome patchAfterDestroy = some (true, [⟨.running, true, true⟩]) := by
  decide

theorem leave_while_connecting_keeps_task :
    ¬ ∀ (acts : List VoiceAct) (guild : GuildVoice),
      voiceSystem.run (.new (some 1)) acts = some guild → guild.Quiet → guild.Agrees := by
  intro claim
  obtain ⟨guild, reached, ended⟩ := map_eq_some_iff.mp disturbed_runs.1
  simp only [Prod.mk.injEq, decide_eq_true_eq] at ended
  have agree := (claim _ guild reached ended.1).reports
  simp [ended.2] at agree

end KizunaLink.Player
