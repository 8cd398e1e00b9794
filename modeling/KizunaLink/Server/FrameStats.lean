import KizunaLink.Lib.System
import Mathlib.Algebra.BigOperators.Group.List.Basic
import Mathlib.Algebra.Order.BigOperators.Group.List

/-!
# Frame statistics of a session

Model of `FrameMetrics::calculate` (monitoring/stats_collector.rs) with what players do to
the counters it reads: `stop_current_track` (discord/player/manager/start.rs) moves the
frames of a player to the totals of the session, `stop_track` and `destroy`
(discord/player/context.rs) leave them where they are.  A tick is one step.
-/

set_option autoImplicit false

namespace KizunaLink.Server.Stats

open KizunaLink.Lib List

/-- `inTotal`: the last tick has counted the frames, and they have not been moved since. -/
structure Player where
  inMap : Bool := true
  locked : Bool := false
  track : Bool := false
  paused : Bool := false
  framesSent : Nat := 0
  framesNulled : Nat := 0
  inTotal : Bool := false
  deriving DecidableEq, Repr

inductive PlayerAct where
  | sent
  | nulled
  | play (loaded : Bool)
  | pause (paused : Bool)
  | stop
  | destroy
  | lock (locked : Bool)
  deriving DecidableEq, Repr

namespace Player

def step (player : Player) : PlayerAct → Player
  | .sent => { player with framesSent := player.framesSent + 1 }
  | .nulled => { player with framesNulled := player.framesNulled + 1 }
  | .play loaded =>
    { player with track := loaded, framesSent := 0, framesNulled := 0, inTotal := false }
  | .pause paused => { player with paused }
  | .stop => { player with track := false }
  | .destroy => { player with track := false, inMap := false }
  | .lock locked => { player with locked }

/-- The players that `calculate` finds in the map, can read, and counts. -/
def counted (player : Player) : Bool :=
  player.inMap && !player.locked && player.track && !player.paused

def framesInTotal (player : Player) : Nat := if player.inTotal then player.framesSent else 0

end Player

structure FrameStats where
  sent : Int
  nulled : Int
  deficit : Int
  deriving DecidableEq, Repr

def toI32 (value : Int) : Int := value.bmod (2 ^ 32)

/-- `totals` and `deltas` are the values of `historical_sent` and `delta_sent` of the ticks so
far, and `sentFrames` counts the frames that were sent. -/
structure Session where
  players : List Player := []
  totalSentHistorical : Nat := 0
  totalNulledHistorical : Nat := 0
  lastStatsSent : Nat := 0
  lastStatsNulled : Nat := 0
  totals : List Nat := []
  deltas : List Int := []
  sentFrames : Nat := 0
  deriving DecidableEq, Repr

namespace Session

variable (session : Session)

def active : List Player := session.players.filter (·.counted)

def historicalSent : Nat :=
  session.totalSentHistorical + (session.active.map (·.framesSent)).sum

def historicalNulled : Nat :=
  session.totalNulledHistorical + (session.active.map (·.framesNulled)).sum

def deltaSent : Int := toI32 (session.historicalSent - session.lastStatsSent : Nat)

def deltaNulled : Int := toI32 (session.historicalNulled - session.lastStatsNulled : Nat)

def calculate (intervalSecs : Nat) : Option FrameStats :=
  let count : Int := session.active.length
  if session.active.length = 0 ∨ (session.lastStatsSent = 0 ∧ session.lastStatsNulled = 0) then
    none
  else
    let expectedTotal := toI32 (toI32 ((intervalSecs * 50 : Nat)) * count)
    let deficit := toI32 (expectedTotal - toI32 (session.deltaSent + session.deltaNulled))
    some
      { sent := session.deltaSent.tdiv count
        nulled := session.deltaNulled.tdiv count
        deficit := deficit.tdiv count }

def tick (intervalSecs : Nat) : Session :=
  { session with
    players := session.players.map fun player => { player with inTotal := player.counted }
    lastStatsSent := session.historicalSent
    lastStatsNulled := session.historicalNulled
    totals := session.totals ++ [session.historicalSent]
    deltas := session.deltas ++
      if (session.calculate intervalSecs).isSome then [session.deltaSent] else [] }

end Session

inductive StatsAct where
  | create
  | player (index : Nat) (act : PlayerAct)
  | tick (intervalSecs : Nat)
  deriving DecidableEq, Repr

def Session.step (session : Session) : StatsAct → Option Session
  | .create => some { session with players := session.players ++ [{}] }
  | .player index act =>
    session.players[index]?.map fun player =>
      let session := { session with players := session.players.set index (player.step act) }
      match act with
      | .sent => { session with sentFrames := session.sentFrames + 1 }
      | .play _ =>
        { session with
          totalSentHistorical := session.totalSentHistorical + player.framesSent
          totalNulledHistorical := session.totalNulledHistorical + player.framesNulled }
      | _ => session
  | .tick intervalSecs => some (session.tick intervalSecs)

def statsSystem : System Session StatsAct := ⟨Session.step⟩

/-- A tick counts every player whose frames are in the last total. -/
def CountsAgain (session : Session) (act : StatsAct) : Prop :=
  (act matches .tick _) → ∀ player ∈ session.players, player.inTotal = true → player.counted = true

instance (session : Session) (act : StatsAct) : Decidable (CountsAgain session act) :=
  inferInstanceAs (Decidable (_ → ∀ player ∈ session.players, _))

structure Session.Truthful (session : Session) : Prop where
  last : session.lastStatsSent ≤
    session.totalSentHistorical + (session.players.map Player.framesInTotal).sum
  sent : session.totalSentHistorical + (session.players.map (·.framesSent)).sum ≤
    session.sentFrames
  deltas : session.deltas.sum ≤ session.lastStatsSent
  totals : session.totals.Pairwise (· ≤ ·) ∧ ∀ total ∈ session.totals,
    total ≤ session.lastStatsSent

theorem sum_set (frames : Player → Nat) {players : List Player} {index : Nat}
    {player : Player} (found : players[index]? = some player) (other : Player) :
    ((players.set index other).map frames).sum + frames player =
      (players.map frames).sum + frames other := by
  induction players generalizing index with
  | nil => cases found
  | cons first rest ih =>
    cases index with
    | zero =>
      cases found
      simp only [set_cons_zero, map_cons, sum_cons]
      omega
    | succ index =>
      have later := ih found
      simp only [set_cons_succ, map_cons, sum_cons]
      omega

theorem sum_active (frames : Player → Nat) (players : List Player) :
    ((players.filter (·.counted)).map frames).sum =
      (players.map fun player => if player.counted then frames player else 0).sum := by
  induction players with
  | nil => rfl
  | cons first rest ih => by_cases counted : first.counted = true <;> simp [counted, ih]

theorem toI32_le (value : Nat) : toI32 value ≤ value := by
  simp only [toI32, Int.bmod]
  split <;> omega

theorem Player.framesInTotal_le (player : Player) : player.framesInTotal ≤ player.framesSent := by
  unfold framesInTotal
  split <;> omega

namespace Session.Truthful

variable {session next : Session}

theorem player (truthful : session.Truthful) {index : Nat} {act : PlayerAct}
    (stepped : session.step (.player index act) = some next) : next.Truthful := by
  obtain ⟨player, found, rfl⟩ := Option.map_eq_some_iff.mp stepped
  have last := truthful.last
  have sent := truthful.sent
  have all := sum_set (·.framesSent) found (player.step act)
  have counted := sum_set Player.framesInTotal found (player.step act)
  have inside := player.framesInTotal_le
  cases act <;> simp only [Player.step, Player.framesInTotal] at all counted inside ⊢ <;>
    refine ⟨?_, ?_, truthful.deltas, truthful.totals⟩ <;>
    simp only <;> grind

theorem tick (truthful : session.Truthful) {intervalSecs : Nat}
    (again : CountsAgain session (.tick intervalSecs)) :
    (session.tick intervalSecs).Truthful := by
  have counts : (session.players.map Player.framesInTotal).sum ≤
      (session.active.map (·.framesSent)).sum := by
    rw [Session.active, sum_active]
    refine sum_le_sum fun player member => ?_
    unfold Player.framesInTotal
    split
    · next inside => rw [if_pos (again rfl player member inside)]
    · exact Nat.zero_le _
  have grows : session.lastStatsSent ≤ session.historicalSent :=
    truthful.last.trans (Nat.add_le_add_left counts _)
  refine ⟨?_, ?_, ?_, ?_, ?_⟩
  · simp only [Session.tick, Session.historicalSent, Session.active, sum_active, List.map_map]
    exact le_rfl
  · simp only [Session.tick, List.map_map]
    exact truthful.sent
  · have delta := toI32_le (session.historicalSent - session.lastStatsSent)
    have before := truthful.deltas
    simp only [Session.tick, sum_append]
    split
    · rw [sum_singleton, Session.deltaSent]
      omega
    · rw [sum_nil]
      omega
  · refine pairwise_append.mpr ⟨truthful.totals.1, pairwise_singleton _ _, ?_⟩
    intro total member last same
    rw [mem_singleton.mp same]
    exact (truthful.totals.2 total member).trans grows
  · intro total member
    rcases mem_append.mp member with earlier | last
    · exact (truthful.totals.2 total earlier).trans grows
    · exact (mem_singleton.mp last).le

theorem step (truthful : session.Truthful) {act : StatsAct} (again : CountsAgain session act)
    (stepped : session.step act = some next) : next.Truthful := by
  cases act with
  | create =>
    cases stepped
    refine ⟨?_, ?_, truthful.deltas, truthful.totals⟩
    · simpa [Player.framesInTotal] using truthful.last
    · simpa using truthful.sent
  | player index act => exact truthful.player stepped
  | tick intervalSecs =>
    cases stepped
    exact truthful.tick again

end Session.Truthful

/-- The deltas of all ticks together are at most the frames that were sent, and the total never
decreases. -/
theorem frame_statistics_truthful {acts : List StatsAct} {after : Session}
    (again : statsSystem.Meets CountsAgain {} acts)
    (reached : statsSystem.run {} acts = some after) :
    after.deltas.sum ≤ after.sentFrames ∧ after.totals.Pairwise (· ≤ ·) := by
  have truthful : after.Truthful :=
    statsSystem.run_invariant CountsAgain Session.Truthful
      (fun before => before.step) acts ⟨le_rfl, le_rfl, le_rfl, .nil, by simp⟩ again reached
  have inside : (after.players.map Player.framesInTotal).sum ≤
      (after.players.map (·.framesSent)).sum :=
    sum_le_sum fun player _ => player.framesInTotal_le
  have last := truthful.last
  have sent := truthful.sent
  have deltas := truthful.deltas
  exact ⟨by omega, truthful.totals.1⟩

def replaced : List StatsAct :=
  [.create, .player 0 (.play true), .player 0 .sent, .tick 60, .player 0 (.play true),
    .player 0 .sent, .player 0 .sent, .tick 60]

theorem replaced_track_counted_once :
    ∃ after, statsSystem.run {} replaced = some after ∧ after.deltas = [2] ∧
      after.deltas.sum ≤ after.sentFrames ∧ after.totals.Pairwise (· ≤ ·) :=
  ⟨_, rfl, by decide, frame_statistics_truthful
    (show statsSystem.Meets CountsAgain {} replaced by decide) rfl⟩

def pauseFirst : List StatsAct :=
  [.player 0 (.pause true), .tick 60, .player 0 (.pause false), .tick 60]

/-- The first player is paused at every other tick. -/
theorem paused_frames_counted_again :
    (statsSystem.run {} ([.create, .create, .player 0 (.play true), .player 1 (.play true),
        .player 0 .sent, .player 0 .sent, .player 1 .sent, .tick 60] ++ pauseFirst ++
        pauseFirst)).map (fun after => (after.totals, after.deltas, after.sentFrames)) =
      some ([3, 1, 3, 1, 3], [0, 2, 0, 2], 3) := by
  decide

end KizunaLink.Server.Stats
