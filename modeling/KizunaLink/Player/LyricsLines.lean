import KizunaLink.Player.LyricsIsolation
import Mathlib.Data.List.Induction

/-!
# The lines of a track are sent once

A call of `sync_lyrics` (discord/player/manager/lyrics.rs) as a function of the last index
and the position, which a monitor that finds the lock free carries out.  While the position
does not go back, the last index is the number of lines reached, minus one.
-/

set_option autoImplicit false

namespace KizunaLink.Player

open KizunaLink.Lib List Option LyricsPlayer

variable (lines : List LyricsLine)

/-- The lines from one index to another, in one call. -/
def linesFrom (first target : Int) : List LineEvent :=
  ((lines.zipIdx.take (target + 1).toNat).drop first.toNat).map fun entry =>
    ⟨entry.2, entry.1, decide ((entry.2 : Int) ≠ target)⟩

/-- What a call with the lock sends, and the index it leaves. -/
def syncLyrics (last : Int) (posMs : Nat) : List LineEvent × Int :=
  let target := targetLine lines posMs
  if target = last then ([], last)
  else if last < target then (linesFrom lines (last + 1) target, target)
  else if 0 ≤ target then (linesFrom lines target target, target)
  else ([], target)

def syncCalls (lines : List LyricsLine) : Int → List Nat → List (List LineEvent)
  | _, [] => []
  | last, posMs :: rest =>
    let (sent, index) := syncLyrics lines last posMs
    sent :: syncCalls lines index rest

theorem linesFrom_cons (next : Nat) (target : Int) (within : next ≤ target) (line : LyricsLine)
    (here : lines[next]? = some line) :
    linesFrom lines next target =
      ⟨next, line, decide ((next : Int) ≠ target)⟩ :: linesFrom lines (next + 1) target := by
  have entry : (lines.zipIdx.take (target + 1).toNat)[next]? = some (line, next) := by
    rw [getElem?_take_of_lt (by omega), getElem?_zipIdx, here]
    simp
  obtain ⟨bound, entry⟩ := List.getElem?_eq_some_iff.mp entry
  rw [linesFrom, Int.toNat_natCast, drop_eq_getElem_cons bound, entry]
  rfl

theorem linesFrom_eq_nil_iff (first target : Int) (bound : target < lines.length) :
    linesFrom lines first target = [] ↔ target < first.toNat := by
  rw [linesFrom, map_eq_nil_iff, drop_eq_nil_iff, length_take, length_zipIdx]
  omega

/-- A line is skipped when another one follows in its call. -/
def SkipsAllButLast : List LineEvent → Prop
  | [] => True
  | event :: rest => (event.skipped ↔ rest ≠ []) ∧ SkipsAllButLast rest

theorem linesFrom_skips (target : Int) (bound : target < lines.length) (next : Nat) :
    SkipsAllButLast (linesFrom lines next target) := by
  induction left : (target + 1 - next).toNat generalizing next with
  | zero =>
    rw [(linesFrom_eq_nil_iff lines next target bound).mpr (by omega)]
    trivial
  | succ left ih =>
    have here := getElem?_eq_getElem (show next < lines.length by omega)
    rw [linesFrom_cons lines next target (by omega) _ here]
    refine ⟨?_, ih (next + 1) (by omega)⟩
    have last := linesFrom_eq_nil_iff lines (next + 1) target bound
    exact decide_eq_true_iff.trans (Iff.not (Iff.trans (by omega) last.symm))

theorem syncCalls_skips (positions : List Nat) (last : Int) :
    ∀ call ∈ syncCalls lines last positions, SkipsAllButLast call := by
  induction positions generalizing last with
  | nil => simp [syncCalls]
  | cons posMs rest ih =>
    have skips (first : Int) : SkipsAllButLast (linesFrom lines first (targetLine lines posMs)) :=
      linesFrom_skips lines _ (targetLine_bounds lines posMs).2 first.toNat
    have call : SkipsAllButLast (syncLyrics lines last posMs).1 := by
      simp only [syncLyrics]
      split_ifs
      exacts [trivial, skips _, skips _, trivial]
    exact forall_mem_cons.mpr ⟨call, ih _⟩

/-- The player behind a call that had the lock. -/
def LyricsPlayer.synced (player : LyricsPlayer) (playback : Nat) (call : List LineEvent × Int) :
    LyricsPlayer :=
  { player.setPoint playback .waiting with
    lastLyricIndex := call.2
    lyricsLock := none
    events := player.events ++ call.1.map .lyricsLine }

/-- The steps of a monitor that has the lock send the lines one by one. -/
theorem run_sending (target : Int) (bound : target < lines.length) (playback next : Nat)
    (within : next ≤ target) (player : LyricsPlayer)
    (point : player.points playback = .sending lines next target) :
    ∃ acts : List SyncAct, lyricsSystem.run player (acts.map (.monitor playback)) =
      some (player.synced playback (linesFrom lines next target, target)) := by
  obtain ⟨left, isLeft⟩ := Int.le.dest within
  induction left generalizing next player with
  | zero =>
    obtain rfl : (next : Int) = target := by omega
    have inside : next < lines.length := by omega
    have here := getElem?_eq_getElem inside
    have only : linesFrom lines next next = [⟨next, lines[next], false⟩] := by
      rw [linesFrom_cons lines next next le_rfl _ here]
      simp [linesFrom]
    refine ⟨[.sendLine, .storeIndex], ?_⟩
    simp [System.run, lyricsSystem, step, stepMonitor, point, here, sendLine, setPoint,
      storeIndex, send, synced, only]
  | succ left ih =>
    have inside : next < lines.length := by omega
    have here := getElem?_eq_getElem inside
    have more : (next : Int) ≠ target := by omega
    have stepped : lyricsSystem.step player (.monitor playback .sendLine) =
        some (player.sendLine playback lines next target lines[next]) := by
      simp [lyricsSystem, step, stepMonitor, point, here]
    obtain ⟨acts, reached⟩ := ih (next + 1) (by omega)
      (player.sendLine playback lines next target lines[next])
      (by simp [sendLine, setPoint, more]) (by omega)
    refine ⟨.sendLine :: acts, ?_⟩
    rw [map_cons, lyricsSystem.run_cons_of_step _ stepped, reached,
      linesFrom_cons lines next target within _ here]
    simp [synced, sendLine, setPoint, send]

/-- The steps of a monitor that finds the lock free carry out a whole call. -/
theorem run_syncLyrics (player : LyricsPlayer) (playback posMs : Nat) (lines : List LyricsLine)
    (fetched : player.lyricsData.bind LyricsData.lines = some lines)
    (free : player.lyricsLock = none) (known : -1 ≤ player.lastLyricIndex)
    (point : player.points playback = .syncing posMs) :
    ∃ acts : List SyncAct, lyricsSystem.run player (acts.map (.monitor playback)) =
      some (player.synced playback (syncLyrics lines player.lastLyricIndex posMs)) := by
  have stepped : lyricsSystem.step player (.monitor playback (.sync false)) =
      some (player.beginSync playback lines posMs) := by
    simp [lyricsSystem, step, stepMonitor, point, free, sync, fetched]
  have bound := (targetLine_bounds lines posMs).2
  generalize isTarget : targetLine lines posMs = target at bound
  by_cases same : target = player.lastLyricIndex
  · refine ⟨[.sync false], ?_⟩
    rw [map_cons, lyricsSystem.run_cons_of_step _ stepped]
    simp [System.run, beginSync, syncLyrics, isTarget, same, synced, setPoint, free]
  by_cases shown : 0 ≤ target
  · obtain ⟨next, within, begun, call⟩ : ∃ next : Nat, next ≤ target ∧
        player.beginSync playback lines posMs =
          { player with lyricsLock := some playback }.setPoint playback
            (.sending lines next target) ∧
        syncLyrics lines player.lastLyricIndex posMs = (linesFrom lines next target, target) := by
      by_cases ahead : player.lastLyricIndex < target
      · obtain ⟨next, isNext⟩ :=
          Int.eq_ofNat_of_zero_le (show 0 ≤ player.lastLyricIndex + 1 by omega)
        exact ⟨next, by omega, by simp [beginSync, isTarget, same, ahead, isNext],
          by simp [syncLyrics, isTarget, same, ahead, isNext]⟩
      · obtain ⟨next, isNext⟩ := Int.eq_ofNat_of_zero_le shown
        exact ⟨next, by omega, by simp [beginSync, isTarget, same, ahead, shown, ← isNext],
          by simp [syncLyrics, isTarget, same, ahead, shown, ← isNext]⟩
    obtain ⟨acts, reached⟩ := run_sending lines _ bound playback next within
      (player.beginSync playback lines posMs) (by simp [begun, setPoint])
    refine ⟨.sync false :: acts, ?_⟩
    rw [map_cons, lyricsSystem.run_cons_of_step _ stepped, reached, begun, call]
    simp [synced, setPoint]
  · have ahead : ¬ player.lastLyricIndex < target := by omega
    refine ⟨[.sync false, .storeIndex], ?_⟩
    rw [map_cons, lyricsSystem.run_cons_of_step _ stepped]
    simp [System.run, beginSync, syncLyrics, isTarget, same, ahead, shown, free, setPoint,
      lyricsSystem, step, stepMonitor, storeIndex, synced]

section Sorted

/-- How many lines have come at this position. -/
def reachedLines (posMs : Nat) : Nat := lines.countP fun line => decide (line.timestamp ≤ posMs)

theorem reachedLines_mono {posMs later : Nat} (le : posMs ≤ later) :
    reachedLines lines posMs ≤ reachedLines lines later := by
  refine countP_mono_left fun line _ reached => ?_
  exact decide_eq_true ((of_decide_eq_true reached).trans le)

variable (sorted : lines.Pairwise fun line later => line.timestamp ≤ later.timestamp)
include sorted

theorem filter_eq_take_reachedLines (posMs : Nat) :
    lines.filter (fun line => decide (line.timestamp ≤ posMs)) =
      lines.take (reachedLines lines posMs) := by
  induction lines with
  | nil => rfl
  | cons line rest ih =>
    obtain ⟨first, sorted⟩ := pairwise_cons.mp sorted
    unfold reachedLines
    by_cases reached : line.timestamp ≤ posMs
    · rw [filter_cons_of_pos (by simpa), countP_cons_of_pos (by simpa),
        take_succ_cons, ih sorted, reachedLines]
    · have ahead : ∀ other ∈ line :: rest, ¬ decide (other.timestamp ≤ posMs) = true := by
        intro other found
        rw [decide_eq_true_iff]
        obtain rfl | found := mem_cons.mp found
        · exact reached
        · exact fun come => reached ((first other found).trans come)
      rw [filter_eq_nil_iff.mpr ahead, countP_eq_zero.mpr ahead, take_zero]

theorem targetLine_eq (posMs : Nat) : targetLine lines posMs = reachedLines lines posMs - 1 := by
  induction lines using List.reverseRecOn with
  | nil => rfl
  | append_singleton rest line ih =>
    obtain ⟨sorted, -, last⟩ := pairwise_append.mp sorted
    have before := ih sorted
    unfold targetLine reachedLines at before ⊢
    rw [reverse_append, countP_append]
    by_cases reached : line.timestamp ≤ posMs
    · have all : rest.countP (fun line => decide (line.timestamp ≤ posMs)) = rest.length :=
        countP_eq_length.mpr fun other found =>
          decide_eq_true ((last other found line mem_cons_self).trans reached)
      simp [findIdx?_cons, reached, all]
    · simp only [reverse_singleton, singleton_append, findIdx?_cons, reached,
        decide_false, Bool.false_eq_true, if_false, countP_singleton, add_zero]
      rw [← before]
      cases rest.reverse.findIdx? fun line => decide (line.timestamp ≤ posMs) with
      | none => rfl
      | some fromEnd =>
        simp
        omega

/-- A call at a position at which no line is taken back. -/
theorem syncLyrics_eq (shown posMs : Nat) (le : shown ≤ reachedLines lines posMs) :
    syncLyrics lines (shown - 1) posMs =
      let target : Int := reachedLines lines posMs - 1
      (linesFrom lines shown target, target) := by
  unfold syncLyrics
  rw [targetLine_eq lines sorted]
  by_cases same : shown = reachedLines lines posMs
  · simp [same, linesFrom]
  · rw [if_neg (by omega), if_pos (by omega), sub_add_cancel]

/-- Induction over the calls; the lines before `shown` have been sent. -/
theorem syncCalls_sent (positions : List Nat) (ordered : positions.Pairwise (· ≤ ·))
    (shown : Nat) (ahead : ∀ posMs ∈ positions, shown ≤ reachedLines lines posMs) :
    (syncCalls lines (shown - 1) positions).flatten.map (fun event =>
        (event.line, event.lineIndex)) =
      ((lines.zipIdx.take ((positions.getLast?.map (reachedLines lines)).getD shown)).drop
        shown).map fun entry => (entry.1, (entry.2 : Int)) := by
  induction positions generalizing shown with
  | nil => simp [syncCalls]
  | cons posMs rest ih =>
    obtain ⟨first, ordered⟩ := pairwise_cons.mp ordered
    have le := ahead posMs mem_cons_self
    have later := ih ordered (reachedLines lines posMs) fun other found =>
      reachedLines_mono lines (first other found)
    have grown : reachedLines lines posMs ≤ reachedLines lines (rest.getLast?.getD posMs) := by
      refine reachedLines_mono lines ?_
      cases last : rest.getLast? with
      | none => exact le_rfl
      | some other => exact first other (List.mem_of_getLast? last)
    have split := take_append_drop (reachedLines lines posMs)
      (lines.zipIdx.take (reachedLines lines (rest.getLast?.getD posMs)))
    rw [take_take, min_eq_left grown] at split
    have within : shown ≤ (lines.zipIdx.take (reachedLines lines posMs)).length := by
      rw [length_take, length_zipIdx]
      exact le_min le (le.trans countP_le_length)
    rw [syncCalls, syncLyrics_eq lines sorted shown posMs le, flatten_cons, map_append,
      later, getLast?_cons, map_some, getD_some, Option.getD_map, ← split,
      drop_append_of_le_length within, map_append]
    congr 1
    · simp [linesFrom, Function.comp_def]
    · rw [split]

theorem lines_sent_once (positions : List Nat) (ordered : positions.Pairwise (· ≤ ·)) :
    ((syncCalls lines (-1) positions).flatten.map fun event => (event.line, event.lineIndex)) =
        (lines.filter fun line => positions.getLast?.any fun posMs =>
          decide (line.timestamp ≤ posMs)).zipIdx.map (fun entry => (entry.1, (entry.2 : Int))) ∧
      ∀ call ∈ syncCalls lines (-1) positions, SkipsAllButLast call := by
  refine ⟨?_, syncCalls_skips lines positions (-1)⟩
  have sent := syncCalls_sent lines sorted positions ordered 0 fun _ _ => Nat.zero_le _
  refine sent.trans ?_
  rw [drop_zero]
  cases positions.getLast? with
  | none => simp
  | some posMs =>
    simp only [map_some, getD_some, any_some]
    rw [filter_eq_take_reachedLines lines sorted]
    refine congrArg _ (List.ext_getElem? fun index => ?_)
    simp only [getElem?_take, getElem?_zipIdx]
    split <;> rfl

end Sorted

def threeLines : List LyricsLine := [⟨10, 10, "a"⟩, ⟨20, 0, "b"⟩, ⟨20, 0, "c"⟩]

def threeCalls : List (List LineEvent) := syncCalls threeLines (-1) [5, 10, 10, 25]

theorem three_lines_sent_once :
    threeCalls = [[], [⟨0, ⟨10, 10, "a"⟩, false⟩], [],
        [⟨1, ⟨20, 0, "b"⟩, true⟩, ⟨2, ⟨20, 0, "c"⟩, false⟩]] ∧
      threeCalls.flatten.map (fun event => (event.line, event.lineIndex)) =
        [(⟨10, 10, "a"⟩, 0), (⟨20, 0, "b"⟩, 1), (⟨20, 0, "c"⟩, 2)] ∧
      ∀ call ∈ threeCalls, SkipsAllButLast call := by
  have sent := lines_sent_once threeLines (by decide) [5, 10, 10, 25] (by decide)
  exact ⟨by decide, sent.1.trans (by decide), sent.2⟩

end KizunaLink.Player
