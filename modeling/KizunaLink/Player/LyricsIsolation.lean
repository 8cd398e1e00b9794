import KizunaLink.Player.Lyrics

/-!
# The lines of a track are its own

A line is sent from the lyrics that are stored and numbered from the last index, and
both are the player's.  They are those of the current track when it was launched
without either, and fetches and rounds of a track end with it: a fetch stores its
lyrics only while its track is the latest, and so does a monitor send its lines.
-/

set_option autoImplicit false

namespace KizunaLink.Player

open KizunaLink.Lib List Option Function

/-! ## Lines -/

variable {point : SyncPoint}

theorem targetLine_bounds (lines : List LyricsLine) (posMs : Nat) :
    -1 ≤ targetLine lines posMs ∧ targetLine lines posMs < lines.length := by
  unfold targetLine
  split
  · next fromEnd found =>
      have inside : fromEnd < lines.reverse.length :=
        (List.findIdx?_eq_some_iff_findIdx_eq.mp found).1
      rw [length_reverse] at inside
      omega
  · omega

/-- The lines are of lyrics that were fetched for the track. -/
def FetchedLines (fetched : List (Nat × LyricsData)) (playback : Nat)
    (lines : List LyricsLine) : Prop :=
  ∃ lyrics, (playback, lyrics) ∈ fetched ∧ lyrics.lines = some lines

def LineEvent.BelongsTo (event : LineEvent) (fetched : List (Nat × LyricsData))
    (playback : Nat) : Prop :=
  ∃ lines, FetchedLines fetched playback lines ∧ 0 ≤ event.lineIndex ∧
    lines[event.lineIndex.toNat]? = some event.line

theorem FetchedLines.append {fetched : List (Nat × LyricsData)} {playback : Nat}
    {lines : List LyricsLine} (own : FetchedLines fetched playback lines)
    (more : List (Nat × LyricsData)) : FetchedLines (fetched ++ more) playback lines := by
  obtain ⟨lyrics, member, has⟩ := own
  exact ⟨lyrics, mem_append_left more member, has⟩

def SyncPoint.Sound (fetched : List (Nat × LyricsData)) (playback : Nat) : SyncPoint → Prop
  | .sending lines next target =>
    FetchedLines fetched playback lines ∧ 0 ≤ next ∧ next ≤ target ∧ target < lines.length
  | .storing target => -1 ≤ target
  | .waiting | .testing _ | .syncing _ => True

theorem SyncPoint.Sound.append {fetched : List (Nat × LyricsData)} {playback : Nat}
    (sound : point.Sound fetched playback) (more : List (Nat × LyricsData)) :
    point.Sound (fetched ++ more) playback := by
  cases point with
  | sending lines next target => exact ⟨sound.1.append more, sound.2⟩
  | storing target => exact sound
  | waiting | testing _ | syncing _ => trivial

/-- What a round has come to when no line was sent since the launch. -/
def SyncPoint.Unsent : SyncPoint → Prop
  | .sending _ next _ => next = 0
  | .storing _ => False
  | .waiting | .testing _ | .syncing _ => True

/-- The round has not looked at the lyrics, or is through with them. -/
def SyncPoint.Idle : SyncPoint → Prop
  | .waiting | .testing _ | .syncing _ => True
  | .sending _ _ _ | .storing _ => False

theorem SyncPoint.Idle.sound (idle : point.Idle) (fetched : List (Nat × LyricsData))
    (playback : Nat) : point.Sound fetched playback := by
  cases point with
  | sending _ _ _ | storing _ => exact idle.elim
  | waiting | testing _ | syncing _ => trivial

theorem SyncPoint.Idle.unsent (idle : point.Idle) : point.Unsent := by
  cases point with
  | sending _ _ _ | storing _ => exact idle.elim
  | waiting | testing _ | syncing _ => trivial

namespace LyricsPlayer

def lineEvents (player : LyricsPlayer) : List LineEvent :=
  player.events.filterMap fun event =>
    match event with
    | .lyricsLine line => some line
    | .lyricsFound _ _ | .lyricsNotFound => none

/-- A track is launched without lyrics and with no line sent, and the lyrics are stored and
sent by the fetches and the monitor of the latest track only. -/
def Undisturbed (player : LyricsPlayer) : LyricsAct → Prop
  | .launch _ _ => player.lyricsData = none ∧ player.lastLyricIndex = -1
  | .fetch index .store =>
    ∀ fetch ∈ player.fetches[index]?, player.latest = some fetch.playback
  | .monitor playback (.sync _) | .monitor playback .sendLine | .monitor playback .storeIndex =>
    player.latest = some playback
  | .fetch _ .testSubscribed | .fetch _ .testLyrics | .fetch _ (.loaded _) | .fetch _ .sendFound
  | .monitor _ .testSubscribed | .track _ | .round _ _ _ | .subscribe | .resetIndex
  | .unsubscribe => True

instance (player : LyricsPlayer) : ∀ act, Decidable (player.Undisturbed act)
  | .launch _ _ =>
    inferInstanceAs (Decidable (player.lyricsData = none ∧ player.lastLyricIndex = -1))
  | .fetch index .store =>
    inferInstanceAs
      (Decidable (∀ fetch ∈ player.fetches[index]?, player.latest = some fetch.playback))
  | .monitor playback (.sync _) | .monitor playback .sendLine | .monitor playback .storeIndex =>
    inferInstanceAs (Decidable (player.latest = some playback))
  | .fetch _ .testSubscribed | .fetch _ .testLyrics | .fetch _ (.loaded _) | .fetch _ .sendFound
  | .monitor _ .testSubscribed | .track _ | .round _ _ _ | .subscribe | .resetIndex
  | .unsubscribe => isTrue trivial

structure Isolated (player : LyricsPlayer) : Prop where
  stored : ∀ lyrics, player.lyricsData = some lyrics →
    ∃ playback, player.latest = some playback ∧ (playback, lyrics) ∈ player.fetched
  loads : ∀ fetch ∈ player.fetches, ∀ lyrics, fetch.point = .storing lyrics →
    (fetch.playback, lyrics) ∈ player.fetched
  index : -1 ≤ player.lastLyricIndex
  syncs : ∀ playback, (player.points playback).Sound player.fetched playback
  lines : ∀ event ∈ player.lineEvents,
    ∃ playback, player.latest = some playback ∧ event.BelongsTo player.fetched playback
  first : ∀ event ∈ player.lineEvents.head?, event.lineIndex = 0
  unsent : player.lineEvents = [] → player.lastLyricIndex = -1 ∧
    ∀ playback, player.latest = some playback → (player.points playback).Unsent

theorem isolated_new : Isolated {} where
  stored _ none := by cases none
  loads _ member := by cases member
  index := by decide
  syncs _ := trivial
  lines _ member := by cases member
  first _ member := by cases member
  unsent _ := ⟨rfl, fun _ none => by cases none⟩

variable {player : LyricsPlayer}

theorem lineEvents_send (event : LyricsEvent) (silent : ∀ line, event ≠ .lyricsLine line) :
    (player.send event).lineEvents = player.lineEvents := by
  cases event with
  | lyricsLine line => exact absurd rfl (silent line)
  | lyricsFound _ _ | lyricsNotFound => simp [lineEvents, send]

theorem lineEvents_sendLine (event : LineEvent) :
    (player.send (.lyricsLine event)).lineEvents = player.lineEvents ++ [event] := by
  simp [lineEvents, send]

namespace Isolated

variable {fetch : LyricsFetch} {next : LyricsPlayer} {playback : Nat}

section

variable (isolated : player.Isolated)
include isolated

theorem setControl (tracks : PlayerTracks)
    (subscribed subscribing : Bool) (lyricsLock : Option Nat) :
    { player with tracks, subscribed, subscribing, lyricsLock }.Isolated :=
  { isolated with }

theorem sendSilent {event : LyricsEvent}
    (silent : ∀ line, event ≠ .lyricsLine line) : (player.send event).Isolated where
  __ := isolated
  lines := by
    rw [lineEvents_send event silent]
    exact isolated.lines
  first := by
    rw [lineEvents_send event silent]
    exact isolated.first
  unsent := by
    rw [lineEvents_send event silent]
    exact isolated.unsent

/-- A fetch that is to store was there before. -/
theorem setFetches {fetches : List LyricsFetch} (loads : ∀ fetch ∈ fetches,
    fetch ∈ player.fetches ∨ ∀ lyrics, fetch.point ≠ .storing lyrics) :
    { player with fetches }.Isolated where
  __ := isolated
  loads fetch member lyrics point := by
    rcases loads fetch member with before | idle
    · exact isolated.loads fetch before lyrics point
    · exact absurd point (idle lyrics)

theorem setFetch (index : Nat)
    (idle : ∀ lyrics, fetch.point ≠ .storing lyrics) : (player.setFetch index fetch).Isolated := by
  refine isolated.setFetches fun other member => ?_
  rcases mem_or_eq_of_mem_set member with before | rfl
  · exact .inl before
  · exact .inr idle

theorem endFetch (index : Nat) : (player.endFetch index).Isolated :=
  isolated.setFetches fun _ member => .inl (mem_of_mem_eraseIdx member)

theorem spawnFetch (playback : Nat) {point : FetchPoint}
    (idle : ∀ lyrics, point ≠ .storing lyrics) : (player.spawnFetch playback point).Isolated := by
  refine isolated.setFetches fun other member => ?_
  rcases mem_append.mp member with before | new
  · exact .inl before
  · cases mem_singleton.mp new
    exact .inr idle

theorem loaded (index : Nat) (fetch : LyricsFetch)
    (result : Option LyricsData) : (player.loaded index fetch result).Isolated := by
  cases result with
  | none => exact (isolated.endFetch index).sendSilent fun _ same => by cases same
  | some lyrics =>
    refine ⟨fun other found => ?_, fun other member found point => ?_, isolated.index,
      fun playback => (isolated.syncs playback).append _, fun event member => ?_,
      isolated.first, isolated.unsent⟩
    · obtain ⟨playback, latest, before⟩ := isolated.stored other found
      exact ⟨playback, latest, mem_append_left _ before⟩
    · rcases mem_or_eq_of_mem_set member with before | rfl
      · exact mem_append_left _ (isolated.loads other before found point)
      · cases point
        exact mem_append_right _ (mem_singleton.mpr rfl)
    · obtain ⟨playback, latest, lines, own, line⟩ := isolated.lines event member
      exact ⟨playback, latest, lines, own.append _, line⟩

theorem store {index : Nat} {lyrics : LyricsData}
    (member : fetch ∈ player.fetches) (point : fetch.point = .storing lyrics)
    (latest : player.latest = some fetch.playback) :
    { player.setFetch index { fetch with point := .sending lyrics } with
      lyricsData := some lyrics }.Isolated := by
  have moved : (player.setFetch index { fetch with point := .sending lyrics }).Isolated :=
    isolated.setFetch index fun _ same => by cases same
  refine { moved with stored := fun other found => ?_ }
  cases found
  exact ⟨fetch.playback, latest, isolated.loads fetch member lyrics point⟩

theorem stepFetch {index : Nat} {act : FetchAct} (found : player.fetches[index]? = some fetch)
    (undisturbed : player.Undisturbed (.fetch index act))
    (stepped : player.stepFetch index fetch act = some next) : next.Isolated := by
  cases act with
  | testSubscribed =>
    simp only [LyricsPlayer.stepFetch] at stepped
    split at stepped
    · cases stepped
      split
      · exact isolated.setFetch index fun _ same => by cases same
      · exact isolated.endFetch index
    all_goals cases stepped
  | testLyrics =>
    simp only [LyricsPlayer.stepFetch] at stepped
    split at stepped
    · cases stepped
      split
      · exact isolated.endFetch index
      · exact isolated.setFetch index fun _ same => by cases same
    all_goals cases stepped
  | loaded result =>
    simp only [LyricsPlayer.stepFetch] at stepped
    split at stepped
    · cases stepped
      exact isolated.loaded index fetch result
    all_goals cases stepped
  | store =>
    simp only [LyricsPlayer.stepFetch] at stepped
    split at stepped
    · next lyrics point free =>
        cases stepped
        exact isolated.store (List.mem_of_getElem? found) point (undisturbed fetch found)
    all_goals cases stepped
  | sendFound =>
    simp only [LyricsPlayer.stepFetch] at stepped
    split at stepped
    · cases stepped
      exact (isolated.endFetch index).sendSilent fun _ same => by cases same
    all_goals cases stepped

theorem setPoint {point : SyncPoint}
    (sound : point.Sound player.fetched playback) (unsent : player.lineEvents = [] → point.Unsent) :
    (player.setPoint playback point).Isolated := by
  refine { isolated with
    syncs := fun other => ?_
    unsent := fun none => ⟨(isolated.unsent none).1, fun other latest => ?_⟩ }
  · by_cases same : other = playback
    · subst same
      simp only [LyricsPlayer.setPoint, update_self]
      exact sound
    · simp only [LyricsPlayer.setPoint, update_of_ne same]
      exact isolated.syncs other
  · by_cases same : other = playback
    · subst same
      simp only [LyricsPlayer.setPoint, update_self]
      exact unsent none
    · simp only [LyricsPlayer.setPoint, update_of_ne same]
      exact (isolated.unsent none).2 other latest

theorem setIdle (playback : Nat) {point : SyncPoint}
    (idle : point.Idle) : (player.setPoint playback point).Isolated :=
  isolated.setPoint (idle.sound player.fetched playback) fun _ => idle.unsent

theorem beginSync {lines : List LyricsLine}
    (own : FetchedLines player.fetched playback lines) (posMs : Nat) :
    (player.beginSync playback lines posMs).Isolated := by
  obtain ⟨low, high⟩ := targetLine_bounds lines posMs
  have index := isolated.index
  have locked : { player with lyricsLock := some playback }.Isolated :=
    isolated.setControl _ _ _ _
  unfold LyricsPlayer.beginSync
  dsimp only
  split
  · exact isolated.setIdle playback trivial
  · next different =>
      split
      · next ahead =>
          refine locked.setPoint ⟨own, by omega, by omega, high⟩ fun none => ?_
          have start := (isolated.unsent none).1
          show player.lastLyricIndex + 1 = 0
          omega
      · next behind =>
          -- the index is past the target, so a line was sent
          have sent : player.lineEvents ≠ [] := by
            intro none
            have start := (isolated.unsent none).1
            omega
          split
          · next positive =>
              exact locked.setPoint ⟨own, positive, Int.le_refl _, high⟩ fun none =>
                absurd none sent
          · exact locked.setPoint low fun none => absurd none sent

section

variable (latest : player.latest = some playback)
include latest

theorem sync (posMs : Nat) : (player.sync playback posMs).Isolated := by
  unfold LyricsPlayer.sync
  split
  · exact isolated.setIdle playback trivial
  · next lines found =>
      obtain ⟨lyrics, stored, has⟩ := bind_eq_some_iff.mp found
      obtain ⟨owner, isLatest, member⟩ := isolated.stored lyrics stored
      cases Option.some.inj (latest.symm.trans isLatest)
      exact isolated.beginSync ⟨lyrics, member, has⟩ posMs

theorem sendLine {lines : List LyricsLine} {next target : Int}
    {line : LyricsLine} (point : player.points playback = .sending lines next target)
    (found : lines[next.toNat]? = some line) :
    (player.sendLine playback lines next target line).Isolated := by
  have sound := isolated.syncs playback
  rw [point] at sound
  obtain ⟨own, low, within, high⟩ := sound
  let event : LineEvent := ⟨next, line, decide (next ≠ target)⟩
  have logged : (player.send (.lyricsLine event)).lineEvents = player.lineEvents ++ [event] :=
    lineEvents_sendLine event
  have sent : (player.send (.lyricsLine event)).lineEvents ≠ [] := by
    rw [logged]
    exact append_ne_nil_of_right_ne_nil _ (cons_ne_nil _ _)
  have grown : (player.send (.lyricsLine event)).Isolated := by
    refine { isolated with lines := ?_, first := ?_, unsent := fun none => absurd none sent }
    · rw [logged]
      intro other member
      rcases mem_append.mp member with before | new
      · exact isolated.lines other before
      · cases mem_singleton.mp new
        exact ⟨playback, latest, lines, own, low, found⟩
    · rw [logged]
      intro other head
      cases before : player.lineEvents with
      | nil =>
        rw [before] at head
        cases head
        have start := (isolated.unsent before).2 playback latest
        rw [point] at start
        exact start
      | cons oldest rest =>
        refine isolated.first other ?_
        rw [before] at head ⊢
        exact head
  unfold LyricsPlayer.sendLine
  refine grown.setPoint ?_ fun none => absurd none sent
  split
  · show -1 ≤ target
    omega
  · exact ⟨own, by omega, by omega, high⟩

theorem storeIndex {target : Int} (point : player.points playback = .storing target) :
    (player.storeIndex playback target).Isolated := by
  have idle : (player.setPoint playback .waiting).Isolated := isolated.setIdle playback trivial
  have low : -1 ≤ target := by
    have sound := isolated.syncs playback
    rw [point] at sound
    exact sound
  refine { idle with index := low, unsent := fun none => ?_ }
  have start := (isolated.unsent none).2 playback latest
  rw [point] at start
  exact start.elim

end

theorem stepMonitor {act : SyncAct} (undisturbed : player.Undisturbed (.monitor playback act))
    (stepped : player.stepMonitor playback act = some next) : next.Isolated := by
  cases act with
  | testSubscribed =>
    simp only [LyricsPlayer.stepMonitor] at stepped
    split at stepped
    · cases stepped
      refine isolated.setIdle playback ?_
      split <;> trivial
    all_goals cases stepped
  | sync contended =>
    simp only [LyricsPlayer.stepMonitor] at stepped
    split at stepped
    · next posMs point =>
        split at stepped
        · cases stepped
          exact isolated.setIdle playback trivial
        · obtain ⟨-, moved⟩ := ite_none_right_eq_some.mp stepped
          cases moved
          exact isolated.sync undisturbed posMs
    all_goals cases stepped
  | sendLine =>
    simp only [LyricsPlayer.stepMonitor] at stepped
    split at stepped
    · next lines index target point =>
        obtain ⟨line, found, rfl⟩ := map_eq_some_iff.mp stepped
        exact isolated.sendLine undisturbed point found
    all_goals cases stepped
  | storeIndex =>
    simp only [LyricsPlayer.stepMonitor] at stepped
    split at stepped
    · next target point =>
        cases stepped
        exact isolated.storeIndex undisturbed point
    all_goals cases stepped

theorem launch (clean : player.lyricsData = none)
    (start : player.lastLyricIndex = -1) (tracks : PlayerTracks) (playback : Nat)
    (sourceName : String) : (player.launch tracks playback sourceName).Isolated := by
  have idle : (player.setPoint playback .waiting).Isolated := isolated.setIdle playback trivial
  refine ⟨fun lyrics stored => ?_, fun fetch member lyrics point => ?_, isolated.index,
    idle.syncs, fun event member => (by cases member), fun event member => (by cases member),
    fun _ => ⟨start, fun other latest => ?_⟩⟩
  · have nothing : none = some lyrics := clean.symm.trans stored
    cases nothing
  · rcases mem_append.mp member with before | new
    · exact isolated.loads fetch before lyrics point
    · cases mem_singleton.mp new
      cases point
  · cases latest
    simp only [LyricsPlayer.launch, update_self]
    trivial

theorem resetIndex : player.resetIndex.Isolated := by
  have reset : { player with subscribing := false, lastLyricIndex := -1 }.Isolated :=
    { isolated with index := Int.le_refl _, unsent := fun none => ⟨rfl, (isolated.unsent none).2⟩ }
  unfold LyricsPlayer.resetIndex
  dsimp only
  split
  · exact reset
  · next playback _ => exact reset.spawnFetch playback fun _ same => by cases same

theorem step {act : LyricsAct} (undisturbed : player.Undisturbed act)
    (stepped : player.step act = some next) : next.Isolated := by
  cases act with
  | track act =>
    obtain ⟨tracks, -, rfl⟩ := map_eq_some_iff.mp stepped
    exact isolated.setControl _ _ _ _
  | launch playback sourceName =>
    obtain ⟨tracks, -, rfl⟩ := map_eq_some_iff.mp stepped
    exact isolated.launch undisturbed.1 undisturbed.2 tracks playback sourceName
  | round playback posMs stuck =>
    obtain ⟨-, moved⟩ := ite_none_right_eq_some.mp stepped
    obtain ⟨tracks, -, rfl⟩ := map_eq_some_iff.mp moved
    have testing : (player.setPoint playback (.testing posMs)).Isolated :=
      isolated.setIdle playback trivial
    exact testing.setControl _ _ _ _
  | subscribe | unsubscribe =>
    obtain ⟨-, moved⟩ := ite_none_right_eq_some.mp stepped
    cases moved
    exact isolated.setControl _ _ _ _
  | resetIndex =>
    obtain ⟨-, moved⟩ := ite_none_right_eq_some.mp stepped
    cases moved
    exact isolated.resetIndex
  | fetch index act =>
    obtain ⟨fetch, found, moved⟩ := bind_eq_some_iff.mp stepped
    exact isolated.stepFetch found undisturbed moved
  | monitor playback act => exact isolated.stepMonitor undisturbed stepped

end

end Isolated

end LyricsPlayer

theorem lines_isolated (acts : List LyricsAct) (final : LyricsPlayer)
    (meets : lyricsSystem.Meets LyricsPlayer.Undisturbed {} acts)
    (reached : lyricsSystem.run {} acts = some final) :
    (∀ event ∈ final.lineEvents, ∃ playback lyrics lines,
      final.latest = some playback ∧ (playback, lyrics) ∈ final.fetched ∧
      lyrics.lines = some lines ∧ 0 ≤ event.lineIndex ∧
      lines[event.lineIndex.toNat]? = some event.line) ∧
    ∀ event ∈ final.lineEvents.head?, event.lineIndex = 0 := by
  have isolated : final.Isolated :=
    lyricsSystem.run_invariant LyricsPlayer.Undisturbed LyricsPlayer.Isolated
      (fun isolated => isolated.step) acts LyricsPlayer.isolated_new meets reached
  refine ⟨fun event member => ?_, isolated.first⟩
  obtain ⟨playback, latest, lines, ⟨lyrics, fetched, has⟩, low, line⟩ :=
    isolated.lines event member
  exact ⟨playback, lyrics, lines, latest, fetched, has, low, line⟩

def song : LyricsData :=
  { provider := "", text := "", lines := some [⟨0, 1000, "one"⟩, ⟨1000, 1000, "two"⟩] }

def playSubscribed : List LyricsAct :=
  [.subscribe, .resetIndex, .track (.request (.play true false)), .track (.acquire 0),
    .launch 0 "source"]

def findSong : List LyricsAct :=
  [.fetch 0 .testSubscribed, .fetch 0 (.loaded (some song)), .fetch 0 .store, .fetch 0 .sendFound]

def syncFor (playback posMs : Nat) : List LyricsAct :=
  [.round playback posMs false, .monitor playback .testSubscribed,
    .monitor playback (.sync false), .monitor playback .sendLine]

def replaceTrack : List LyricsAct :=
  [.track (.request (.play true false)), .track (.acquire 0), .track (.proceed true),
    .launch 1 "source"]

/-- The first track has no lyrics, and is replaced by one that has. -/
def bothLines : List LyricsAct :=
  playSubscribed ++ [.fetch 0 .testSubscribed, .fetch 0 (.loaded none)] ++ replaceTrack ++
    findSong ++ syncFor 1 1500 ++ [.monitor 1 .sendLine, .monitor 1 .storeIndex]

theorem both_lines_are_own :
    ∃ final, lyricsSystem.run {} bothLines = some final ∧ final.latest = some 1 ∧
      final.lineEvents = [⟨0, ⟨0, 1000, "one"⟩, true⟩, ⟨1, ⟨1000, 1000, "two"⟩, false⟩] ∧
      ∀ event ∈ final.lineEvents, ∃ playback lyrics lines,
        final.latest = some playback ∧ (playback, lyrics) ∈ final.fetched ∧
        lyrics.lines = some lines ∧ 0 ≤ event.lineIndex ∧
        lines[event.lineIndex.toNat]? = some event.line := by
  have outcome : (lyricsSystem.run {} bothLines).map
      (fun final => (final.latest, final.lineEvents)) =
      some (some 1, [⟨0, ⟨0, 1000, "one"⟩, true⟩, ⟨1, ⟨1000, 1000, "two"⟩, false⟩]) := by
    decide +kernel
  obtain ⟨final, reached, shown⟩ := map_eq_some_iff.mp outcome
  obtain ⟨latest, sent⟩ := Prod.mk.inj shown
  exact ⟨final, reached, latest, sent,
    (lines_isolated bothLines final (by decide +kernel) reached).1⟩

/-- The first track is replaced before its monitor has looked at the lyrics; those of the
second are not found, and its monitor looks. -/
def replacedSong : List LyricsAct :=
  playSubscribed ++ findSong ++ replaceTrack ++
    [.fetch 0 .testSubscribed, .fetch 0 (.loaded none)] ++ syncFor 1 0

theorem line_of_replaced_track :
    ∃ final, lyricsSystem.run {} replacedSong = some final ∧ final.latest = some 1 ∧
      final.lineEvents = [⟨0, ⟨0, 1000, "one"⟩, false⟩] ∧ final.fetched = [(0, song)] := by
  have outcome : (lyricsSystem.run {} replacedSong).map
      (fun final => (final.latest, final.lineEvents, final.fetched)) =
      some (some 1, [⟨0, ⟨0, 1000, "one"⟩, false⟩], [(0, song)]) := by decide +kernel
  obtain ⟨final, reached, shown⟩ := map_eq_some_iff.mp outcome
  obtain ⟨latest, rest⟩ := Prod.mk.inj shown
  obtain ⟨sent, fetched⟩ := Prod.mk.inj rest
  exact ⟨final, reached, latest, sent, fetched⟩

end KizunaLink.Player
