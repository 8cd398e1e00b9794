import KizunaLink.Codec.Track
import KizunaLink.Lib.Shared
import KizunaLink.Player.Playback
import Mathlib.Data.List.Sort

/-!
# SponsorBlock segments of a player

Model of lavalink/sponsorblock.rs and of discord/player/manager/sponsorblock.rs:
`load_segments` is a task that `start_playback` spawns for a track, `check_for_skip`
the end of a round of the track's monitor.  Both work on the one `SponsorBlockState`
of the player, which no start of a track resets, and a loader goes on when its track
is replaced.  An aborted monitor may finish the round it is in.

Each access to the state is a step.  A segment has its times as `start_ms` and
`end_ms` round them; `loaded_once` is never read and left out.
-/

set_option autoImplicit false

namespace KizunaLink.Player

open KizunaLink.Codec (TrackInfo)
open KizunaLink.Lib List Option

structure Segment where
  startMs : Nat
  endMs : Nat
  category : String
  deriving DecidableEq, Repr

structure SponsorBlockConfig where
  enabled : Bool
  categories : List String

def filterSegments (segments : List Segment) (categories : List String)
    (durationMs : Option Nat) : List Segment :=
  let out := segments.filter fun s => categories.contains s.category
  let out := out.filter fun s => decide (s.startMs < s.endMs)
  let out := out.filter fun s => durationMs.all fun d => decide (s.startMs < d)
  out.insertionSort fun s o => s.startMs ≤ o.startMs

def Segment.covers (s : Segment) (posMs : Nat) : Bool :=
  decide (s.startMs ≤ posMs) && decide (posMs < s.endMs)

/-- How a segment extends a span that ends here. -/
def extendSpan (spanEnd : Nat) (o : Segment) : Nat :=
  if o.startMs ≤ spanEnd ∧ spanEnd < o.endMs then o.endMs else spanEnd

/-- The end of the span of segments that begins with the first one at this position. -/
def skipPositionIfInSegment (segments : List Segment) (posMs : Nat) : Option Nat :=
  (segments.find? fun s => s.covers posMs).map fun s => segments.foldl extendSpan s.endMs

theorem Segment.covers_iff (s : Segment) (posMs : Nat) :
    s.covers posMs ↔ s.startMs ≤ posMs ∧ posMs < s.endMs := by
  simp [Segment.covers]

section

variable (segments : List Segment)

theorem skipPositionIfInSegment_eq_some (posMs target : Nat) :
    skipPositionIfInSegment segments posMs = some target ↔
      ∃ s, segments.find? (fun s => s.covers posMs) = some s ∧
        segments.foldl extendSpan s.endMs = target :=
  map_eq_some_iff

theorem le_foldl_extendSpan (spanEnd : Nat) : spanEnd ≤ segments.foldl extendSpan spanEnd := by
  induction segments generalizing spanEnd with
  | nil => exact le_rfl
  | cons o rest ih =>
    refine le_trans ?_ (ih _)
    unfold extendSpan
    split <;> omega

/-- The span grows over milliseconds of segments only. -/
theorem foldl_extendSpan_covered (spanEnd ms : Nat) (beyond : spanEnd ≤ ms)
    (inside : ms < segments.foldl extendSpan spanEnd) : ∃ s ∈ segments, s.covers ms := by
  induction segments generalizing spanEnd with
  | nil => exact absurd (lt_of_le_of_lt beyond inside) (lt_irrefl _)
  | cons o rest ih =>
    by_cases here : o.covers ms
    · exact ⟨o, mem_cons_self, here⟩
    · rw [Segment.covers_iff] at here
      have past : extendSpan spanEnd o ≤ ms := by
        unfold extendSpan
        split <;> omega
      obtain ⟨s, found, covers⟩ := ih (extendSpan spanEnd o) past inside
      exact ⟨s, mem_cons_of_mem o found, covers⟩

theorem foldl_extendSpan_of_behind (spanEnd : Nat) (behind : ∀ s ∈ segments, spanEnd < s.startMs) :
    segments.foldl extendSpan spanEnd = spanEnd := by
  induction segments with
  | nil => rfl
  | cons o rest ih =>
    have apart : extendSpan spanEnd o = spanEnd :=
      if_neg fun joined => absurd joined.1 (behind o mem_cons_self).not_ge
    rw [foldl_cons, apart]
    exact ih fun s found => behind s (mem_cons_of_mem o found)

/-- One pass is enough over segments in the order of their starts: once one of them begins
behind the span, so do all that follow. -/
theorem foldl_extendSpan_not_covered (spanEnd : Nat)
    (sorted : segments.Pairwise fun s o => s.startMs ≤ o.startMs) :
    ∀ s ∈ segments, ¬ s.covers (segments.foldl extendSpan spanEnd) := by
  induction segments generalizing spanEnd with
  | nil => simp
  | cons o rest ih =>
    obtain ⟨first, sorted⟩ := pairwise_cons.mp sorted
    intro s found
    rw [foldl_cons]
    obtain rfl | found := mem_cons.mp found
    · rw [Segment.covers_iff]
      by_cases reached : s.startMs ≤ spanEnd
      · have swallowed : s.endMs ≤ extendSpan spanEnd s := by
          unfold extendSpan
          split <;> omega
        have grown := le_foldl_extendSpan rest (extendSpan spanEnd s)
        omega
      · have apart : extendSpan spanEnd s = spanEnd := if_neg fun joined => reached joined.1
        rw [apart, foldl_extendSpan_of_behind rest spanEnd fun o found =>
          (not_le.mp reached).trans_le (first o found)]
        exact fun covers => reached covers.1
    · exact ih _ sorted s found

theorem filterSegments_sorted (categories : List String) (durationMs : Option Nat) :
    (filterSegments segments categories durationMs).Pairwise fun s o =>
      s.startMs ≤ o.startMs :=
  haveI : IsTrans Segment fun s o => s.startMs ≤ o.startMs := ⟨fun _ _ _ => le_trans⟩
  haveI : Std.Total fun s o : Segment => s.startMs ≤ o.startMs := ⟨fun _ _ => le_total _ _⟩
  pairwise_insertionSort _ _

end

theorem skip_to_end_of_span (segments : List Segment) (categories : List String)
    (durationMs : Option Nat) (posMs : Nat) :
    let kept := filterSegments segments categories durationMs
    ((skipPositionIfInSegment kept posMs).isSome ↔ ∃ s ∈ kept, s.covers posMs) ∧
      ∀ target, skipPositionIfInSegment kept posMs = some target →
        posMs < target ∧
        (∀ ms, posMs ≤ ms → ms < target → ∃ s ∈ kept, s.covers ms) ∧
        ∀ s ∈ kept, ¬ s.covers target := by
  intro kept
  refine ⟨?_, ?_⟩
  · rw [skipPositionIfInSegment, isSome_map, List.find?_isSome]
  · intro target skipped
    obtain ⟨s, found, rfl⟩ := (skipPositionIfInSegment_eq_some kept posMs target).mp skipped
    have covers : s.startMs ≤ posMs ∧ posMs < s.endMs := by
      simpa [Segment.covers] using List.find?_some found
    refine ⟨covers.2.trans_le (le_foldl_extendSpan kept s.endMs), ?_, ?_⟩
    · intro ms after before
      by_cases first : ms < s.endMs
      · exact ⟨s, List.mem_of_find?_eq_some found,
          (s.covers_iff ms).mpr ⟨covers.1.trans after, first⟩⟩
      · exact foldl_extendSpan_covered kept s.endMs ms (not_lt.mp first) before
    · exact foldl_extendSpan_not_covered kept s.endMs
        (filterSegments_sorted segments categories durationMs)

/-- What stands after the first occurrence of the marker. -/
def afterMarker (marker : List Char) : List Char → Option (List Char)
  | [] => none
  | c :: rest =>
    if marker.isPrefixOf (c :: rest) then some ((c :: rest).drop marker.length)
    else afterMarker marker rest

def isVideoId (id : List Char) : Bool :=
  id.length == 11 && id.all fun c => c.isAlphanum || c == '-' || c == '_'

def endsVideoId (c : Char) : Bool := c == '&' || c == '/' || c == '?' || c == '#'

def videoIdAfter (text : List Char) (marker : String) : Option (List Char) :=
  (afterMarker marker.toList text).bind fun rest =>
    let id := rest.takeWhile fun c => !endsVideoId c
    if isVideoId id then some id else none

def extractYoutubeVideoId (info : TrackInfo) : Option (List Char) :=
  (info.uri.toList ++ [info.identifier]).findSome? fun s =>
    ["v=", "youtu.be/", "youtube.com/shorts/", "youtube.com/embed/"].findSome?
      (videoIdAfter s.toList)

/-! ## Tasks -/

structure SponsorBlockState where
  segments : List Segment := []
  lastSkipMs : Nat := 0
  deriving DecidableEq, Repr

inductive Loader where
  | absent
  | fetching (info : TrackInfo)
  | storing (segments : List Segment)
  | sending (segments : List Segment)

/-- Where the `check_for_skip` of a round stands. -/
inductive SkipPoint where
  | waiting
  | reading (posMs : Nat)
  | loading (posMs : Nat) (segments : List Segment)
  | storing (posMs : Nat) (segments : List Segment) (targetMs : Nat)

inductive SponsorEvent where
  | segmentsLoaded (segments : List Segment)
  | segmentSkipped (segment : Segment)
  deriving DecidableEq, Repr

/-- The loader and the monitor of one track.  `decisions` are the positions the monitor has
checked, with where it is to seek. -/
structure SponsorTask where
  loader : Loader := .absent
  check : SkipPoint := .waiting
  decisions : List (Nat × Option Nat) := []
  sent : List SponsorEvent := []

inductive SponsorInner where
  | launch (info : TrackInfo)
  | fetched (result : Option (List Segment))
  | sendLoaded
  | round (posMs : Nat) (playing : Bool)
  deriving DecidableEq

inductive SponsorOuter where
  | storeSegments
  | readSegments
  | loadSkip
  | storeSkip
  deriving DecidableEq

namespace SponsorTask

variable (task : SponsorTask)

def launch (config : SponsorBlockConfig) (info : TrackInfo) : SponsorTask :=
  if config.enabled && (extractYoutubeVideoId info).isSome then
    { task with loader := .fetching info }
  else task

/-- A failed request leaves the segments as they are. -/
def fetched (config : SponsorBlockConfig) (info : TrackInfo)
    (result : Option (List Segment)) : SponsorTask :=
  match result with
  | none => { task with loader := .absent }
  | some segments =>
    let durationMs := if 0 < info.length then some info.length.toNat else none
    { task with loader := .storing (filterSegments segments config.categories durationMs) }

def loadSkip (posMs : Nat) (segments : List Segment) (lastSkipMs : Nat) : SponsorTask :=
  -- the position may be that of before the last seek
  let target :=
    if posMs < lastSkipMs - 50 then none else skipPositionIfInSegment segments posMs
  { task with
    check := target.elim .waiting fun targetMs => .storing posMs segments targetMs
    decisions := task.decisions ++ [(posMs, target)] }

def sendSkipped (posMs : Nat) (segments : List Segment) : SponsorTask :=
  { task with
    check := .waiting
    sent := task.sent ++
      ((segments.find? fun s => s.covers posMs).map SponsorEvent.segmentSkipped).toList }

def inner (config : SponsorBlockConfig) : SponsorInner → Option SponsorTask
  | .launch info => some (task.launch config info)
  | .fetched result =>
    match task.loader with
    | .fetching info => some (task.fetched config info result)
    | .absent | .storing _ | .sending _ => none
  | .sendLoaded =>
    match task.loader with
    | .sending segments =>
      some { task with
        loader := .absent
        sent := task.sent ++ [.segmentsLoaded segments] }
    | .absent | .fetching _ | .storing _ => none
  | .round posMs playing =>
    match task.check with
    | .waiting =>
      some (if config.enabled && playing then { task with check := .reading posMs } else task)
    | .reading _ | .loading _ _ | .storing _ _ _ => none

def outer (state : SponsorBlockState) : SponsorOuter → Option (SponsorTask × SponsorBlockState)
  | .storeSegments =>
    match task.loader with
    | .storing segments =>
      some ({ task with loader := .sending segments }, { state with segments })
    | .absent | .fetching _ | .sending _ => none
  | .readSegments =>
    match task.check with
    | .reading posMs => some ({ task with check := .loading posMs state.segments }, state)
    | .waiting | .loading _ _ | .storing _ _ _ => none
  | .loadSkip =>
    match task.check with
    | .loading posMs segments => some (task.loadSkip posMs segments state.lastSkipMs, state)
    | .waiting | .reading _ | .storing _ _ _ => none
  | .storeSkip =>
    match task.check with
    | .storing posMs segments targetMs =>
      some (task.sendSkipped posMs segments, { state with lastSkipMs := targetMs })
    | .waiting | .reading _ | .loading _ _ => none

end SponsorTask

def sponsorRoutine (config : SponsorBlockConfig) :
    Routine SponsorTask SponsorBlockState SponsorInner SponsorOuter where
  idle := {}
  clean := {}
  inner task act := task.inner config act
  outer task state act := task.outer state act

/-- A track goes by the number of its start. -/
inductive SponsorAct where
  | track (act : TrackAct)
  | launch (playback : Nat) (info : TrackInfo)
  | round (playback posMs : Nat) (playing stuck : Bool)
  | fetched (playback : Nat) (result : Option (List Segment))
  | sendLoaded (playback : Nat)
  | access (playback : Nat) (act : SponsorOuter)

namespace SponsorAct

def part : SponsorAct → Option TrackPart
  | .track act => some (.rest act)
  | .launch playback _ => some (.launch playback)
  | .round playback _ _ stuck => some (.round playback stuck)
  | .fetched _ _ | .sendLoaded _ | .access _ _ => none

def task : SponsorAct → Option (Nat × RoutineAct SponsorInner SponsorOuter)
  | .track _ => none
  | .launch playback info => some (playback, .start (.launch info))
  | .round playback posMs playing _ => some (playback, .inner (.round posMs playing))
  | .fetched playback result => some (playback, .inner (.fetched result))
  | .sendLoaded playback => some (playback, .inner .sendLoaded)
  | .access playback act => some (playback, .outer act)

/-- Only a playing track is found stuck. -/
def wellFormed : SponsorAct → Bool
  | .round _ _ playing stuck => playing || !stuck
  | .track _ | .launch _ _ | .fetched _ _ | .sendLoaded _ | .access _ _ => true

end SponsorAct

structure SponsorPlayer where
  tracks : PlayerTracks := {}
  sharing : Sharing SponsorTask SponsorBlockState

def SponsorPlayer.new (config : SponsorBlockConfig) : SponsorPlayer :=
  { sharing := (sponsorRoutine config).initial }

def SponsorPlayer.decisions (player : SponsorPlayer) (playback : Nat) : List (Nat × Option Nat) :=
  (player.sharing.tasks playback).decisions

def stepTracks (tracks : PlayerTracks) : Option TrackPart → Option PlayerTracks
  | none => some tracks
  | some part => tracks.stepPart part

def SponsorPlayer.step (config : SponsorBlockConfig) (player : SponsorPlayer) (act : SponsorAct) :
    Option SponsorPlayer :=
  if act.wellFormed then do
    let tracks ← stepTracks player.tracks act.part
    match act.task with
    | none => some { player with tracks }
    | some own => do
        let sharing ← (sponsorRoutine config).together.step player.sharing own
        some { tracks, sharing }
  else none

def sponsorSystem (config : SponsorBlockConfig) : System SponsorPlayer SponsorAct :=
  ⟨SponsorPlayer.step config⟩

/-! ## Isolation -/

theorem sponsorSystem_contains (config : SponsorBlockConfig) :
    (sponsorSystem config).Contains (sponsorRoutine config).together SponsorPlayer.sharing
      SponsorAct.task := by
  intro player act next stepped
  obtain ⟨-, moved⟩ := ite_none_right_eq_some.mp stepped
  obtain ⟨tracks, -, moved⟩ := bind_eq_some_iff.mp moved
  cases taken : act.task with
  | none =>
    rw [taken] at moved
    cases moved
    rfl
  | some own =>
    rw [taken] at moved
    obtain ⟨sharing, shared, same⟩ := bind_eq_some_iff.mp moved
    cases same
    exact shared

/-- A track is launched when no segments are stored and nothing was skipped, and then
only its own loader and its own monitor come to the state until the next launch. -/
def SponsorPlayer.Undisturbed (config : SponsorBlockConfig) (player : SponsorPlayer)
    (act : SponsorAct) : Prop :=
  ∀ own ∈ act.task, (sponsorRoutine config).LeftAlone player.sharing own

instance (config : SponsorBlockConfig) (player : SponsorPlayer) (act : SponsorAct) :
    Decidable (player.Undisturbed config act) :=
  inferInstanceAs
    (Decidable (∀ own ∈ act.task, (sponsorRoutine config).LeftAlone player.sharing own))

def ownActs (playback : Nat) (acts : List SponsorAct) :
    List (RoutineAct SponsorInner SponsorOuter) :=
  Routine.own playback (acts.filterMap SponsorAct.task)

/-- The tasks of a track come to what they would alone. -/
theorem own_acts_decide (config : SponsorBlockConfig) (acts : List SponsorAct)
    (final : SponsorPlayer) (playback : Nat)
    (meets : (sponsorSystem config).Meets (SponsorPlayer.Undisturbed config) (.new config) acts)
    (reached : (sponsorSystem config).run (.new config) acts = some final) :
    ∃ alone, (sponsorRoutine config).alone.run ({}, {}) (ownActs playback acts) = some alone ∧
      final.sharing.tasks playback = alone.1 := by
  obtain ⟨inside, shared⟩ :=
    (sponsorSystem config).run_part (sponsorRoutine config).together SponsorPlayer.sharing
      SponsorAct.task (sponsorSystem_contains config) (sponsorRoutine config).LeftAlone acts
      meets reached
  exact Routine.run_own (acts.filterMap SponsorAct.task) inside shared playback

theorem skips_isolated (config : SponsorBlockConfig) (first second : List SponsorAct)
    (one other : SponsorPlayer) (playback again : Nat) (meetsFirst :
      (sponsorSystem config).Meets (SponsorPlayer.Undisturbed config) (.new config) first)
    (meetsSecond :
      (sponsorSystem config).Meets (SponsorPlayer.Undisturbed config) (.new config) second)
    (reachedFirst : (sponsorSystem config).run (.new config) first = some one)
    (reachedSecond : (sponsorSystem config).run (.new config) second = some other)
    (same : ownActs playback first = ownActs again second) :
    one.decisions playback = other.decisions again ∧
      ∃ alone, (sponsorRoutine config).alone.run ({}, {}) (ownActs playback first) = some alone ∧
        one.decisions playback = alone.1.decisions := by
  obtain ⟨alone, aloneRun, tasks⟩ :=
    own_acts_decide config first one playback meetsFirst reachedFirst
  obtain ⟨alike, alikeRun, alikeTasks⟩ :=
    own_acts_decide config second other again meetsSecond reachedSecond
  rw [same] at aloneRun
  cases Option.some.inj (aloneRun.symm.trans alikeRun)
  have decided : one.decisions playback = alone.1.decisions := by
    rw [SponsorPlayer.decisions, tasks]
  refine ⟨decided.trans ?_, alone, ?_, decided⟩
  · rw [SponsorPlayer.decisions, alikeTasks]
  · rw [same]
    exact aloneRun

def sponsored : SponsorBlockConfig := { enabled := true, categories := ["sponsor"] }

def trackAt (uri : String) : TrackInfo :=
  { identifier := "", isSeekable := true, author := "", length := 60000, isStream := false,
    position := 0, title := "", uri := some uri, artworkUrl := none, isrc := none,
    sourceName := "" }

def playVideo (uri : String) : List SponsorAct :=
  [.track (.request (.play true false)), .track (.acquire 0), .launch 0 (trackAt uri)]

def replaceVideo : List SponsorAct :=
  [.track (.request (.play true false)), .track (.acquire 0), .track (.proceed true),
    .launch 1 (trackAt "youtu.be/abcdefghijk")]

def loadFor (playback : Nat) (segments : List Segment) : List SponsorAct :=
  [.fetched playback (some segments), .access playback .storeSegments, .sendLoaded playback]

/-- The first track and what its loader does, the second one with its loader, and a round
of its monitor at five seconds. -/
def replacing (uri : String) (earlier own : List SponsorAct) : List SponsorAct :=
  playVideo uri ++ earlier ++ replaceVideo ++ own ++
    [.round 1 5000 true false, .access 1 .readSegments, .access 1 .loadSkip]

def opening : List Segment := [⟨0, 10000, "sponsor"⟩]

/-- Whether a video without segments comes first or a track that is no such video, the
second track is skipped alike. -/
theorem skip_after_either_track :
    ∃ one other,
      (sponsorSystem sponsored).run (.new sponsored)
        (replacing "youtu.be/ABCDEFGHIJK" (loadFor 0 []) (loadFor 1 opening)) = some one ∧
      (sponsorSystem sponsored).run (.new sponsored)
        (replacing "file.ogg" [] (loadFor 1 opening)) = some other ∧
      one.decisions 1 = [(5000, some 10000)] ∧ other.decisions 1 = [(5000, some 10000)] := by
  have outcome : ((sponsorSystem sponsored).run (.new sponsored)
      (replacing "youtu.be/ABCDEFGHIJK" (loadFor 0 []) (loadFor 1 opening))).map
      (fun final => final.decisions 1) = some [(5000, some 10000)] := by decide +kernel
  have ends : ((sponsorSystem sponsored).run (.new sponsored)
      (replacing "file.ogg" [] (loadFor 1 opening))).isSome := by decide +kernel
  obtain ⟨one, reachedOne, decided⟩ := map_eq_some_iff.mp outcome
  obtain ⟨other, reachedOther⟩ := isSome_iff_exists.mp ends
  have alike := (skips_isolated sponsored _ _ one other 1 1 (by decide +kernel)
    (by decide +kernel) reachedOne reachedOther (by decide +kernel)).1
  exact ⟨one, other, reachedOne, reachedOther, decided, alike.symm.trans decided⟩

/-- The loader of the second track has stored nothing yet when its monitor looks. -/
theorem skip_by_replaced_track :
    ∃ one other,
      (sponsorSystem sponsored).run (.new sponsored)
        (replacing "youtu.be/ABCDEFGHIJK" (loadFor 0 opening) []) = some one ∧
      (sponsorSystem sponsored).run (.new sponsored)
        (replacing "youtu.be/ABCDEFGHIJK" (loadFor 0 []) []) = some other ∧
      ownActs 1 (replacing "youtu.be/ABCDEFGHIJK" (loadFor 0 opening) []) =
        ownActs 1 (replacing "youtu.be/ABCDEFGHIJK" (loadFor 0 []) []) ∧
      one.decisions 1 = [(5000, some 10000)] ∧ other.decisions 1 = [(5000, none)] := by
  have first : ((sponsorSystem sponsored).run (.new sponsored)
      (replacing "youtu.be/ABCDEFGHIJK" (loadFor 0 opening) [])).map
      (fun final => final.decisions 1) = some [(5000, some 10000)] := by decide +kernel
  have second : ((sponsorSystem sponsored).run (.new sponsored)
      (replacing "youtu.be/ABCDEFGHIJK" (loadFor 0 []) [])).map
      (fun final => final.decisions 1) = some [(5000, none)] := by decide +kernel
  obtain ⟨one, reachedOne, skipped⟩ := map_eq_some_iff.mp first
  obtain ⟨other, reachedOther, played⟩ := map_eq_some_iff.mp second
  exact ⟨one, other, reachedOne, reachedOther, by decide +kernel, skipped, played⟩

end KizunaLink.Player
