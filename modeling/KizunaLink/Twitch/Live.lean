import KizunaLink.Hls.M3u8
import KizunaLink.Lib.Recent
import Mathlib.Data.List.Nodup

/-!
# Live playlists of Twitch

Model of the refresh loop of `LiveHlsReader` and of `parse_live_playlist`
(sources/twitch/track.rs).  A refresh and the visit of one listed segment are steps;
what the network answers and whether the receiver is still there is part of the act.

A playlist comes with the media sequence number of its first segment, which the program
does not read: it tells segments apart by their URLs and remembers the last fifty.  So
segments come in order and once if no window is longer than that memory, and if nothing
is delivered in a refresh after one of its segments has failed.
-/

set_option autoImplicit false

namespace KizunaLink.Twitch

open KizunaLink.Lib KizunaLink.Hls List

variable {Seconds : Type}

structure LiveScan (Seconds : Type) where
  segments : List (M3u8.Resource Seconds) := []
  targetDuration : Seconds

def parseLiveLines (parseSeconds : Chars → Option Seconds) (baseUrl : Chars) :
    List Chars → Nat → LiveScan Seconds → LiveScan Seconds
  | [], _, scan => scan
  | _ :: rest, skip + 1, scan => parseLiveLines parseSeconds baseUrl rest skip scan
  | line :: rest, 0, scan =>
    match M3u8.stripPrefix line "#EXT-X-TARGETDURATION:" with
    | some seconds =>
      parseLiveLines parseSeconds baseUrl rest 0
        { scan with
          targetDuration := (parseSeconds (M3u8.trim seconds)).getD scan.targetDuration }
    | none =>
      if M3u8.startsWith line "#EXTINF:" then
        let tags := (rest.takeWhile M3u8.isTag).length
        let found := rest[tags]?.filter (· ≠ [])
        let duration := M3u8.segmentDuration parseSeconds line
        parseLiveLines parseSeconds baseUrl rest (tags + 1)
          { scan with
            segments := scan.segments ++ (found.map fun urlLine =>
              ⟨M3u8.resolveUrl baseUrl urlLine, none, duration⟩).toList }
      else parseLiveLines parseSeconds baseUrl rest 0 scan

/-! ## The reader -/

/-- What the thread of a reader is given: the manifest URL, the reading of decimal seconds with
the default duration of six, and the demultiplexer. -/
structure LiveConfig (Seconds : Type) where
  manifestUrl : Chars
  parseSeconds : Chars → Option Seconds
  sixSeconds : Seconds
  extractAdts : List UInt8 → List UInt8

def LiveConfig.parseLivePlaylist (config : LiveConfig Seconds) (text : Chars) :
    LiveScan Seconds :=
  parseLiveLines config.parseSeconds config.manifestUrl (M3u8.lines text) 0
    { targetDuration := config.sixSeconds }

/-- MPEG-TS without audio is skipped like a failed fetch. -/
def LiveConfig.payload (config : LiveConfig Seconds) : Option (List UInt8) → Option (List UInt8)
  | none => none
  | some raw =>
    if raw.head? = some 0x47 then
      if (config.extractAdts raw).isEmpty then none else some (config.extractAdts raw)
    else some raw

inductive LivePoint (Seconds : Type) where
  | refreshing
  | looping (segments : List (M3u8.Resource Seconds)) (targetDuration : Seconds)
  | exited

/-- `first` is the number of the first segment of the window and `number` that of the next one
to visit; `failed` says that a segment of the window was visited without success, and
`delivered` are the payloads sent to the decoder with their numbers. -/
structure LiveReader (Seconds : Type) where
  seen : List Chars := []
  seenHistory : List Chars := []
  point : LivePoint Seconds := .refreshing
  first : Nat := 0
  number : Nat := 0
  failed : Bool := false
  delivered : List (Nat × List UInt8) := []

def seenHistorySize : Nat := 50

namespace LiveReader

variable (reader : LiveReader Seconds)

/-- A URL that is new is remembered, and the oldest one is forgotten. -/
def remember (url : Chars) : LiveReader Seconds :=
  if url ∈ reader.seen then reader
  else
    let history := reader.seenHistory ++ [url]
    let seen := reader.seen ++ [url]
    { reader with
      seen :=
        if seenHistorySize < history.length then seen.filter fun old => some old ≠ history.head?
        else seen
      seenHistory := pushRecent seenHistorySize reader.seenHistory url }

def refresh (config : LiveConfig Seconds) (first : Nat) (text : Chars) : LiveReader Seconds :=
  let scan := config.parseLivePlaylist text
  { reader with
    point := .looping scan.segments scan.targetDuration
    first
    number := first
    failed := false }

/-- The payload of a segment has been sent. -/
def deliver (url : Chars) (payload : List UInt8) : LiveReader Seconds :=
  { reader.remember url with delivered := reader.delivered ++ [(reader.number, payload)] }

def advance (rest : List (M3u8.Resource Seconds)) (targetDuration : Seconds) :
    LiveReader Seconds :=
  { reader with point := .looping rest targetDuration, number := reader.number + 1 }

def visit (config : LiveConfig Seconds) (segment : M3u8.Resource Seconds)
    (rest : List (M3u8.Resource Seconds)) (targetDuration : Seconds) (raw : Option (List UInt8))
    (receiverAlive : Bool) : LiveReader Seconds :=
  if segment.url ∈ reader.seen then reader.advance rest targetDuration
  else
    match config.payload raw with
    | none => { reader with failed := true }.advance rest targetDuration
    | some payload =>
      if receiverAlive then (reader.deliver segment.url payload).advance rest targetDuration
      else { reader with point := .exited }

end LiveReader

inductive LiveAct where
  | refresh (first : Nat) (text : Option Chars)
  | visit (raw : Option (List UInt8)) (receiverAlive : Bool)
  | sleep
  deriving DecidableEq, Repr

def LiveReader.step (config : LiveConfig Seconds) (reader : LiveReader Seconds) :
    LiveAct → Option (LiveReader Seconds)
  | .refresh first text =>
    match reader.point with
    | .refreshing =>
      match text with
      | none => some reader
      | some text => some (reader.refresh config first text)
    | .looping _ _ | .exited => none
  | .visit raw receiverAlive =>
    match reader.point with
    | .looping (segment :: rest) targetDuration =>
      some (reader.visit config segment rest targetDuration raw receiverAlive)
    | .looping [] _ | .refreshing | .exited => none
  | .sleep =>
    match reader.point with
    | .looping [] _ => some { reader with point := .refreshing }
    | .looping (_ :: _) _ | .refreshing | .exited => none

def liveSystem (config : LiveConfig Seconds) : System (LiveReader Seconds) LiveAct :=
  ⟨LiveReader.step config⟩

variable (config : LiveConfig Seconds) (url : Nat → Chars)

/-- Each refresh lists consecutive segments, and the window only moves forward. -/
def SlidingWindows (reader : LiveReader Seconds) : LiveAct → Prop
  | .refresh first (some text) =>
    let listed := (config.parseLivePlaylist text).segments
    reader.first ≤ first ∧ listed.map (·.url) = (List.range' first listed.length).map url
  | .refresh _ none | .visit _ _ | .sleep => True

/-- No window is longer than the memory, and after a failure nothing more of the window is
fetched. -/
def Steady (reader : LiveReader Seconds) : LiveAct → Prop
  | .refresh _ (some text) =>
    (config.parseLivePlaylist text).segments.length ≤ seenHistorySize
  | .visit raw _ => reader.failed = true → config.payload raw = none
  | .refresh _ none | .sleep => True

/-! ## Order -/

namespace LiveReader

variable {config url} {reader : LiveReader Seconds}

def numbers (reader : LiveReader Seconds) : List Nat := reader.delivered.map Prod.fst

/-- All numbers from the start of the window up to one that was delivered were delivered
(`closed`), and as long as no segment of the window has failed, so were all up to the next
one to visit (`complete`). -/
structure InOrder (url : Nat → Chars) (reader : LiveReader Seconds) : Prop where
  increasing : reader.numbers.Pairwise (· < ·)
  history : reader.seenHistory = (reader.numbers.map url).rtake seenHistorySize
  seen : ∀ known, known ∈ reader.seen ↔ known ∈ reader.seenHistory
  closed : ∀ later ∈ reader.numbers, ∀ number, reader.first ≤ number → number < later →
    number ∈ reader.numbers
  near : ∀ number ∈ reader.numbers, number < reader.first + seenHistorySize
  complete : reader.failed = false → ∀ number, reader.first ≤ number → number < reader.number →
    number ∈ reader.numbers
  listed : ∀ segments targetDuration, reader.point = .looping segments targetDuration →
    reader.first ≤ reader.number ∧
      reader.number + segments.length ≤ reader.first + seenHistorySize ∧
      segments.map (·.url) = (List.range' reader.number segments.length).map url

variable {number : Nat} {targetDuration : Seconds} {segment : M3u8.Resource Seconds}
  {rest : List (M3u8.Resource Seconds)}

theorem inOrder_new : InOrder url ({} : LiveReader Seconds) where
  increasing := .nil
  history := rfl
  seen _ := Iff.rfl
  closed _ inside := by cases inside
  near _ inside := by cases inside
  complete _ _ _ below := by cases below
  listed _ _ looping := by cases looping

section

variable (order : InOrder url reader)
include order

theorem InOrder.mem_seen (from_start : reader.first ≤ number)
    (delivered : number ∈ reader.numbers) : url number ∈ reader.seen := by
  have recent : number ∈ reader.numbers.rtake seenHistorySize := by
    refine mem_rtake_of_close order.increasing delivered fun other inside => ?_
    have near := order.near other inside
    omega
  rw [order.seen, order.history, List.rtake, length_map, ← map_drop]
  exact List.mem_map_of_mem recent

theorem InOrder.above_of_not_seen (from_start : reader.first ≤ number)
    (unknown : url number ∉ reader.seen) : ∀ other ∈ reader.numbers, other < number := by
  intro other inside
  by_contra not_below
  apply unknown
  apply order.mem_seen from_start
  rcases Nat.lt_or_eq_of_le (Nat.le_of_not_lt not_below) with above | rfl
  · exact order.closed other inside number from_start above
  · exact inside

theorem InOrder.refresh {first : Nat} {text : Chars}
    (slides : SlidingWindows config url reader (.refresh first (some text)))
    (steady : Steady config reader (.refresh first (some text))) :
    InOrder url (reader.refresh config first text) where
  increasing := order.increasing
  history := order.history
  seen := order.seen
  closed later inside number from_start :=
    order.closed later inside number (slides.1.trans from_start)
  near number inside :=
    Nat.lt_of_lt_of_le (order.near number inside) (Nat.add_le_add_right slides.1 _)
  complete _ number from_start below := absurd from_start (Nat.not_le_of_lt below)
  listed := by
    rintro segments targetDuration ⟨⟩
    exact ⟨Nat.le_refl _, Nat.add_le_add_left steady _, slides.2⟩

theorem InOrder.url_eq
    (looping : reader.point = .looping (segment :: rest) targetDuration) :
    segment.url = url reader.number ∧
      rest.map (·.url) = (List.range' (reader.number + 1) rest.length).map url := by
  have listed := (order.listed _ _ looping).2.2
  rw [map_cons, length_cons, List.range'_succ, map_cons] at listed
  exact ⟨(List.cons.inj listed).1, (List.cons.inj listed).2⟩

theorem InOrder.advance
    (looping : reader.point = .looping (segment :: rest) targetDuration)
    (done : reader.failed = false → reader.number ∈ reader.numbers) :
    InOrder url (reader.advance rest targetDuration) where
  increasing := order.increasing
  history := order.history
  seen := order.seen
  closed := order.closed
  near := order.near
  complete steady number from_start below := by
    have below : number < reader.number + 1 := below
    rcases Nat.lt_or_eq_of_le (Nat.le_of_lt_succ below) with earlier | rfl
    · exact order.complete steady number from_start earlier
    · exact done steady
  listed := by
    rintro segments duration ⟨⟩
    obtain ⟨from_start, inside, -⟩ := order.listed _ _ looping
    have inside : reader.number + (rest.length + 1) ≤ reader.first + seenHistorySize := inside
    refine ⟨Nat.le_succ_of_le from_start, ?_, (order.url_eq looping).2⟩
    show reader.number + 1 + rest.length ≤ reader.first + seenHistorySize
    omega

end

theorem mem_seen_remember {known : Chars} {seen history : List Chars} {new : Chars} (size : Nat)
    (same : ∀ known, known ∈ seen ↔ known ∈ history) (distinct : (history ++ [new]).Nodup) :
    (known ∈ if size < (history ++ [new]).length
      then (seen ++ [new]).filter fun old => some old ≠ (history ++ [new]).head?
      else seen ++ [new]) ↔ known ∈ pushRecent size history new := by
  have both : known ∈ seen ++ [new] ↔ known ∈ history ++ [new] := by
    rw [mem_append, mem_append, same]
  rw [pushRecent]
  split
  · rw [mem_filter, both]
    cases whole : history ++ [new] with
    | nil => simp
    | cons oldest others =>
      rw [whole] at distinct
      have gone : oldest ∉ others := (nodup_cons.mp distinct).1
      rw [mem_cons, List.head?_cons, tail_cons]
      constructor
      · rintro ⟨rfl | inside, other⟩
        · simp at other
        · exact inside
      · intro inside
        refine ⟨.inr inside, ?_⟩
        have other : known ≠ oldest := fun same => gone (same ▸ inside)
        simpa using other
  · exact both

theorem InOrder.distinct (order : InOrder url reader) (injective : Function.Injective url)
    (above : ∀ other ∈ reader.numbers, other < number) :
    (reader.numbers ++ [number]).Pairwise (· < ·) ∧
      (reader.seenHistory ++ [url number]).Nodup := by
  have increasing : (reader.numbers ++ [number]).Pairwise (· < ·) := by
    refine pairwise_append.mpr ⟨order.increasing, pairwise_singleton _ _, ?_⟩
    intro other before last member
    rw [mem_singleton.mp member]
    exact above other before
  have nodup : ((reader.numbers ++ [number]).map url).Nodup :=
    List.Nodup.map injective (increasing.imp Nat.ne_of_lt)
  obtain ⟨front, split⟩ : reader.seenHistory <:+ reader.numbers.map url := by
    rw [order.history]
    exact drop_suffix _ _
  refine ⟨increasing, nodup.sublist (List.IsSuffix.sublist ⟨front, ?_⟩)⟩
  rw [← append_assoc, split, map_append]
  rfl

theorem numbers_deliver (reader : LiveReader Seconds) (known : Chars) (payload : List UInt8) :
    (reader.deliver known payload).numbers = reader.numbers ++ [reader.number] := by
  rw [deliver, remember, numbers]
  split <;> exact map_append

theorem InOrder.deliver (order : InOrder url reader) (injective : Function.Injective url)
    (from_start : reader.first ≤ reader.number)
    (inside : reader.number < reader.first + seenHistorySize)
    (unknown : url reader.number ∉ reader.seen) (steady : reader.failed = false)
    (payload : List UInt8) : InOrder url (reader.deliver (url reader.number) payload) := by
  have above := order.above_of_not_seen from_start unknown
  obtain ⟨increasing, nodup⟩ := order.distinct injective above
  have numbers_eq := numbers_deliver reader (url reader.number) payload
  have old {number : Nat} (member : number ∈ reader.numbers ++ [reader.number]) :
      number ∈ reader.numbers ∨ number = reader.number := by
    simpa using member
  rw [LiveReader.deliver, remember, if_neg unknown] at numbers_eq ⊢
  refine ⟨?_, ?_, fun known => ?_, ?_, ?_, ?_, order.listed⟩
  · rw [numbers_eq]
    exact increasing
  · rw [numbers_eq, map_append, order.history]
    exact pushRecent_rtake _ _ _
  · exact mem_seen_remember seenHistorySize order.seen nodup
  · intro later delivered number after_first below
    rw [numbers_eq] at delivered ⊢
    rcases old delivered with before | rfl
    · exact mem_append_left _ (order.closed later before number after_first below)
    · exact mem_append_left _ (order.complete steady number after_first below)
  · intro number delivered
    rw [numbers_eq] at delivered
    rcases old delivered with before | rfl
    · exact order.near number before
    · exact inside
  · intro _ number after_first below
    rw [numbers_eq]
    exact mem_append_left _ (order.complete steady number after_first below)

theorem deliver_point (reader : LiveReader Seconds) (known : Chars) (payload : List UInt8) :
    (reader.deliver known payload).point = reader.point := by
  rw [deliver, remember]
  split <;> rfl

theorem number_mem_deliver (reader : LiveReader Seconds) (known : Chars) (payload : List UInt8) :
    (reader.deliver known payload).number ∈ (reader.deliver known payload).numbers := by
  have number : (reader.deliver known payload).number = reader.number := by
    rw [deliver, remember]
    split <;> rfl
  rw [number, numbers_deliver]
  simp

theorem InOrder.visit (order : InOrder url reader) (injective : Function.Injective url)
    (looping : reader.point = .looping (segment :: rest) targetDuration) {raw : Option (List UInt8)}
    {receiverAlive : Bool} (steady : Steady config reader (.visit raw receiverAlive)) :
    InOrder url (reader.visit config segment rest targetDuration raw receiverAlive) := by
  obtain ⟨from_start, inside, -⟩ := order.listed _ _ looping
  have inside : reader.number + (rest.length + 1) ≤ reader.first + seenHistorySize := inside
  have segment_url := (order.url_eq looping).1
  unfold LiveReader.visit
  split
  · rename_i known
    refine order.advance looping fun _ => ?_
    -- what is remembered was delivered
    rw [order.seen, order.history] at known
    obtain ⟨number, delivered, same⟩ := List.mem_map.mp (mem_of_mem_drop known)
    rwa [← injective (same.trans segment_url)]
  · rename_i unknown
    rw [segment_url] at unknown
    split
    · have failed : InOrder url { reader with failed := true } :=
        { order with complete := fun never => absurd never (by simp) }
      exact failed.advance looping fun never => absurd never (by simp)
    · rename_i payload fetched
      have fresh : reader.failed = false := by
        by_contra failed
        have none := steady (by simpa using failed)
        simp [fetched] at none
      split
      · rw [segment_url]
        have delivered := order.deliver injective from_start (by omega) unknown fresh payload
        have point := (reader.deliver_point (url reader.number) payload).trans looping
        exact delivered.advance point fun _ => reader.number_mem_deliver _ payload
      · exact { order with listed := fun _ _ looping => by cases looping }

theorem InOrder.step {next : LiveReader Seconds} (order : InOrder url reader)
    (injective : Function.Injective url) (act : LiveAct)
    (slides : SlidingWindows config url reader act) (steady : Steady config reader act)
    (stepped : reader.step config act = some next) : InOrder url next := by
  cases act with
  | refresh first text =>
    simp only [LiveReader.step] at stepped
    split at stepped
    · cases text with
      | none =>
        cases stepped
        exact order
      | some text =>
        cases stepped
        exact order.refresh slides steady
    all_goals cases stepped
  | visit raw receiverAlive =>
    simp only [LiveReader.step] at stepped
    split at stepped
    · rename_i segment rest targetDuration looping
      cases stepped
      exact order.visit injective looping steady
    all_goals cases stepped
  | sleep =>
    simp only [LiveReader.step] at stepped
    split at stepped
    · cases stepped
      exact { order with listed := fun _ _ looping => by cases looping }
    all_goals cases stepped

end LiveReader

/-- Whatever fetches fail: the payloads come in the order of the media sequence and once, if no
window is longer than the memory of the reader and nothing of a window is fetched after one of
its segments has failed. -/
theorem live_segments_in_order {config : LiveConfig Seconds} {url : Nat → Chars}
    (injective : Function.Injective url) {acts : List LiveAct} {reader : LiveReader Seconds}
    (slides : (liveSystem config).Meets (SlidingWindows config url) {} acts)
    (steady : (liveSystem config).Meets (Steady config) {} acts)
    (ran : (liveSystem config).run {} acts = some reader) :
    (reader.delivered.map Prod.fst).Pairwise (· < ·) := by
  have order := (liveSystem config).run_invariant
    (fun reader act => SlidingWindows config url reader act ∧ Steady config reader act)
    (LiveReader.InOrder url)
    (fun order ok stepped => order.step injective _ ok.1 ok.2 stepped)
    acts LiveReader.inOrder_new ((liveSystem config).meets_and acts slides steady) ran
  exact order.increasing

/-- A manifest whose segments are named by their number of letters. -/
def letterConfig : LiveConfig Nat where
  manifestUrl := "http://t/live".toList
  parseSeconds _ := none
  sixSeconds := 6
  extractAdts := id

def letterUrl (number : Nat) : Chars := "http://t/".toList ++ List.replicate number 'a'

theorem letterUrl_injective : Function.Injective letterUrl := by
  intro number other same
  have letters : List.replicate number 'a' = List.replicate other 'a' :=
    append_cancel_left same
  have lengths := congrArg List.length letters
  rwa [length_replicate, length_replicate] at lengths

def oneAndTwo : Chars := "#EXTINF:2,\na\n#EXTINF:2,\naa\n".toList

def twoAndThree : Chars := "#EXTINF:2,\naa\n#EXTINF:2,\naaa\n".toList

instance (config : LiveConfig Seconds) (url : Nat → Chars) (reader : LiveReader Seconds) :
    ∀ act, Decidable (SlidingWindows config url reader act)
  | .refresh _ (some _) => inferInstanceAs (Decidable (_ ∧ _))
  | .refresh _ none | .visit _ _ | .sleep => isTrue trivial

instance (config : LiveConfig Seconds) (reader : LiveReader Seconds) :
    ∀ act, Decidable (Steady config reader act)
  | .refresh _ (some _) => inferInstanceAs (Decidable (_ ≤ _))
  | .visit _ _ => inferInstanceAs (Decidable (_ → _))
  | .refresh _ none | .sleep => isTrue trivial

/-- The second segment fails and is fetched with the third one. -/
def retried : List LiveAct :=
  [.refresh 1 (some oneAndTwo), .visit (some [1]) true, .visit none true, .sleep,
    .refresh 2 (some twoAndThree), .visit (some [2]) true, .visit (some [3]) true]

theorem retried_in_order : ∃ reader,
    (liveSystem letterConfig).run {} retried = some reader ∧
    reader.delivered = [(1, [1]), (2, [2]), (3, [3])] ∧
    (reader.delivered.map Prod.fst).Pairwise (· < ·) := by
  have view : ((liveSystem letterConfig).run {} retried).map (·.delivered) =
      some [(1, [1]), (2, [2]), (3, [3])] := by
    decide +kernel
  obtain ⟨reader, ran, delivered⟩ := Option.map_eq_some_iff.mp view
  have slides : (liveSystem letterConfig).Meets (SlidingWindows letterConfig letterUrl) {}
      retried := by
    decide +kernel
  have steady : (liveSystem letterConfig).Meets (Steady letterConfig) {} retried := by
    decide +kernel
  exact ⟨reader, ran, delivered, live_segments_in_order letterUrl_injective slides steady ran⟩

/-- The first segment fails, the second one is delivered, and the next refresh delivers the
first one behind it. -/
theorem first_delivered_after_second :
    (liveSystem letterConfig).Meets (SlidingWindows letterConfig letterUrl) {}
      [.refresh 1 (some oneAndTwo), .visit none true, .visit (some [2]) true, .sleep,
        .refresh 1 (some oneAndTwo), .visit (some [1]) true] ∧
    ((liveSystem letterConfig).run {}
      [.refresh 1 (some oneAndTwo), .visit none true, .visit (some [2]) true, .sleep,
        .refresh 1 (some oneAndTwo), .visit (some [1]) true]).map (·.delivered) =
      some [(2, [2]), (1, [1])] := by
  constructor
  · decide +kernel
  · decide +kernel

end KizunaLink.Twitch
