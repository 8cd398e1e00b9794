import KizunaLink.Hls.M3u8

/-!
# Byte ranges of segments

A segment may have its `#EXT-X-BYTERANGE` before or behind its `#EXTINF`, read by the loop
in one case and by the look-ahead in the other.  Either way each range is read once: a
segment gets the length of its own tag, and the offset of the tag or the end of the range
before it.
-/

set_option autoImplicit false

namespace KizunaLink.Hls

open KizunaLink.Lib KizunaLink.Source List Option

def ByteRange.stop (range : ByteRange) : Nat := range.offset + range.length

namespace M3u8

variable {Seconds : Type}

theorem startsWith_iff {text : Chars} {pattern : String} :
    startsWith text pattern = true ↔ pattern.toList <+: text :=
  List.isPrefixOf_iff_prefix

theorem startsWith_longer {text : Chars} {pattern longer : String}
    (extends_ : pattern.toList <+: longer.toList) (not : startsWith text pattern = false) :
    startsWith text longer = false := by
  by_contra starts
  rw [Bool.not_eq_false, startsWith_iff] at starts
  have shorter := startsWith_iff.mpr (extends_.trans starts)
  rw [shorter] at not
  cases not

theorem takeRange_of_not {line : Chars} (not : startsWith line "#EXT-X-BYTERANGE:" = false)
    (scan : MediaScan Seconds) : scan.takeRange line = scan := by
  rw [MediaScan.takeRange, stripPrefix, not]
  rfl

structure Decimal where
  digits : Chars
  present : digits ≠ []
  decimal : digits.all Char.isDigit = true

def Decimal.value (number : Decimal) : Nat :=
  number.digits.foldl (fun value digit => value * 10 + (digit.toNat - '0'.toNat)) 0

theorem Decimal.isDigit (number : Decimal) {char : Char} (inside : char ∈ number.digits) :
    char.isDigit = true :=
  List.all_eq_true.mp number.decimal char inside

theorem Decimal.not_mem (number : Decimal) {char : Char} (other : char.isDigit = false) :
    char ∉ number.digits := by
  intro inside
  rw [number.isDigit inside] at other
  cases other

theorem Decimal.parseDigits_digits (number : Decimal) (fits : number.value < 2 ^ 64) :
    parseDigits number.digits = some number.value := by
  have sign : '+' ∉ number.digits := number.not_mem (by decide)
  unfold parseDigits
  split
  · rename_i rest same
    rw [same] at sign
    exact absurd mem_cons_self sign
  · simp only [if_pos (And.intro number.present number.decimal)]
    exact if_pos fits

theorem isWhitespace_of_isDigit {char : Char} (digit : char.isDigit = true) :
    isWhitespace char = false := by
  have bounds : 48 ≤ char.toNat ∧ char.toNat ≤ 57 := Char.isDigit_iff_toNat.mp digit
  simp only [isWhitespace, Bool.or_eq_false_iff, Bool.and_eq_false_iff, decide_eq_false_iff_not,
    beq_eq_false_iff_ne]
  omega

theorem trimMatches_of_forall {matching : Char → Bool} {text : Chars}
    (plain : ∀ char ∈ text, matching char = false) : trimMatches matching text = text := by
  have kept (other : Chars) (plain : ∀ char ∈ other, matching char = false) :
      other.dropWhile matching = other := by
    cases other with
    | nil => rfl
    | cons char rest => rw [dropWhile_cons, plain char mem_cons_self]; rfl
  rw [trimMatches, kept text plain, kept text.reverse fun char inside =>
    plain char (mem_reverse.mp inside), reverse_reverse]

theorem Decimal.trim_digits (number : Decimal) : trim number.digits = number.digits :=
  trimMatches_of_forall fun _ inside => isWhitespace_of_isDigit (number.isDigit inside)

structure RangeTag where
  length : Decimal
  offset : Option Decimal

variable (tag : RangeTag)

def RangeTag.text : Chars :=
  tag.length.digits ++ (tag.offset.map fun offset => '@' :: offset.digits).getD []

def RangeTag.line : Chars := "#EXT-X-BYTERANGE:".toList ++ tag.text

def RangeTag.range (last : Nat) : ByteRange :=
  ⟨tag.length.value, (tag.offset.map Decimal.value).getD last⟩

theorem RangeTag.stop_range (last : Nat) :
    (tag.range last).stop = (tag.offset.map Decimal.value).getD last + tag.length.value := rfl

theorem RangeTag.mem_text {char : Char} (inside : char ∈ tag.text) :
    char.isDigit = true ∨ char = '@' := by
  rw [RangeTag.text, mem_append] at inside
  rcases inside with inside | inside
  · exact .inl (tag.length.isDigit inside)
  · cases explicit : tag.offset with
    | none => simp [explicit] at inside
    | some offset =>
      rw [explicit, map_some, getD_some, mem_cons] at inside
      rcases inside with same | inside
      · exact .inr same
      · exact .inl (offset.isDigit inside)

theorem RangeTag.trim_text : trimMatches (· == '"') (trim tag.text) = tag.text := by
  have space : trim tag.text = tag.text := by
    refine trimMatches_of_forall fun char inside => ?_
    rcases tag.mem_text inside with digit | rfl
    · exact isWhitespace_of_isDigit digit
    · decide
  rw [space]
  refine trimMatches_of_forall fun char inside => ?_
  rw [beq_eq_false_iff_ne]
  rintro rfl
  rcases tag.mem_text inside with digit | same
  · exact absurd digit (by decide)
  · exact absurd same (by decide)

theorem RangeTag.parseByteRange_text (last : Nat) (fits : (tag.range last).stop < 2 ^ 64) :
    parseByteRange tag.text last = tag.range last := by
  have no_at (number : Decimal) : '@' ∉ number.digits := number.not_mem (by decide)
  have number (number : Decimal) (fits : number.value < 2 ^ 64) :
      (parseDigits (trim number.digits)).getD 0 = number.value := by
    rw [number.trim_digits, number.parseDigits_digits fits]
    rfl
  simp only [parseByteRange, tag.trim_text]
  rw [RangeTag.stop_range] at fits
  rw [RangeTag.text, RangeTag.range]
  cases explicit : tag.offset with
  | none =>
    have short : tag.length.value < 2 ^ 64 := by omega
    simp only [map_none, getD_none, append_nil,
      splitOn_eq_singleton (no_at tag.length), number tag.length short]
  | some offset =>
    rw [explicit, map_some, getD_some] at fits
    have short : tag.length.value < 2 ^ 64 := by omega
    have early : offset.value < 2 ^ 64 := by omega
    simp only [map_some, getD_some, splitOn_append_cons_self_of_not_mem (no_at tag.length),
      splitOn_eq_singleton (no_at offset), number tag.length short, number offset early]

variable (scan : MediaScan Seconds)

theorem takeRange_line (tag : RangeTag) (fits : (tag.range scan.nextOffset).stop < 2 ^ 64) :
    scan.takeRange tag.line =
      { scan with
        nextOffset := (tag.range scan.nextOffset).stop
        pendingRange := some (tag.range scan.nextOffset) } := by
  have opened : stripPrefix tag.line "#EXT-X-BYTERANGE:" = some tag.text := by
    have starts : startsWith tag.line "#EXT-X-BYTERANGE:" = true :=
      startsWith_iff.mpr ⟨tag.text, rfl⟩
    rw [stripPrefix, if_pos starts]
    rfl
  have ends : min (tag.range scan.nextOffset).stop (2 ^ 64 - 1) =
      (tag.range scan.nextOffset).stop := by omega
  rw [MediaScan.takeRange, opened]
  simp only [tag.parseByteRange_text scan.nextOffset fits]
  rw [ByteRange.stop] at ends
  rw [ByteRange.stop, ends]

/-! ## Playlists -/

/-- A tag that is neither the range nor the start of a segment, nor one of a master playlist. -/
structure OtherTag where
  line : Chars
  tag : isTag line = true
  not_info : startsWith line "#EXTINF:" = false
  not_range : startsWith line "#EXT-X-BYTERANGE:" = false
  not_variant : startsWith line "#EXT-X-STREAM-INF" = false

inductive TagLine where
  | range (tag : RangeTag)
  | other (tag : OtherTag)

def TagLine.line : TagLine → Chars
  | .range tag => tag.line
  | .other tag => tag.line

def TagLine.range? : TagLine → Option RangeTag
  | .range tag => some tag
  | .other _ => none

/-- The tags of a segment around its `#EXTINF`, at most one of them a range, and its URI. -/
structure Segment where
  before : List TagLine
  info : Chars
  after : List TagLine
  uri : Chars
  not_tag : isTag uri = false
  single : ((before ++ after).filterMap TagLine.range?).length ≤ 1

def Segment.range? (segment : Segment) : Option RangeTag :=
  ((segment.before ++ segment.after).filterMap TagLine.range?).head?

def Segment.infoLine (segment : Segment) : Chars := "#EXTINF:".toList ++ segment.info

def Segment.lines (segment : Segment) : List Chars :=
  segment.before.map TagLine.line ++
    segment.infoLine :: (segment.after.map TagLine.line ++ [segment.uri])

structure MediaLines where
  segments : List Segment
  trailing : List OtherTag

def MediaLines.lines (playlist : MediaLines) : List Chars :=
  playlist.segments.flatMap Segment.lines ++ playlist.trailing.map OtherTag.line

def Segment.rangeBehind (segment : Segment) (last : Nat) : Option ByteRange :=
  segment.range?.map (·.range last)

/-- The ranges of segments behind ranges that end at `last`: a segment without one is passed. -/
def rangesFrom : Nat → List Segment → List (Option ByteRange)
  | _, [] => []
  | last, segment :: rest =>
    segment.rangeBehind last ::
      rangesFrom (((segment.rangeBehind last).map ByteRange.stop).getD last) rest

def lastStop (start : Nat) (ranges : List (Option ByteRange)) : Nat :=
  (ranges.reduceOption.getLast?.map ByteRange.stop).getD start

theorem lastStop_cons (start : Nat) (range : Option ByteRange) (ranges : List (Option ByteRange)) :
    lastStop start (range :: ranges) = lastStop ((range.map ByteRange.stop).getD start) ranges := by
  cases range with
  | none => rfl
  | some range =>
    have kept : (some range :: ranges).reduceOption = range :: ranges.reduceOption := rfl
    rw [lastStop, lastStop, kept, List.getLast?_cons]
    cases ranges.reduceOption.getLast? <;> rfl

theorem getElem?_rangesFrom (last : Nat) (segments : List Segment) (k : Nat) :
    (rangesFrom last segments)[k]? =
      segments[k]?.map (·.rangeBehind (lastStop last ((rangesFrom last segments).take k))) := by
  induction segments generalizing last k with
  | nil => rfl
  | cons segment rest ih =>
    cases k with
    | zero => rfl
    | succ k =>
      rw [rangesFrom, List.getElem?_cons_succ, List.getElem?_cons_succ, take_succ_cons,
        lastStop_cons]
      exact ih _ k

/-! ## Tags -/

theorem startsWith_apart {pattern other : String} (text : Chars)
    (apart : ¬ pattern.toList <+: other.toList ∧ ¬ other.toList <+: pattern.toList) :
    startsWith (pattern.toList ++ text) other = false := by
  by_contra starts
  rw [Bool.not_eq_false, startsWith_iff] at starts
  rcases prefix_or_prefix_of_prefix starts (prefix_append _ text) with longer | shorter
  · exact apart.2 longer
  · exact apart.1 shorter

theorem TagLine.isTag_line (tag : TagLine) : isTag tag.line = true := by
  cases tag with
  | range tag => exact startsWith_iff.mpr ⟨"EXT-X-BYTERANGE:".toList ++ tag.text, rfl⟩
  | other tag => exact tag.tag

theorem TagLine.not_info (tag : TagLine) : startsWith tag.line "#EXTINF:" = false := by
  cases tag with
  | range tag => exact startsWith_apart tag.text (by decide)
  | other tag => exact tag.not_info

theorem TagLine.not_variant (tag : TagLine) : startsWith tag.line "#EXT-X-STREAM-INF" = false := by
  cases tag with
  | range tag => exact startsWith_apart tag.text (by decide)
  | other tag => exact tag.not_variant

def TagLine.take (baseUrl : Chars) (scan : MediaScan Seconds) (tag : TagLine) :
    MediaScan Seconds :=
  if startsWith tag.line "#EXT-X-MAP" then scan.takeMap baseUrl tag.line
  else scan.takeRange tag.line

/-- All of a scan but the initialisation section. -/
def MediaScan.forgetMap : MediaScan Seconds := { scan with map := none }

theorem forgetMap_takeRange (line : Chars) :
    (scan.takeRange line).forgetMap = scan.forgetMap.takeRange line := by
  rw [MediaScan.takeRange, MediaScan.takeRange]
  cases stripPrefix line "#EXT-X-BYTERANGE:" <;> rfl

theorem forgetMap_takeMap (baseUrl line : Chars) :
    (scan.takeMap baseUrl line).forgetMap = scan.forgetMap := by
  rw [MediaScan.takeMap]
  cases extractAttrStr line "URI" <;> rfl

theorem forgetMap_take (baseUrl : Chars) (tag : TagLine) :
    (tag.take baseUrl scan).forgetMap = scan.forgetMap.takeRange tag.line := by
  rw [TagLine.take]
  split
  · rename_i map
    cases tag with
    | range tag =>
      have not : startsWith tag.line "#EXT-X-MAP" = false := startsWith_apart tag.text (by decide)
      rw [TagLine.line, not] at map
      cases map
    | other tag =>
      rw [forgetMap_takeMap, TagLine.line, takeRange_of_not tag.not_range]
  · exact forgetMap_takeRange scan tag.line

theorem forgetMap_foldl_take (baseUrl : Chars) (tags : List TagLine) :
    (tags.foldl (TagLine.take baseUrl) scan).forgetMap =
      (tags.map TagLine.line).foldl MediaScan.takeRange scan.forgetMap := by
  induction tags generalizing scan with
  | nil => rfl
  | cons tag tags ih => rw [foldl_cons, ih, forgetMap_take, map_cons, foldl_cons]

theorem forgetMap_foldl_takeRange (lines : List Chars) :
    (lines.foldl MediaScan.takeRange scan).forgetMap =
      lines.foldl MediaScan.takeRange scan.forgetMap := by
  induction lines generalizing scan with
  | nil => rfl
  | cons line lines ih => rw [foldl_cons, ih, forgetMap_takeRange, foldl_cons]

theorem foldl_takeRange_line (tags : List TagLine) :
    (tags.map TagLine.line).foldl MediaScan.takeRange scan =
      (tags.filterMap TagLine.range?).foldl (fun scan tag => scan.takeRange tag.line) scan := by
  induction tags generalizing scan with
  | nil => rfl
  | cons tag tags ih =>
    cases tag with
    | range tag =>
      have counted : (TagLine.range tag :: tags).filterMap TagLine.range? =
          tag :: tags.filterMap TagLine.range? := rfl
      rw [map_cons, foldl_cons, ih, counted, foldl_cons, TagLine.line]
    | other tag =>
      have passed : (TagLine.other tag :: tags).filterMap TagLine.range? =
          tags.filterMap TagLine.range? := rfl
      rw [map_cons, foldl_cons, TagLine.line, takeRange_of_not tag.not_range, ih, passed]

section Reading

variable (parseSeconds : Chars → Option Seconds) (baseUrl : Chars)

theorem parseMedia_tag (tag : TagLine) (rest : List Chars) :
    parseMedia parseSeconds baseUrl (tag.line :: rest) 0 scan =
      parseMedia parseSeconds baseUrl rest 0 (tag.take baseUrl scan) := by
  rw [parseMedia, TagLine.take]
  by_cases map : startsWith tag.line "#EXT-X-MAP" = true
  · rw [if_pos map, if_pos map]
  · rw [if_neg map, if_neg map]
    by_cases range : startsWith tag.line "#EXT-X-BYTERANGE:" = true
    · rw [if_pos range]
    · rw [if_neg range, if_neg (by simp [tag.not_info]), takeRange_of_not (by simpa using range)]

theorem parseMedia_tags (tags : List TagLine) (rest : List Chars) :
    parseMedia parseSeconds baseUrl (tags.map TagLine.line ++ rest) 0 scan =
      parseMedia parseSeconds baseUrl rest 0 (tags.foldl (TagLine.take baseUrl) scan) := by
  induction tags generalizing scan with
  | nil => rfl
  | cons tag tags ih =>
    rw [map_cons, cons_append, parseMedia_tag]
    exact ih (tag.take baseUrl scan)

variable (segment : Segment)

def Segment.read (scan : MediaScan Seconds) : MediaScan Seconds :=
  ((segment.after.map TagLine.line).foldl MediaScan.takeRange
      (segment.before.foldl (TagLine.take baseUrl) scan)).pushSegment
    (resolveUrl baseUrl segment.uri) (segmentDuration parseSeconds segment.infoLine)

theorem parseMedia_info (rest : List Chars) :
    parseMedia parseSeconds baseUrl
        (segment.infoLine :: (segment.after.map TagLine.line ++ segment.uri :: rest)) 0 scan =
      parseMedia parseSeconds baseUrl rest 0
        (((segment.after.map TagLine.line).foldl MediaScan.takeRange scan).pushSegment
          (resolveUrl baseUrl segment.uri) (segmentDuration parseSeconds segment.infoLine)) := by
  have not_map : startsWith segment.infoLine "#EXT-X-MAP" = false :=
    startsWith_apart segment.info (by decide)
  have not_range : startsWith segment.infoLine "#EXT-X-BYTERANGE:" = false :=
    startsWith_apart segment.info (by decide)
  have info : startsWith segment.infoLine "#EXTINF:" = true :=
    startsWith_iff.mpr ⟨segment.info, rfl⟩
  have tags : ∀ line ∈ segment.after.map TagLine.line, isTag line = true := by
    intro line inside
    obtain ⟨tag, -, rfl⟩ := List.mem_map.mp inside
    exact tag.isTag_line
  have seen : (segment.after.map TagLine.line ++ segment.uri :: rest).takeWhile isTag =
      segment.after.map TagLine.line := by
    rw [takeWhile_append_of_pos tags, takeWhile_cons_of_neg (by simp [segment.not_tag]),
      append_nil]
  have found : (segment.after.map TagLine.line ++ segment.uri :: rest)[
      (segment.after.map TagLine.line).length]? = some segment.uri := by
    rw [List.getElem?_append_right (Nat.le_refl _), Nat.sub_self]
    rfl
  rw [parseMedia, if_neg (by simp [not_map]), if_neg (by simp [not_range]), if_pos info]
  simp only [seen, found]
  rw [parseMedia_skip]
  congr 1
  rw [← drop_drop, drop_left]
  rfl

theorem parseMedia_segment (rest : List Chars) :
    parseMedia parseSeconds baseUrl (segment.lines ++ rest) 0 scan =
      parseMedia parseSeconds baseUrl rest 0 (segment.read parseSeconds baseUrl scan) := by
  have shape : segment.lines ++ rest = segment.before.map TagLine.line ++
      (segment.infoLine :: (segment.after.map TagLine.line ++ segment.uri :: rest)) := by
    simp [Segment.lines]
  rw [shape, parseMedia_tags, parseMedia_info]
  rfl

theorem parseMedia_segments (segments : List Segment) (rest : List Chars) :
    parseMedia parseSeconds baseUrl (segments.flatMap Segment.lines ++ rest) 0 scan =
      parseMedia parseSeconds baseUrl rest 0
        (segments.foldl (fun scan segment => segment.read parseSeconds baseUrl scan) scan) := by
  induction segments generalizing scan with
  | nil => rfl
  | cons segment segments ih =>
    rw [flatMap_cons, append_assoc, parseMedia_segment]
    exact ih (segment.read parseSeconds baseUrl scan)

theorem forgetMap_read (free : scan.pendingRange = none)
    (fits : ∀ range, segment.rangeBehind scan.nextOffset = some range → range.stop < 2 ^ 64) :
    (segment.read parseSeconds baseUrl scan).forgetMap =
      { segments := scan.segments ++ [⟨resolveUrl baseUrl segment.uri,
          segment.rangeBehind scan.nextOffset, segmentDuration parseSeconds segment.infoLine⟩]
        map := none
        nextOffset :=
          ((segment.rangeBehind scan.nextOffset).map ByteRange.stop).getD scan.nextOffset
        pendingRange := none } := by
  -- the tags before and behind `#EXTINF` are read as one list, in which at most one counts
  have tags : ((segment.after.map TagLine.line).foldl MediaScan.takeRange
        (segment.before.foldl (TagLine.take baseUrl) scan)).forgetMap =
      ((segment.before ++ segment.after).filterMap TagLine.range?).foldl
        (fun scan tag => scan.takeRange tag.line) scan.forgetMap := by
    rw [forgetMap_foldl_takeRange, forgetMap_foldl_take, ← foldl_append, ← map_append,
      foldl_takeRange_line]
  have pushed : (segment.read parseSeconds baseUrl scan).forgetMap =
      (((segment.after.map TagLine.line).foldl MediaScan.takeRange
        (segment.before.foldl (TagLine.take baseUrl) scan)).forgetMap).pushSegment
          (resolveUrl baseUrl segment.uri) (segmentDuration parseSeconds segment.infoLine) := rfl
  rw [pushed, tags]
  have single := segment.single
  cases ranges : (segment.before ++ segment.after).filterMap TagLine.range? with
  | nil =>
    have none : segment.rangeBehind scan.nextOffset = none := by
      rw [Segment.rangeBehind, Segment.range?, ranges]
      rfl
    rw [none, foldl_nil, MediaScan.pushSegment, MediaScan.forgetMap]
    simp only [free]
    rfl
  | cons tag others =>
    have alone : others = [] := by
      rw [ranges, length_cons] at single
      exact length_eq_zero_iff.mp (by omega)
    have own : segment.rangeBehind scan.nextOffset = some (tag.range scan.nextOffset) := by
      rw [Segment.rangeBehind, Segment.range?, ranges]
      rfl
    rw [alone, foldl_cons, foldl_nil, own, takeRange_line scan.forgetMap tag (fits _ own),
      MediaScan.pushSegment]
    rfl

def resourcesFrom (last : Nat) (segments : List Segment) : List (Resource Seconds) :=
  List.zipWith (fun segment range => ⟨resolveUrl baseUrl segment.uri, range,
    segmentDuration parseSeconds segment.infoLine⟩) segments (rangesFrom last segments)

theorem segments_foldl_read (segments : List Segment) (free : scan.pendingRange = none)
    (fits : ∀ range, some range ∈ rangesFrom scan.nextOffset segments → range.stop < 2 ^ 64) :
    (segments.foldl (fun scan segment => segment.read parseSeconds baseUrl scan) scan).segments =
      scan.segments ++ resourcesFrom parseSeconds baseUrl scan.nextOffset segments := by
  induction segments generalizing scan with
  | nil => exact (append_nil _).symm
  | cons segment rest ih =>
    have read := forgetMap_read scan parseSeconds baseUrl segment free fun range own =>
      fits range (own ▸ mem_cons_self)
    have segments := congrArg MediaScan.segments read
    have nextOffset := congrArg MediaScan.nextOffset read
    have pendingRange := congrArg MediaScan.pendingRange read
    simp only [MediaScan.forgetMap] at segments nextOffset pendingRange
    rw [foldl_cons, ih _ pendingRange ?_, segments, nextOffset, append_assoc]
    · rfl
    · rw [nextOffset]
      exact fun range inside => fits range (mem_cons_of_mem _ inside)

theorem segments_trailing (trailing : List OtherTag) :
    (parseMedia parseSeconds baseUrl (trailing.map OtherTag.line) 0 scan).segments =
      scan.segments := by
  have tags : trailing.map OtherTag.line = (trailing.map TagLine.other).map TagLine.line ++ [] := by
    rw [append_nil, List.map_map]
    rfl
  have none : (trailing.map TagLine.other).filterMap TagLine.range? = [] := by
    rw [filterMap_map]
    exact filterMap_eq_nil_iff.mpr fun _ _ => rfl
  have same := forgetMap_foldl_take scan baseUrl (trailing.map TagLine.other)
  rw [foldl_takeRange_line, none, foldl_nil] at same
  have segments := congrArg MediaScan.segments same
  rw [tags, parseMedia_tags, parseMedia]
  exact segments

theorem Segment.not_variant {line : Chars} (inside : line ∈ segment.lines) :
    startsWith line "#EXT-X-STREAM-INF" = false := by
  have tags (tags : List TagLine) (member : line ∈ tags.map TagLine.line) :
      startsWith line "#EXT-X-STREAM-INF" = false := by
    obtain ⟨tag, -, rfl⟩ := List.mem_map.mp member
    exact tag.not_variant
  rw [Segment.lines, mem_append, mem_cons, mem_append, mem_singleton] at inside
  rcases inside with before | rfl | after | rfl
  · exact tags segment.before before
  · exact startsWith_apart segment.info (by decide)
  · exact tags segment.after after
  · exact startsWith_longer (by decide) segment.not_tag

theorem MediaLines.not_master (playlist : MediaLines) :
    playlist.lines.any (startsWith · "#EXT-X-STREAM-INF") = false := by
  rw [List.any_eq_false]
  intro line inside
  rw [Bool.not_eq_true]
  rw [MediaLines.lines, mem_append] at inside
  rcases inside with inside | inside
  · obtain ⟨segment, -, member⟩ := mem_flatMap.mp inside
    exact segment.not_variant member
  · obtain ⟨tag, -, rfl⟩ := List.mem_map.mp inside
    exact tag.not_variant

theorem map_range_resourcesFrom (last : Nat) (segments : List Segment) :
    (resourcesFrom parseSeconds baseUrl last segments).map (·.range) =
      rangesFrom last segments := by
  induction segments generalizing last with
  | nil => rfl
  | cons segment rest ih => exact congrArg (List.cons (segment.rangeBehind last)) (ih _)

/-- The segment at each position carries the length of its own tag, behind the offset of the tag
or else behind the nearest range before it. -/
theorem parseM3u8_ranges {text : Chars} (playlist : MediaLines)
    (written : lines text = playlist.lines)
    (fits : ∀ range, some range ∈ rangesFrom 0 playlist.segments → range.stop < 2 ^ 64) :
    ∃ resources map, parseM3u8 parseSeconds text baseUrl = .media resources map ∧
      ∀ k : Nat, resources[k]? = playlist.segments[k]?.map fun segment =>
        ⟨resolveUrl baseUrl segment.uri,
          segment.range?.map fun tag => ⟨tag.length.value, (tag.offset.map Decimal.value).getD
            (lastStop 0 ((resources.take k).map (·.range)))⟩,
          segmentDuration parseSeconds segment.infoLine⟩ := by
  have read : (parseMedia parseSeconds baseUrl playlist.lines 0 {}).segments =
      resourcesFrom parseSeconds baseUrl 0 playlist.segments := by
    rw [MediaLines.lines, parseMedia_segments, segments_trailing,
      segments_foldl_read {} parseSeconds baseUrl playlist.segments rfl fits]
    rfl
  refine ⟨resourcesFrom parseSeconds baseUrl 0 playlist.segments,
    (parseMedia parseSeconds baseUrl playlist.lines 0 {}).map, ?_, ?_⟩
  · simp only [parseM3u8, written, playlist.not_master, read]
    rfl
  · intro k
    rw [map_take, map_range_resourcesFrom, resourcesFrom, List.getElem?_zipWith,
      getElem?_rangesFrom]
    cases playlist.segments[k]? <;> rfl

end Reading

/-- Three segments: a range before the `#EXTINF`, none, and one behind it without an offset. -/
def threeSegments : MediaLines where
  segments :=
    [{ before := [.other ⟨"#EXTM3U".toList, by decide, by decide, by decide, by decide⟩,
          .range ⟨⟨['2'], by decide, by decide⟩, some ⟨['5'], by decide, by decide⟩⟩]
       info := "1,".toList
       after := []
       uri := ['a']
       not_tag := by decide
       single := by decide },
     ⟨[], "1,".toList, [], ['b'], by decide, by decide⟩,
     { before := []
       info := "1,".toList
       after := [.range ⟨⟨['3'], by decide, by decide⟩, none⟩]
       uri := ['a']
       not_tag := by decide
       single := by decide }]
  trailing := [⟨"#EXT-X-ENDLIST".toList, by decide, by decide, by decide, by decide⟩]

def threeSegmentsText : Chars :=
  ("#EXTM3U\n#EXT-X-BYTERANGE:2@5\n#EXTINF:1,\na\n#EXTINF:1,\nb\n" ++
    "#EXTINF:1,\n#EXT-X-BYTERANGE:3\na\n#EXT-X-ENDLIST\n").toList

/-- The range of the third segment starts at the end of the first one's. -/
theorem third_behind_first :
    rangesFrom 0 threeSegments.segments = [some ⟨2, 5⟩, none, some ⟨3, 7⟩] ∧
      ∃ resources map,
        parseM3u8 (fun _ => (none : Option Nat)) threeSegmentsText [] = .media resources map ∧
          resources[2]?.map (·.range) =
            some (some ⟨3, lastStop 0 ((resources.take 2).map (·.range))⟩) := by
  have ranges : rangesFrom 0 threeSegments.segments = [some ⟨2, 5⟩, none, some ⟨3, 7⟩] := by
    decide +kernel
  have written : lines threeSegmentsText = threeSegments.lines := by
    decide +kernel
  have fits : ∀ range, some range ∈ rangesFrom 0 threeSegments.segments →
      range.stop < 2 ^ 64 := by
    intro range inside
    rw [ranges] at inside
    simp only [mem_cons, Option.some.injEq, reduceCtorEq, not_mem_nil, or_false, false_or] at inside
    rcases inside with rfl | rfl
    · decide
    · decide
  refine ⟨ranges, ?_⟩
  obtain ⟨resources, map, parsed, segments⟩ :=
    parseM3u8_ranges (fun _ => (none : Option Nat)) [] threeSegments written fits
  refine ⟨resources, map, parsed, ?_⟩
  rw [segments 2]
  rfl

end M3u8

end KizunaLink.Hls
