import KizunaLink.Lib.Ip
import KizunaLink.Source.FetchStream

/-!
# Reading a playlist

Model of `parse_m3u8` (media/sources/youtube/hls/parser.rs) with the helpers of
hls/utils.rs and the types of hls/types.rs, on the characters of the texts.

The loops over line numbers are recursions over the lines: where the code looks
ahead past tag lines and goes on behind the line it found there, the recursion
carries the number of lines it still has to skip.  The map from audio groups to their
renditions is the list of all renditions in the order they are pushed; a group is
those that name it.  The decimal seconds of `#EXTINF` are read by a parameter.
-/

set_option autoImplicit false

namespace KizunaLink.Hls

open KizunaLink.Lib KizunaLink.Source

structure ByteRange where
  length : Nat
  offset : Nat
  deriving DecidableEq, Repr

namespace M3u8

def isWhitespace (char : Char) : Bool :=
  let code := char.toNat
  (9 ≤ code && code ≤ 13) || code == 0x20 || code == 0x85 || code == 0xA0 || code == 0x1680 ||
    (0x2000 ≤ code && code ≤ 0x200A) || code == 0x2028 || code == 0x2029 || code == 0x202F ||
    code == 0x205F || code == 0x3000

def trimMatches (matching : Char → Bool) (text : Chars) : Chars :=
  ((text.dropWhile matching).reverse.dropWhile matching).reverse

def trim (text : Chars) : Chars := trimMatches isWhitespace text

def startsWith (text : Chars) (pattern : String) : Bool := pattern.toList.isPrefixOf text

def stripPrefix (text : Chars) (pattern : String) : Option Chars :=
  if startsWith text pattern then some (text.drop pattern.length) else none

/-- `find`: what stands before the first occurrence and what stands behind it. -/
def find (needle : Chars) : Chars → Option (Chars × Chars)
  | [] => if needle = [] then some ([], []) else none
  | char :: rest =>
    if needle.isPrefixOf (char :: rest) then some ([], (char :: rest).drop needle.length)
    else (find needle rest).map fun (front, back) => (char :: front, back)

def contains (text : Chars) (needle : String) : Bool := (find needle.toList text).isSome

/-- `split(separator).next()`. -/
def beforeFirst (separator : Char) (text : Chars) : Chars := text.takeWhile (· ≠ separator)

/-- `text.lines().map(str::trim)`: a last line that is empty is none, and a carriage return
before the line feed is trimmed with the rest. -/
def lines (text : Chars) : List Chars :=
  let parts := text.splitOn '\n'
  (if parts.getLast? = some [] then parts.dropLast else parts).map trim

/-- Attributes follow `#TAG:` or a comma. -/
def extractAttrStr (line : Chars) (key : String) : Option Chars := do
  let keyEq := key.toList ++ ['=']
  let (_, rest) ← (find (':' :: keyEq) line).or (find (',' :: keyEq) line)
  match rest with
  | '"' :: stripped => (find ['"'] stripped).map Prod.fst
  | rest => some (trim (beforeFirst ',' rest))

def extractAttrU64 (line : Chars) (key : String) : Option Nat :=
  (extractAttrStr line key).bind parseDigits

def resolveUrl (base maybeRelative : Chars) : Chars :=
  if startsWith maybeRelative "http://" || startsWith maybeRelative "https://" then maybeRelative
  else
    let baseClean := beforeFirst '#' (beforeFirst '?' base)
    let relative :=
      -- up to the last slash with it, or all of a base without one
      let baseDir :=
        if '/' ∈ baseClean then (baseClean.reverse.dropWhile (· ≠ '/')).reverse else baseClean
      baseDir ++ maybeRelative
    match startsWith maybeRelative "/", find "://".toList baseClean with
    | true, some (scheme, rest) => scheme ++ "://".toList ++ beforeFirst '/' rest ++ maybeRelative
    | _, _ => relative

def parseByteRange (attr : Chars) (lastEndOffset : Nat) : ByteRange :=
  let number (text : Chars) : Nat := (parseDigits (trim text)).getD 0
  match (trimMatches (· == '"') (trim attr)).splitOn '@' with
  | length :: offset :: _ => ⟨number length, number offset⟩
  | [length] => ⟨number length, lastEndOffset⟩
  | [] => ⟨0, lastEndOffset⟩

variable {Seconds : Type}

structure Resource (Seconds : Type) where
  url : Chars
  range : Option ByteRange
  duration : Option Seconds
  deriving DecidableEq, Repr

structure Variant where
  url : Chars
  bandwidth : Nat
  codecs : Chars
  isAudioOnly : Bool
  audioGroup : Option Chars
  deriving DecidableEq, Repr

structure Media where
  type : Chars
  groupId : Chars
  uri : Option Chars
  isDefault : Bool
  deriving DecidableEq, Repr

structure Master where
  variants : List Variant := []
  renditions : List Media := []
  deriving DecidableEq, Repr

/-- `audio_groups.get(group_id)`. -/
def Master.audioGroup (master : Master) (groupId : Chars) : Option (List Media) :=
  match master.renditions.filter (·.groupId = groupId) with
  | [] => none
  | group => some group

inductive M3u8Playlist (Seconds : Type) where
  | master (master : Master)
  | media (segments : List (Resource Seconds)) (map : Option (Resource Seconds))
  deriving DecidableEq, Repr

def isTag (line : Chars) : Bool := startsWith line "#"

def audioCodecs : List String := ["mp4a", "opus", "aac"]

def videoCodecs : List String :=
  ["avc1", "hvc1", "hev1", "dvh1", "vp09", "av01", "vp9", "av1", "vp8", "h264", "h265", "mp4v"]

/-- What an `#EXT-X-MEDIA` line adds. -/
def mediaOf (baseUrl line : Chars) : Option Media :=
  let type := (extractAttrStr line "TYPE").getD []
  let groupId := (extractAttrStr line "GROUP-ID").getD []
  let uri := (extractAttrStr line "URI").map (resolveUrl baseUrl)
  let isDefault := extractAttrStr line "DEFAULT" == some "YES".toList
  if type = "AUDIO".toList ∧ groupId ≠ [] then some ⟨type, groupId, uri, isDefault⟩ else none

/-- The variant of an `#EXT-X-STREAM-INF` line with the line of its URL. -/
def variantOf (baseUrl line urlLine : Chars) : Variant :=
  let codecs := (extractAttrStr line "CODECS").getD []
  { url := resolveUrl baseUrl urlLine
    bandwidth := (extractAttrU64 line "BANDWIDTH").getD 0
    codecs
    isAudioOnly := audioCodecs.any (contains codecs) && !videoCodecs.any (contains codecs)
    audioGroup := extractAttrStr line "AUDIO" }

def parseMaster (baseUrl : Chars) : List Chars → Nat → Master → Master
  | [], _, master => master
  | _ :: rest, skip + 1, master => parseMaster baseUrl rest skip master
  | line :: rest, 0, master =>
    if startsWith line "#EXT-X-MEDIA" then
      parseMaster baseUrl rest 0
        { master with renditions := master.renditions ++ (mediaOf baseUrl line).toList }
    else if startsWith line "#EXT-X-STREAM-INF" then
      let tags := (rest.takeWhile isTag).length
      let found := rest[tags]?.filter (· ≠ [])
      parseMaster baseUrl rest (tags + 1)
        { master with
          variants := master.variants ++ (found.map (variantOf baseUrl line)).toList }
    else parseMaster baseUrl rest 0 master

structure MediaScan (Seconds : Type) where
  segments : List (Resource Seconds) := []
  map : Option (Resource Seconds) := none
  nextOffset : Nat := 0
  pendingRange : Option ByteRange := none

/-- A line `#EXT-X-BYTERANGE:`, read in the loop and by the look-ahead alike; the end of the
range saturates. -/
def MediaScan.takeRange (scan : MediaScan Seconds) (line : Chars) : MediaScan Seconds :=
  match stripPrefix line "#EXT-X-BYTERANGE:" with
  | some stripped =>
    let range := parseByteRange stripped scan.nextOffset
    { scan with
      nextOffset := min (range.offset + range.length) (2 ^ 64 - 1)
      pendingRange := some range }
  | none => scan

def MediaScan.takeMap (scan : MediaScan Seconds) (baseUrl line : Chars) : MediaScan Seconds :=
  match extractAttrStr line "URI" with
  | some uri =>
    let range := (extractAttrStr line "BYTERANGE").map (parseByteRange · 0)
    { scan with map := some ⟨resolveUrl baseUrl uri, range, none⟩ }
  | none => scan

def MediaScan.pushSegment (scan : MediaScan Seconds) (url : Chars) (duration : Option Seconds) :
    MediaScan Seconds :=
  { scan with
    segments := scan.segments ++ [⟨url, scan.pendingRange, duration⟩]
    pendingRange := none }

variable (parseSeconds : Chars → Option Seconds)

def segmentDuration (line : Chars) : Option Seconds :=
  (stripPrefix line "#EXTINF:").bind fun rest => parseSeconds (trim (beforeFirst ',' rest))

def parseMedia (parseSeconds : Chars → Option Seconds) (baseUrl : Chars) :
    List Chars → Nat → MediaScan Seconds → MediaScan Seconds
  | [], _, scan => scan
  | _ :: rest, skip + 1, scan => parseMedia parseSeconds baseUrl rest skip scan
  | line :: rest, 0, scan =>
    if startsWith line "#EXT-X-MAP" then
      parseMedia parseSeconds baseUrl rest 0 (scan.takeMap baseUrl line)
    else if startsWith line "#EXT-X-BYTERANGE:" then
      parseMedia parseSeconds baseUrl rest 0 (scan.takeRange line)
    else if startsWith line "#EXTINF:" then
      let tags := rest.takeWhile isTag
      let scan := tags.foldl MediaScan.takeRange scan
      match rest[tags.length]? with
      | some urlLine =>
        parseMedia parseSeconds baseUrl rest (tags.length + 1)
          (scan.pushSegment (resolveUrl baseUrl urlLine) (segmentDuration parseSeconds line))
      -- only tags are left: they are read once more
      | none => parseMedia parseSeconds baseUrl rest 0 scan
    else parseMedia parseSeconds baseUrl rest 0 scan

theorem parseMedia_skip (baseUrl : Chars) (lines : List Chars) (skip : Nat)
    (scan : MediaScan Seconds) :
    parseMedia parseSeconds baseUrl lines skip scan =
      parseMedia parseSeconds baseUrl (lines.drop skip) 0 scan := by
  induction lines generalizing skip with
  | nil => simp [parseMedia]
  | cons line rest ih =>
    cases skip with
    | zero => rfl
    | succ skip => exact ih skip

def parseM3u8 (text baseUrl : Chars) : M3u8Playlist Seconds :=
  let lines := lines text
  if lines.any (startsWith · "#EXT-X-STREAM-INF") then .master (parseMaster baseUrl lines 0 {})
  else
    let scan := parseMedia parseSeconds baseUrl lines 0 {}
    .media scan.segments scan.map

end M3u8

end KizunaLink.Hls
