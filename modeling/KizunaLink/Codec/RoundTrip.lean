import KizunaLink.Codec.Track

/-!
# When a track token decodes to the track it was made from

`encode_track` never fails.  It round trips exactly when every text of the
track, and the printed user data when it is written, fits the sixteen-bit
length field.  One longer text wraps its length field and shifts every field
behind it; a decoded text is always short, so it cannot be that one.
-/

set_option autoImplicit false

namespace KizunaLink.Codec

open KizunaLink.Lib List

structure FieldsFit (info : TrackInfo) : Prop where
  title : FitsU16 info.title
  author : FitsU16 info.author
  identifier : FitsU16 info.identifier
  uri : ∀ text ∈ info.uri, FitsU16 text
  artworkUrl : ∀ text ∈ info.artworkUrl, FitsU16 text
  isrc : ∀ text ∈ info.isrc, FitsU16 text
  sourceName : FitsU16 info.sourceName

def Written (userData : Value) : Prop := userData ≠ .null ∧ userData ≠ .object []

/-- Null decodes to the empty object, everything else to itself. -/
def decodedUserData : Value → Value
  | .null => .object []
  | userData => userData

/-- What encoding promises: the token decodes to the track it was made from, with
seekability recomputed. -/
def RoundTrips (json : SerdeJson) (info : TrackInfo) (userData : Value) : Prop :=
  ∀ token, encodeTrack json info userData = .ok token →
    ∃ track, decodeTrack json token = .ok track ∧
      track.info = { info with isSeekable := !info.isStream } ∧
      track.userData = decodedUserData userData

variable (json : SerdeJson) (info : TrackInfo) (userData : Value)

theorem writeUserData_of_written (written : Written userData) :
    writeUserData json userData = writeString (json.toString userData) := by
  cases userData with
  | null => exact absurd rfl written.1
  | object entries =>
    cases entries with
    | nil => exact absurd rfl written.2
    | cons entry rest => rfl
  | bool _ | number _ | string _ | array _ => rfl

theorem writeUserData_of_not_written (unwritten : ¬ Written userData) :
    writeUserData json userData = [] ∧ decodedUserData userData = .object [] := by
  by_cases null : userData = .null
  · subst null
    exact ⟨rfl, rfl⟩
  · have empty : userData = .object [] := by
      by_contra nonempty
      exact unwritten ⟨null, nonempty⟩
    subst empty
    exact ⟨rfl, rfl⟩

theorem decodedUserData_of_written (written : Written userData) :
    decodedUserData userData = userData := by
  cases userData with
  | null => exact absurd rfl written.1
  | bool _ | number _ | string _ | array _ | object _ => rfl

theorem toUInt8_ne_zero (value : Bool) : (value.toUInt8 != 0) = value := by
  cases value <;> rfl

theorem readInfo_writeInfo (rest : Bytes) (fits : FieldsFit info) :
    readInfo v3 (writeInfo info ++ rest) =
      .ok ({ info with isSeekable := !info.isStream }, rest) := by
  have uris : ∀ tail, readUris v3 (writeNullableString info.uri ++
      (writeNullableString info.artworkUrl ++ (writeNullableString info.isrc ++ tail))) =
      .ok ((info.uri, info.artworkUrl, info.isrc), tail) := by
    intro tail
    rw [readUris, if_neg (by decide), if_pos rfl,
      readNullableString_writeNullableString _ _ fits.uri]
    simp [bind, Except.bind, pure, Except.pure,
      readNullableString_writeNullableString _ _ fits.artworkUrl,
      readNullableString_writeNullableString _ _ fits.isrc]
  simp only [writeInfo, append_assoc]
  rw [readInfo, readString_writeString _ _ fits.title]
  simp [bind, Except.bind, pure, Except.pure, readString_writeString _ _ fits.author,
    readString_writeString _ _ fits.identifier, uris,
    readString_writeString _ _ fits.sourceName, toUInt8_ne_zero]

theorem header_flags (length : UInt32) :
    (((length ||| ((1 : UInt32) <<< 30)) >>> 30) &&& 0x03) &&& 1 ≠ 0 := by
  intro cleared
  have bit := congrArg (fun flags : UInt32 => flags.toBitVec.getLsbD 0) cleared
  simp at bit

/-- Decoding a token made by `encode_track` reads the fields and the user data
behind a valid version-three header. -/
theorem decodeTrack_token (token : String) (encoded : encodeTrack json info userData = .ok token) :
    decodeTrack json token = (do
      let (info, stream) ← readInfo v3 (writeInfo info ++ writeUserData json userData)
      pure
        { encoded := token
          info := info
          pluginInfo := .object []
          userData := readUserData json stream }) := by
  cases encoded
  have nonempty := Base64.encode_ne_empty (writeU32 (UInt32.ofNat (writeU8 v3 ++
    (writeInfo info ++ writeUserData json userData)).length ||| ((1 : UInt32) <<< 30)) ++
    (writeU8 v3 ++ (writeInfo info ++ writeUserData json userData)))
    (by simp [writeU32, beBytes])
  rw [decodeTrack, if_neg nonempty, Base64.decode_encode]
  dsimp only
  rw [if_neg (by simp [writeU32]), readU32_writeU32]
  simp only [bind, Except.bind, readVersion]
  rw [if_pos (header_flags _), readU8_writeU8]
  dsimp only
  rw [if_neg (by decide)]

/-! ## The exact condition -/

theorem readUris_ok {version : UInt8} {stream rest : Bytes}
    {uris : Option String × Option String × Option String}
    (success : readUris version stream = .ok (uris, rest)) :
    (∀ text ∈ uris.1, FitsU16 text) ∧ (∀ text ∈ uris.2.1, FitsU16 text) ∧
      (∀ text ∈ uris.2.2, FitsU16 text) := by
  unfold readUris at success
  split at success
  · obtain ⟨⟨uri, afterUri⟩, uriRead, success⟩ := bind_ok success
    cases success
    exact ⟨readNullableString_ok uriRead, by simp, by simp⟩
  · split at success
    · obtain ⟨⟨uri, afterUri⟩, uriRead, success⟩ := bind_ok success
      obtain ⟨⟨artworkUrl, afterArtwork⟩, artworkRead, success⟩ := bind_ok success
      obtain ⟨⟨isrc, afterIsrc⟩, isrcRead, success⟩ := bind_ok success
      cases success
      exact ⟨readNullableString_ok uriRead, readNullableString_ok artworkRead,
        readNullableString_ok isrcRead⟩
    · cases success
      exact ⟨by simp, by simp, by simp⟩

theorem readInfo_ok {version : UInt8} {stream rest : Bytes} {info : TrackInfo}
    (success : readInfo version stream = .ok (info, rest)) :
    FieldsFit info ∧ info.isSeekable = !info.isStream := by
  obtain ⟨⟨title, stream1⟩, titleRead, success⟩ := bind_ok success
  obtain ⟨⟨author, stream2⟩, authorRead, success⟩ := bind_ok success
  obtain ⟨⟨length, stream3⟩, _, success⟩ := bind_ok success
  obtain ⟨⟨identifier, stream4⟩, identifierRead, success⟩ := bind_ok success
  obtain ⟨⟨isStream, stream5⟩, _, success⟩ := bind_ok success
  obtain ⟨⟨uris, stream6⟩, urisRead, success⟩ := bind_ok success
  obtain ⟨⟨sourceName, stream7⟩, sourceRead, success⟩ := bind_ok success
  obtain ⟨⟨position, stream8⟩, _, success⟩ := bind_ok success
  cases success
  obtain ⟨uriFits, artworkFits, isrcFits⟩ := readUris_ok urisRead
  exact ⟨⟨(readString_ok titleRead).2, (readString_ok authorRead).2,
    (readString_ok identifierRead).2, uriFits, artworkFits, isrcFits,
    (readString_ok sourceRead).2⟩, rfl⟩

theorem fieldsFit_of_roundTrips (roundTrips : RoundTrips json info userData) : FieldsFit info := by
  obtain ⟨track, decoded, sameInfo, _⟩ := roundTrips _ rfl
  rw [decodeTrack_token json info userData _ rfl] at decoded
  obtain ⟨⟨readBack, stream⟩, read, decoded⟩ := bind_ok decoded
  cases decoded
  have fits := (readInfo_ok read).1
  dsimp only at sameInfo
  rw [sameInfo] at fits
  exact { fits with }

theorem roundTrips_iff_userData (fits : FieldsFit info) :
    RoundTrips json info userData ↔
      readUserData json (writeUserData json userData) = decodedUserData userData := by
  have decodes : ∀ token, encodeTrack json info userData = .ok token →
      decodeTrack json token = .ok
        { encoded := token
          info := { info with isSeekable := !info.isStream }
          pluginInfo := .object []
          userData := readUserData json (writeUserData json userData) } := by
    intro token encoded
    rw [decodeTrack_token json info userData token encoded, readInfo_writeInfo info _ fits]
    rfl
  constructor
  · intro roundTrips
    obtain ⟨track, decoded, _, sameData⟩ := roundTrips _ rfl
    rw [decodes _ rfl] at decoded
    cases decoded
    exact sameData
  · intro sameData token encoded
    exact ⟨_, decodes token encoded, rfl, sameData⟩

theorem readUserData_writeString (text : String) (fits : FitsU16 text) :
    readUserData json (writeString text) = (json.fromStr text).getD (.object []) := by
  have read := readString_writeString text [] fits
  rw [append_nil] at read
  rw [readUserData, read]

theorem readUserData_writeUserData (printed : json.fromStr (json.toString userData) = some userData)
    (fits : Written userData → FitsU16 (json.toString userData)) :
    readUserData json (writeUserData json userData) = decodedUserData userData := by
  by_cases written : Written userData
  · rw [writeUserData_of_written json userData written,
      decodedUserData_of_written userData written,
      readUserData_writeString json _ (fits written), printed]
    rfl
  · obtain ⟨nothing, empty⟩ := writeUserData_of_not_written json userData written
    rw [nothing, empty]
    rfl

/-- Printed user data that does not fit is never read back as itself. -/
theorem readUserData_oversized (written : Written userData)
    (noPrefix : ∀ text, utf8 text <+: utf8 (json.toString userData) →
      text ≠ json.toString userData → json.fromStr text ≠ some userData)
    (oversized : ¬ FitsU16 (json.toString userData)) :
    readUserData json (writeString (json.toString userData)) ≠ userData := by
  unfold readUserData
  cases read : readString (writeString (json.toString userData)) with
  | error problem => exact fun same => written.2 same.symm
  | ok result =>
    obtain ⟨text, rest⟩ := result
    have read' : readString (writeString (json.toString userData) ++ []) = .ok (text, rest) := by
      rw [append_nil]
      exact read
    obtain ⟨isPrefix, different⟩ := readString_oversized oversized read'
    cases parsed : json.fromStr text with
    | none => exact fun same => written.2 (by simpa [parsed] using same.symm)
    | some value =>
      intro same
      apply noPrefix text isPrefix different
      rw [parsed]
      simpa [parsed] using same

/-- For every track and user data: the token round trips if and only if every
text fits its length field. -/
theorem roundTrips_iff_fits (json : SerdeJson) (info : TrackInfo) (userData : Value)
    (printed : json.fromStr (json.toString userData) = some userData)
    (noPrefix : ∀ text, utf8 text <+: utf8 (json.toString userData) →
      text ≠ json.toString userData → json.fromStr text ≠ some userData) :
    RoundTrips json info userData ↔
      FieldsFit info ∧ (Written userData → FitsU16 (json.toString userData)) := by
  constructor
  · intro roundTrips
    have fits := fieldsFit_of_roundTrips json info userData roundTrips
    refine ⟨fits, fun written => ?_⟩
    by_contra oversized
    have sameData := (roundTrips_iff_userData json info userData fits).mp roundTrips
    rw [writeUserData_of_written json userData written,
      decodedUserData_of_written userData written] at sameData
    exact readUserData_oversized json userData written noPrefix oversized sameData
  · rintro ⟨fits, dataFits⟩
    apply (roundTrips_iff_userData json info userData fits).mpr
    exact readUserData_writeUserData json userData printed dataFits

/-- serde_json on the one object used below; every other value prints as null here. -/
def sampleJson : SerdeJson where
  toString userData :=
    match userData with
    | .object [("a", .number (.posInt 1))] => "\x7b\"a\":1\x7d"
    | _ => "null"
  fromStr text :=
    if text = "\x7b\"a\":1\x7d" then some (.object [("a", .number (.posInt 1))])
    else if text = "null" then some .null
    else none

def sampleInfo (title : String) : TrackInfo where
  identifier := "dQw4w9WgXcQ"
  isSeekable := false
  author := "RickAstleyVEVO"
  length := 212000
  isStream := false
  position := 0
  title := title
  uri := some "https://www.youtube.com/watch?v=dQw4w9WgXcQ"
  artworkUrl := none
  isrc := none
  sourceName := "youtube"

theorem roundTrips_short_track :
    RoundTrips sampleJson (sampleInfo "Never Gonna Give You Up")
      (.object [("a", .number (.posInt 1))]) := by
  refine (roundTrips_iff_fits sampleJson _ _ rfl ?_).mpr ⟨?_, fun _ => by decide⟩
  · intro text _ different
    have other : sampleJson.fromStr text = if text = "null" then some .null else none :=
      if_neg different
    rw [other]
    split <;> simp
  · exact ⟨by decide, by decide, by decide, by decide, by decide, by decide, by decide⟩

/-- A title of 65536 one-byte characters. -/
def wrappedTitle : String := String.ofList (List.replicate 65536 'a')

theorem length_utf8_replicate (count : Nat) :
    (utf8 (String.ofList (List.replicate count 'a'))).length = count := by
  have oneByte : Char.utf8Size 'a' = 1 := rfl
  simp [utf8, List.utf8Encode, length_flatMap, oneByte]

theorem wrapped_title_does_not_round_trip :
    sampleJson.fromStr (sampleJson.toString .null) = some .null ∧
      ¬ RoundTrips sampleJson (sampleInfo wrappedTitle) .null := by
  refine ⟨rfl, fun roundTrips => ?_⟩
  have fits := (fieldsFit_of_roundTrips sampleJson _ _ roundTrips).title
  have length : (utf8 wrappedTitle).length = 65536 := length_utf8_replicate 65536
  exact absurd fits (by simp [FitsU16, sampleInfo, length])

end KizunaLink.Codec
