import KizunaLink.Codec.Track
import KizunaLink.Lib.Reader

/-!
# Truncated track tokens

Every field of a track token says in its first bytes how long it is, so the
fields up to the position form an exact reader: a payload that was accepted is
rejected when it is cut anywhere in them.  What follows the position is optional
user data and is never the reason of a rejection.

`BinaryBuffer` is also modelled as the cursor it is, with an index into the
payload.  It does what the readers of the bytes left do, and looks at no index
outside the payload, whatever the bytes are.
-/

set_option autoImplicit false

namespace KizunaLink.Codec

open KizunaLink.Lib List

/-! ## The fields are exact readers -/

variable {payload : Bytes}

theorem readExact_exact (count : Nat) : Exact (readExact count) := by
  intro stream bytes rest success
  unfold readExact at success
  split at success
  case isFalse => cases success
  case isTrue enough =>
    cases success
    have size : (stream.take count).length = count := by
      rw [length_take]
      omega
    refine ⟨stream.take count, (take_append_drop count stream).symm, ?_, ?_⟩
    · intro other
      have read := readExact_append (stream.take count) other
      rwa [size] at read
    · intro part _ shorter
      have notEnough : ¬ count ≤ part.length := by omega
      exact ⟨.io .unexpectedEof, by rw [readExact, if_neg notEnough]⟩

theorem readBe_exact (width : Nat) : Exact (readBe width) :=
  (readExact_exact width).bind fun bytes => exact_pure (beNat bytes)

theorem readU8_exact : Exact readU8 :=
  (readBe_exact 1).bind fun value => exact_pure (UInt8.ofNat value)

theorem readU32_exact : Exact readU32 :=
  (readBe_exact 4).bind fun value => exact_pure (UInt32.ofNat value)

theorem readU64_exact : Exact readU64 :=
  (readBe_exact 8).bind fun value => exact_pure (UInt64.ofNat value)

/-- The text of the bytes that a string was read from. -/
def textOf (content : Bytes) : Read String := fun stream =>
  match fromUtf8 content with
  | some text => .ok (text, stream)
  | none => .error (.io .invalidData)

theorem textOf_exact (content : Bytes) : Exact (textOf content) := by
  unfold textOf
  cases fromUtf8 content with
  | none => exact exact_error _
  | some text => exact exact_pure text

theorem readString_exact : Exact readString :=
  (readBe_exact 2).bind fun size => (readExact_exact size).bind textOf_exact

theorem readNullableString_exact : Exact readNullableString :=
  readU8_exact.bind fun flag =>
    (readString_exact.bind fun text => exact_pure (some text)).ite (flag ≠ 0) (exact_pure none)

variable (version : UInt8)

theorem readUris_exact : Exact (readUris version) :=
  (readNullableString_exact.bind fun uri => exact_pure (uri, none, none)).ite (version = v2)
    ((readNullableString_exact.bind fun uri =>
      readNullableString_exact.bind fun artworkUrl =>
        readNullableString_exact.bind fun isrc => exact_pure (uri, artworkUrl, isrc)).ite
      (version = v3) (exact_pure (none, none, none)))

theorem readInfo_exact : Exact (readInfo version) := by
  unfold readInfo
  refine readString_exact.bind fun title => ?_
  refine readString_exact.bind fun author => ?_
  refine readU64_exact.bind fun length => ?_
  refine readString_exact.bind fun identifier => ?_
  refine readU8_exact.bind fun isStream => ?_
  refine (readUris_exact version).bind fun uris => ?_
  refine readString_exact.bind fun sourceName => ?_
  refine readU64_exact.bind fun position => ?_
  exact exact_pure _

theorem readVersion_exact (flags : UInt32) : Exact (readVersion flags) :=
  readU8_exact.ite (flags &&& 1 ≠ 0) (exact_pure v1)

/-- Everything from the header to the position. -/
def readMandatory : Read TrackInfo := fun stream => do
  let (envelope, stream) ← readU32 stream
  let (version, stream) ← readVersion ((envelope >>> 30) &&& 0x03) stream
  if ¬ (v1 ≤ version ∧ version ≤ v3) then .error (.unknownVersion version)
  else readInfo version stream

theorem readMandatory_exact : Exact readMandatory :=
  readU32_exact.bind fun envelope =>
    (readVersion_exact ((envelope >>> 30) &&& 0x03)).bind fun version =>
      (exact_error (CodecError.unknownVersion version)).ite (¬ (v1 ≤ version ∧ version ≤ v3))
        (readInfo_exact version)

def mandatoryLength (payload : Bytes) : Nat :=
  match readMandatory payload with
  | .ok (_, rest) => payload.length - rest.length
  | .error _ => 0

variable (json : SerdeJson)

/-- What decoding makes of the mandatory part and the bytes behind it. -/
def trackOf (encoded : String) (read : TrackInfo × Bytes) : Track :=
  { encoded := encoded
    info := read.1
    pluginInfo := .object []
    userData := readUserData json read.2 }

theorem readMandatory_short (short : payload.length < 4) :
    readMandatory payload = .error (.io .unexpectedEof) := by
  have notEnough : ¬ 4 ≤ payload.length := by omega
  simp [readMandatory, readU32, readBe, readExact, notEnough, bind, Except.bind]

theorem decodeTrack_eq {encoded : String} (nonempty : encoded ≠ "")
    (decoded : Base64.decode encoded = some payload) :
    decodeTrack json encoded =
      if payload.length < 4 then .error (.truncatedBuffer "header")
      else (readMandatory payload).map (trackOf json encoded) := by
  rw [decodeTrack, if_neg nonempty, decoded]
  by_cases short : payload.length < 4
  · simp only [if_pos short]
  · simp only [if_neg short, readMandatory]
    cases readU32 payload with
    | error problem => rfl
    | ok header =>
      obtain ⟨envelope, afterHeader⟩ := header
      simp only [bind, Except.bind]
      cases readVersion ((envelope >>> 30) &&& 0x03) afterHeader with
      | error problem => rfl
      | ok tagged =>
        obtain ⟨version, stream⟩ := tagged
        dsimp only
        split
        · rfl
        · cases readInfo version stream with
          | error _ | ok _ => rfl

theorem accepts_iff_mandatory {encoded : String} (decoded : Base64.decode encoded = some payload) :
    (∃ track, decodeTrack json encoded = .ok track) ↔
      ∃ read, readMandatory payload = .ok read := by
  by_cases empty : encoded = ""
  · have nothing : payload = [] := by
      rw [empty] at decoded
      have noBytes : Base64.decode "" = some [] := by decide
      exact (Option.some.inj (noBytes.symm.trans decoded)).symm
    have refused : decodeTrack json encoded = .error .emptyInput := by
      rw [decodeTrack, if_pos empty]
    rw [refused, nothing, readMandatory_short (by decide)]
    simp
  · rw [decodeTrack_eq json empty decoded]
    by_cases short : payload.length < 4
    · rw [if_pos short, readMandatory_short short]
      simp
    · rw [if_neg short]
      cases readMandatory payload with
      | error _ | ok _ => simp [Except.map]

/-! ## The buffer as a cursor -/

namespace BinaryBuffer

abbrev Scanner (Value : Type) := Scan UInt8 CodecError Value

def readExact (count : Nat) : Scanner Bytes := Scan.readExact (.io .unexpectedEof) count

def readBe (width : Nat) : Scanner Nat := do
  let bytes ← readExact width
  pure (beNat bytes)

def readU8 : Scanner UInt8 := do
  let value ← readBe 1
  pure (UInt8.ofNat value)

def readU32 : Scanner UInt32 := do
  let value ← readBe 4
  pure (UInt32.ofNat value)

def readU64 : Scanner UInt64 := do
  let value ← readBe 8
  pure (UInt64.ofNat value)

def fromUtf8 (content : Bytes) : Scanner String :=
  match Lib.fromUtf8 content with
  | some text => pure text
  | none => Scan.fail (.io .invalidData)

def readString : Scanner String := do
  let size ← readBe 2
  let content ← readExact size
  fromUtf8 content

def readNullableString : Scanner (Option String) := do
  let flag ← readU8
  if flag ≠ 0 then do
    let text ← readString
    pure (some text)
  else pure none

def readJson : Scanner Value := do
  let text ← readString
  match json.fromStr text with
  | some value => pure value
  | none => Scan.fail (.io .invalidData)

def readVersion (flags : UInt32) : Scanner UInt8 :=
  if flags &&& 1 ≠ 0 then readU8 else pure v1

def readUris : Scanner (Option String × Option String × Option String) :=
  if version = v2 then do
    let uri ← readNullableString
    pure (uri, none, none)
  else if version = v3 then do
    let uri ← readNullableString
    let artworkUrl ← readNullableString
    let isrc ← readNullableString
    pure (uri, artworkUrl, isrc)
  else pure (none, none, none)

def readInfo : Scanner TrackInfo := do
  let title ← readString
  let author ← readString
  let length ← readU64
  let identifier ← readString
  let isStream ← readU8
  let uris ← readUris version
  let sourceName ← readString
  let position ← readU64
  pure
    { identifier := identifier
      isSeekable := !(isStream != 0)
      author := author
      length := length
      isStream := isStream != 0
      position := position
      title := title
      uri := uris.1
      artworkUrl := uris.2.1
      isrc := uris.2.2
      sourceName := sourceName }

def readMandatory : Scanner TrackInfo := do
  let envelope ← readU32
  let version ← readVersion ((envelope >>> 30) &&& 0x03)
  if ¬ (v1 ≤ version ∧ version ≤ v3) then Scan.fail (.unknownVersion version)
  else readInfo version

/-- `decode_track` on the payload of a token, with the cursor it leaves behind. -/
def decodePayload (encoded : String) (payload : Bytes) : Except CodecError Track × Cursor UInt8 :=
  if payload.length < 4 then (.error (.truncatedBuffer "header"), { data := payload })
  else
    let decode : Scanner Track := do
      let info ← readMandatory
      let userData ← (readJson json).orElse (.object [])
      pure { encoded := encoded, info := info, pluginInfo := .object [], userData := userData }
    decode { data := payload }

/-! ### It follows the readers -/

variable (json : SerdeJson)

theorem readExact_follows (count : Nat) : (readExact count).Follows (Codec.readExact count) :=
  Scan.readExact_follows _ count

theorem readBe_follows (width : Nat) : (readBe width).Follows (Codec.readBe width) :=
  (readExact_follows width).bind fun bytes => Scan.follows_pure (beNat bytes)

theorem readU8_follows : readU8.Follows Codec.readU8 :=
  (readBe_follows 1).bind fun value => Scan.follows_pure (UInt8.ofNat value)

theorem readU32_follows : readU32.Follows Codec.readU32 :=
  (readBe_follows 4).bind fun value => Scan.follows_pure (UInt32.ofNat value)

theorem readU64_follows : readU64.Follows Codec.readU64 :=
  (readBe_follows 8).bind fun value => Scan.follows_pure (UInt64.ofNat value)

theorem fromUtf8_follows (content : Bytes) : (fromUtf8 content).Follows (textOf content) := by
  unfold fromUtf8 textOf
  cases Lib.fromUtf8 content with
  | none => exact Scan.follows_fail _
  | some text => exact Scan.follows_pure text

theorem readString_follows : readString.Follows Codec.readString :=
  (readBe_follows 2).bind fun size => (readExact_follows size).bind fromUtf8_follows

theorem readNullableString_follows : readNullableString.Follows Codec.readNullableString :=
  readU8_follows.bind fun flag =>
    (readString_follows.bind fun text => Scan.follows_pure (some text)).ite (flag ≠ 0)
      (Scan.follows_pure none)

theorem readVersion_follows (flags : UInt32) :
    (readVersion flags).Follows (Codec.readVersion flags) :=
  readU8_follows.ite (flags &&& 1 ≠ 0) (Scan.follows_pure v1)

theorem readUris_follows : (readUris version).Follows (Codec.readUris version) :=
  (readNullableString_follows.bind fun uri => Scan.follows_pure (uri, none, none)).ite
    (version = v2)
    ((readNullableString_follows.bind fun uri =>
      readNullableString_follows.bind fun artworkUrl =>
        readNullableString_follows.bind fun isrc =>
          Scan.follows_pure (uri, artworkUrl, isrc)).ite
      (version = v3) (Scan.follows_pure (none, none, none)))

theorem readInfo_follows : (readInfo version).Follows (Codec.readInfo version) := by
  unfold readInfo Codec.readInfo
  refine readString_follows.bind fun title => ?_
  refine readString_follows.bind fun author => ?_
  refine readU64_follows.bind fun length => ?_
  refine readString_follows.bind fun identifier => ?_
  refine readU8_follows.bind fun isStream => ?_
  refine (readUris_follows version).bind fun uris => ?_
  refine readString_follows.bind fun sourceName => ?_
  refine readU64_follows.bind fun position => ?_
  exact Scan.follows_pure _

theorem readMandatory_follows : readMandatory.Follows Codec.readMandatory :=
  readU32_follows.bind fun envelope =>
    (readVersion_follows ((envelope >>> 30) &&& 0x03)).bind fun version =>
      (Scan.follows_fail (CodecError.unknownVersion version)).ite
        (¬ (v1 ≤ version ∧ version ≤ v3)) (readInfo_follows version)

/-- The user data that the readers find. -/
def textValue (json : SerdeJson) (text : String) : Read Value := fun stream =>
  match json.fromStr text with
  | some value => .ok (value, stream)
  | none => .error (.io .invalidData)

theorem readJson_follows :
    (readJson json).Follows fun stream =>
      Codec.readString stream >>= fun read => textValue json read.1 read.2 := by
  refine readString_follows.bind fun text => ?_
  simp only [textValue]
  cases json.fromStr text with
  | none => exact Scan.follows_fail _
  | some value => exact Scan.follows_pure value

theorem readJson_orElse (cursor : Cursor UInt8) (inside : cursor.Inside) :
    ((readJson json).orElse (.object []) cursor).1 = .ok (readUserData json cursor.left) := by
  have follows := readJson_follows json
  have scanned : ∀ outcome, readJson json cursor = outcome →
      outcome.1 = (Codec.readString cursor.left >>= fun read =>
        textValue json read.1 read.2).map Prod.fst := by
    rintro outcome rfl
    cases read : (Codec.readString cursor.left >>= fun read => textValue json read.1 read.2) with
    | error problem => exact follows.error cursor problem inside read
    | ok result => exact (follows.ok cursor result.1 result.2 inside read).1
  simp only [Scan.orElse, readUserData]
  cases outcome : readJson json cursor with
  | mk result after =>
    have same := scanned _ outcome
    dsimp only at same
    subst same
    cases Codec.readString cursor.left with
    | error problem => rfl
    | ok read =>
      simp only [textValue, bind, Except.bind]
      cases json.fromStr read.1 with
      | none | some _ => rfl

/-- The cursor looks at no byte outside the payload, whatever the payload is. -/
theorem decodePayload_inside (encoded : String) (payload : Bytes) :
    (decodePayload json encoded payload).2.Inside ∧
      (decodePayload json encoded payload).2.data = payload := by
  have start : ({ data := payload } : Cursor UInt8).Inside :=
    ⟨Nat.zero_le _, fun index member => absurd member not_mem_nil⟩
  unfold decodePayload
  split
  · exact ⟨start, rfl⟩
  · refine Scan.StaysInside.bind readMandatory_follows.stays (fun info => ?_) _ start
    refine ((readJson_follows json).stays.orElse _).bind fun userData => ?_
    exact (Scan.follows_pure _).stays

theorem decodePayload_result {encoded : String} {payload : Bytes} (nonempty : encoded ≠ "")
    (decoded : Base64.decode encoded = some payload) :
    (decodePayload json encoded payload).1 = decodeTrack json encoded := by
  have start : ({ data := payload } : Cursor UInt8).Inside :=
    ⟨Nat.zero_le _, fun index member => absurd member not_mem_nil⟩
  rw [decodeTrack_eq json nonempty decoded, decodePayload]
  by_cases short : payload.length < 4
  · rw [if_pos short, if_pos short]
  · rw [if_neg short, if_neg short]
    dsimp only
    cases read : Codec.readMandatory payload with
    | error problem =>
      have scanned := readMandatory_follows.error { data := payload } problem start read
      rw [Scan.bind_of_error scanned]
      rfl
    | ok found =>
      obtain ⟨info, rest⟩ := found
      obtain ⟨scanned, left⟩ :=
        readMandatory_follows.ok { data := payload } info rest start read
      rw [Scan.bind_of_ok scanned]
      have inside := (readMandatory_follows.stays { data := payload } start).1
      have userData := readJson_orElse json _ inside
      rw [Scan.bind_of_ok userData, left]
      rfl

end BinaryBuffer

/-- A payload that `decode_track` accepts has a mandatory part, and a token for a prefix of
the payload is accepted just when the prefix holds all of it: a shorter one is rejected.
Whatever the payload of a token is, decoding looks at no byte outside it. -/
theorem truncated_tokens_rejected (json : SerdeJson) :
    (∀ (encoded : String) (payload : Bytes) (track : Track),
      Base64.decode encoded = some payload → decodeTrack json encoded = .ok track →
      mandatoryLength payload ≤ payload.length ∧
        ∀ (shortened : String) (part : Bytes), Base64.decode shortened = some part →
          part <+: payload →
          ((∃ other, decodeTrack json shortened = .ok other) ↔
            mandatoryLength payload ≤ part.length)) ∧
    ∀ (encoded : String) (payload : Bytes),
      (∀ index ∈ (BinaryBuffer.decodePayload json encoded payload).2.touched,
        index < payload.length) ∧
      (encoded ≠ "" → Base64.decode encoded = some payload →
        (BinaryBuffer.decodePayload json encoded payload).1 = decodeTrack json encoded) := by
  constructor
  · intro encoded payload track decoded accepted
    obtain ⟨⟨info, rest⟩, read⟩ := (accepts_iff_mandatory json decoded).mp ⟨track, accepted⟩
    have length : mandatoryLength payload = payload.length - rest.length := by
      rw [mandatoryLength, read]
    rw [length]
    refine ⟨Nat.sub_le _ _, fun shortened part partDecoded isPrefix => ?_⟩
    rw [accepts_iff_mandatory json partDecoded]
    exact readMandatory_exact.accepts_prefix_iff read isPrefix
  · intro encoded payload
    obtain ⟨inside, data⟩ := BinaryBuffer.decodePayload_inside json encoded payload
    refine ⟨fun index member => ?_, fun nonempty decoded =>
      BinaryBuffer.decodePayload_result json nonempty decoded⟩
    have within := inside.touched index member
    rwa [data] at within

/-- A token of version one with empty texts: thirty-one bytes, of which the user data are
the last two. -/
def emptyTexts : Bytes := List.replicate 31 0

def plainJson : SerdeJson := ⟨fun _ => "", fun _ => none⟩

theorem empty_texts_truncated :
    mandatoryLength emptyTexts = 29 ∧
      (∃ track, decodeTrack plainJson (Base64.encode (emptyTexts.take 29)) = .ok track) ∧
      ¬ ∃ track, decodeTrack plainJson (Base64.encode (emptyTexts.take 28)) = .ok track := by
  have length : mandatoryLength emptyTexts = 29 := by decide
  have present : ∃ read, readMandatory emptyTexts = .ok read := by
    cases found : readMandatory emptyTexts with
    | error problem => simp [mandatoryLength, found] at length
    | ok read => exact ⟨read, rfl⟩
  obtain ⟨track, accepted⟩ :=
    (accepts_iff_mandatory plainJson (Base64.decode_encode emptyTexts)).mpr present
  have law := ((truncated_tokens_rejected plainJson).1 _ emptyTexts track
    (Base64.decode_encode emptyTexts) accepted).2
  rw [length] at law
  refine ⟨length, ?_, ?_⟩
  · exact (law _ _ (Base64.decode_encode _) (List.take_prefix 29 emptyTexts)).mpr (by decide)
  · rw [law _ _ (Base64.decode_encode _) (List.take_prefix 28 emptyTexts)]
    decide

end KizunaLink.Codec
