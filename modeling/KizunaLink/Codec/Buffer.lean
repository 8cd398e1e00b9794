import KizunaLink.Lib.Bytes
import KizunaLink.Lib.Result

/-!
# The binary buffer of track tokens

Model of `BinaryBuffer` in lavalink/protocol/codec/io.rs.  A reader takes the
bytes behind the cursor and returns its value with the bytes it left; a writer
returns the bytes it appends.  An I/O error carries its kind.

The string writer casts the byte length to sixteen bits, so it never fails:
a longer text is written whole behind a wrapped length.
-/

set_option autoImplicit false

namespace KizunaLink.Codec

open KizunaLink.Lib List

abbrev Bytes := List UInt8

inductive IoErrorKind where
  | unexpectedEof
  | invalidData
  deriving DecidableEq, Repr

inductive CodecError where
  | emptyInput
  | truncatedBuffer (what : String)
  | unknownVersion (version : UInt8)
  | base64
  | io (kind : IoErrorKind)
  deriving DecidableEq, Repr

abbrev Read (Value : Type) := Bytes → Except CodecError (Value × Bytes)

def readExact (count : Nat) : Read Bytes := fun stream =>
  if count ≤ stream.length then .ok (stream.take count, stream.drop count)
  else .error (.io .unexpectedEof)

def readBe (width : Nat) : Read Nat := fun stream => do
  let (bytes, stream) ← readExact width stream
  pure (beNat bytes, stream)

def readU8 : Read UInt8 := fun stream => do
  let (value, stream) ← readBe 1 stream
  pure (UInt8.ofNat value, stream)

def readU32 : Read UInt32 := fun stream => do
  let (value, stream) ← readBe 4 stream
  pure (UInt32.ofNat value, stream)

def readU64 : Read UInt64 := fun stream => do
  let (value, stream) ← readBe 8 stream
  pure (UInt64.ofNat value, stream)

def readString : Read String := fun stream => do
  let (size, stream) ← readBe 2 stream
  let (content, stream) ← readExact size stream
  match fromUtf8 content with
  | some text => pure (text, stream)
  | none => .error (.io .invalidData)

def readNullableString : Read (Option String) := fun stream => do
  let (flag, stream) ← readU8 stream
  if flag ≠ 0 then
    let (text, stream) ← readString stream
    pure (some text, stream)
  else pure (none, stream)

def writeU8 (value : UInt8) : Bytes := beBytes 1 value.toNat

def writeU32 (value : UInt32) : Bytes := beBytes 4 value.toNat

def writeU64 (value : UInt64) : Bytes := beBytes 8 value.toNat

def writeString (text : String) : Bytes :=
  beBytes 2 (utf8 text).length ++ utf8 text

def writeNullableString : Option String → Bytes
  | some text => writeU8 1 ++ writeString text
  | none => writeU8 0

def FitsU16 (text : String) : Prop := (utf8 text).length < 65536

instance (text : String) : Decidable (FitsU16 text) :=
  inferInstanceAs (Decidable ((utf8 text).length < 65536))

theorem readExact_append (bytes rest : Bytes) :
    readExact bytes.length (bytes ++ rest) = .ok (bytes, rest) := by
  simp [readExact]

theorem readBe_beBytes (width value : Nat) (rest : Bytes) :
    readBe width (beBytes width value ++ rest) = .ok (value % 256 ^ width, rest) := by
  have read := readExact_append (beBytes width value) rest
  rw [length_beBytes] at read
  rw [readBe, read, ← beNat_beBytes]
  rfl

@[simp] theorem readU8_writeU8 (value : UInt8) (rest : Bytes) :
    readU8 (writeU8 value ++ rest) = .ok (value, rest) := by
  have small : value.toNat % 256 ^ 1 = value.toNat := Nat.mod_eq_of_lt value.toNat_lt
  rw [readU8, writeU8, readBe_beBytes, small]
  simp [bind, Except.bind, pure, Except.pure]

@[simp] theorem readU32_writeU32 (value : UInt32) (rest : Bytes) :
    readU32 (writeU32 value ++ rest) = .ok (value, rest) := by
  have small : value.toNat % 256 ^ 4 = value.toNat := Nat.mod_eq_of_lt value.toNat_lt
  rw [readU32, writeU32, readBe_beBytes, small]
  simp [bind, Except.bind, pure, Except.pure]

@[simp] theorem readU64_writeU64 (value : UInt64) (rest : Bytes) :
    readU64 (writeU64 value ++ rest) = .ok (value, rest) := by
  have small : value.toNat % 256 ^ 8 = value.toNat := Nat.mod_eq_of_lt value.toNat_lt
  rw [readU64, writeU64, readBe_beBytes, small]
  simp [bind, Except.bind, pure, Except.pure]

theorem readString_writeString (text : String) (rest : Bytes) (fits : FitsU16 text) :
    readString (writeString text ++ rest) = .ok (text, rest) := by
  have size : (utf8 text).length % 256 ^ 2 = (utf8 text).length := Nat.mod_eq_of_lt fits
  rw [readString, writeString, append_assoc, readBe_beBytes, size]
  simp [bind, Except.bind, pure, Except.pure, readExact_append]

theorem readNullableString_writeNullableString (text : Option String) (rest : Bytes)
    (fits : ∀ value ∈ text, FitsU16 value) :
    readNullableString (writeNullableString text ++ rest) = .ok (text, rest) := by
  cases text with
  | none =>
    rw [readNullableString, writeNullableString, readU8_writeU8]
    rfl
  | some value =>
    rw [readNullableString, writeNullableString, append_assoc, readU8_writeU8]
    simp [bind, Except.bind, pure, Except.pure,
      readString_writeString value rest (fits value rfl)]

/-- The bytes consumed by a successful string read: the length field says how
many bytes of text follow it. -/
theorem readString_ok {stream rest : Bytes} {text : String}
    (success : readString stream = .ok (text, rest)) :
    utf8 text = (stream.drop 2).take (beNat (stream.take 2)) ∧ FitsU16 text := by
  obtain ⟨⟨size, afterSize⟩, sizeRead, success⟩ := bind_ok success
  obtain ⟨⟨content, afterContent⟩, contentRead, success⟩ := bind_ok success
  obtain ⟨⟨sizeBytes, afterBytes⟩, bytesRead, sizeExact⟩ := bind_ok sizeRead
  cases sizeExact
  unfold readExact at bytesRead contentRead
  split at bytesRead
  · rename_i enough
    cases bytesRead
    split at contentRead
    · cases contentRead
      cases decoded : fromUtf8 ((stream.drop 2).take (beNat (stream.take 2))) with
      | none => simp [decoded] at success
      | some value =>
        simp only [decoded] at success
        cases success
        have exact := utf8_of_fromUtf8 decoded
        have small := beNat_lt (stream.take 2)
        rw [length_take, Nat.min_eq_left enough] at small
        refine ⟨exact, ?_⟩
        unfold FitsU16
        rw [exact, length_take]
        exact lt_of_le_of_lt (Nat.min_le_left _ _) small
    · cases contentRead
  · cases bytesRead

theorem readString_oversized {text read : String} {rest left : Bytes} (oversized : ¬ FitsU16 text)
    (success : readString (writeString text ++ rest) = .ok (read, left)) :
    utf8 read <+: utf8 text ∧ read ≠ text := by
  obtain ⟨exact, fits⟩ := readString_ok success
  have size : (writeString text ++ rest).take 2 = beBytes 2 (utf8 text).length := by
    rw [writeString, append_assoc]
    exact List.take_left' (length_beBytes 2 _)
  have content : (writeString text ++ rest).drop 2 = utf8 text ++ rest := by
    rw [writeString, append_assoc]
    exact List.drop_left' (length_beBytes 2 _)
  have short : beNat (beBytes 2 (utf8 text).length) ≤ (utf8 text).length := by
    rw [beNat_beBytes]
    exact Nat.mod_le _ _
  constructor
  · rw [exact, size, content, take_append_of_le_length short]
    exact List.take_prefix _ _
  · intro same
    exact oversized (same ▸ fits)

theorem readNullableString_ok {stream rest : Bytes} {text : Option String}
    (success : readNullableString stream = .ok (text, rest)) :
    ∀ value ∈ text, FitsU16 value := by
  obtain ⟨⟨flag, afterFlag⟩, _, success⟩ := bind_ok success
  dsimp only at success
  split at success
  · obtain ⟨⟨value, left⟩, read, success⟩ := bind_ok success
    cases success
    intro other member
    cases member
    exact (readString_ok read).2
  · cases success
    intro other member
    cases member

end KizunaLink.Codec
