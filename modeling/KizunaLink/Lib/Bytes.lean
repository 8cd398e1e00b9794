import Mathlib.Data.List.Induction
import Mathlib.Tactic.Ring

/-!
# Big-endian numbers and UTF-8 text as byte lists

`beBytes width value` writes a number most significant byte first and keeps
only its low `width` bytes, as a cast to a fixed-width integer followed by a
big-endian write does.  `beNat` reads such bytes back.
-/

set_option autoImplicit false

namespace KizunaLink.Lib

open List

def beBytes : Nat → Nat → List UInt8
  | 0, _ => []
  | width + 1, value => UInt8.ofNat (value / 256 ^ width) :: beBytes width value

def beNat (bytes : List UInt8) : Nat :=
  bytes.foldl (fun total byte => total * 256 + byte.toNat) 0

@[simp] theorem length_beBytes (width value : Nat) : (beBytes width value).length = width := by
  induction width with
  | zero => rfl
  | succ width ih => simp [beBytes, ih]

theorem foldl_beBytes (width value total : Nat) :
    (beBytes width value).foldl (fun total byte => total * 256 + byte.toNat) total =
      total * 256 ^ width + value % 256 ^ width := by
  induction width generalizing total with
  | zero => simp [beBytes, Nat.mod_one]
  | succ width ih =>
    have splitTop : value % (256 ^ width * 256) =
        value % 256 ^ width + 256 ^ width * (value / 256 ^ width % 256) := Nat.mod_mul
    rw [beBytes, foldl_cons, ih, UInt8.toNat_ofNat', pow_succ 256 width, splitTop]
    ring

theorem beNat_beBytes (width value : Nat) : beNat (beBytes width value) = value % 256 ^ width := by
  simp [beNat, foldl_beBytes]

theorem beNat_lt (bytes : List UInt8) : beNat bytes < 256 ^ bytes.length := by
  induction bytes using List.reverseRecOn with
  | nil => simp [beNat]
  | append_singleton bytes byte ih =>
    have small : byte.toNat < 256 := byte.toNat_lt
    simp only [beNat, foldl_append, foldl_cons, foldl_nil, length_append,
      length_cons, length_nil] at ih ⊢
    rw [zero_add, pow_succ]
    omega

def utf8 (text : String) : List UInt8 := text.toByteArray.data.toList

def fromUtf8 (bytes : List UInt8) : Option String := String.fromUTF8? ⟨bytes.toArray⟩

@[simp] theorem fromUtf8_utf8 (text : String) : fromUtf8 (utf8 text) = some text := by
  have valid : ByteArray.IsValidUTF8 ⟨(utf8 text).toArray⟩ := text.isValidUTF8
  rw [fromUtf8, String.fromUTF8?, dif_pos valid]
  rfl

theorem utf8_of_fromUtf8 {bytes : List UInt8} {text : String}
    (decoded : fromUtf8 bytes = some text) : utf8 text = bytes := by
  unfold fromUtf8 String.fromUTF8? at decoded
  split at decoded
  · cases decoded
    simp [utf8, String.fromUTF8]
  · cases decoded

end KizunaLink.Lib
