import KizunaLink.Lib.Bytes

/-!
# Standard base64

The RFC 4648 alphabet with mandatory canonical padding.  Decoding refuses a
text whose length is not a multiple of four, a character outside the alphabet,
padding anywhere but at the end, and nonzero bits under the padding.
-/

set_option autoImplicit false

namespace KizunaLink.Lib.Base64

def symbol (value : Nat) : Char :=
  if value < 26 then Char.ofNat (65 + value)
  else if value < 52 then Char.ofNat (71 + value)
  else if value < 62 then Char.ofNat (value - 4)
  else if value = 62 then '+'
  else '/'

def value? (char : Char) : Option Nat :=
  if 65 ≤ char.toNat ∧ char.toNat ≤ 90 then some (char.toNat - 65)
  else if 97 ≤ char.toNat ∧ char.toNat ≤ 122 then some (char.toNat - 71)
  else if 48 ≤ char.toNat ∧ char.toNat ≤ 57 then some (char.toNat + 4)
  else if char = '+' then some 62
  else if char = '/' then some 63
  else none

def encodeChars : List UInt8 → List Char
  | [] => []
  | [a] =>
    let n := a.toNat * 16
    [symbol (n / 64), symbol (n % 64), '=', '=']
  | [a, b] =>
    let n := (a.toNat * 256 + b.toNat) * 4
    [symbol (n / 4096), symbol (n / 64 % 64), symbol (n % 64), '=']
  | a :: b :: c :: rest =>
    let n := (a.toNat * 256 + b.toNat) * 256 + c.toNat
    symbol (n / 262144) :: symbol (n / 4096 % 64) :: symbol (n / 64 % 64) ::
      symbol (n % 64) :: encodeChars rest

def decodeChars : List Char → Option (List UInt8)
  | [] => some []
  | p :: q :: r :: s :: rest => do
      let p ← value? p
      let q ← value? q
      if s = '=' ∧ rest = [] then
        if r = '=' then
          if q % 16 = 0 then some [UInt8.ofNat ((p * 64 + q) / 16)] else none
        else
          let r ← value? r
          if r % 4 = 0 then
            let n := ((p * 64 + q) * 64 + r) / 4
            some [UInt8.ofNat (n / 256), UInt8.ofNat n]
          else none
      else
        let r ← value? r
        let s ← value? s
        let n := ((p * 64 + q) * 64 + r) * 64 + s
        let tail ← decodeChars rest
        some (UInt8.ofNat (n / 65536) :: UInt8.ofNat (n / 256) :: UInt8.ofNat n :: tail)
  | _ => none

def encode (bytes : List UInt8) : String := String.ofList (encodeChars bytes)

def decode (text : String) : Option (List UInt8) := decodeChars text.toList

theorem value?_symbol (value : Nat) (small : value < 64) : value? (symbol value) = some value := by
  have table : ∀ index : Fin 64, value? (symbol index) = some index.val := by decide
  exact table ⟨value, small⟩

theorem symbol_ne_pad (value : Nat) (small : value < 64) : symbol value ≠ '=' := by
  have table : ∀ index : Fin 64, symbol index ≠ '=' := by decide
  exact table ⟨value, small⟩

theorem ofNat_eq_of_mod (n : Nat) (byte : UInt8) (same : n % 256 = byte.toNat) :
    UInt8.ofNat n = byte := by
  apply UInt8.toNat.inj
  rw [UInt8.toNat_ofNat', same]

theorem decodeChars_encodeChars (bytes : List UInt8) :
    decodeChars (encodeChars bytes) = some bytes := by
  fun_induction encodeChars bytes with
  | case1 => rfl
  | case2 a n =>
    have small : a.toNat < 256 := a.toNat_lt
    have byte : UInt8.ofNat ((n / 64 * 64 + n % 64) / 16) = a :=
      ofNat_eq_of_mod _ _ (by omega)
    have clear : n % 64 % 16 = 0 := by omega
    simp [decodeChars, value?_symbol _ (show n / 64 < 64 by omega),
      value?_symbol _ (show n % 64 < 64 by omega), clear, byte]
  | case3 a b n =>
    have smallA : a.toNat < 256 := a.toNat_lt
    have smallB : b.toNat < 256 := b.toNat_lt
    have high : UInt8.ofNat (((n / 4096 * 64 + n / 64 % 64) * 64 + n % 64) / 4 / 256) = a :=
      ofNat_eq_of_mod _ _ (by omega)
    have low : UInt8.ofNat (((n / 4096 * 64 + n / 64 % 64) * 64 + n % 64) / 4) = b :=
      ofNat_eq_of_mod _ _ (by omega)
    have clear : n % 64 % 4 = 0 := by omega
    simp [decodeChars, value?_symbol _ (show n / 4096 < 64 by omega),
      value?_symbol _ (show n / 64 % 64 < 64 by omega),
      value?_symbol _ (show n % 64 < 64 by omega),
      symbol_ne_pad _ (show n % 64 < 64 by omega), clear, high, low]
  | case4 a b c rest n ih =>
    have smallA : a.toNat < 256 := a.toNat_lt
    have smallB : b.toNat < 256 := b.toNat_lt
    have smallC : c.toNat < 256 := c.toNat_lt
    have quantum :
        ((n / 262144 * 64 + n / 4096 % 64) * 64 + n / 64 % 64) * 64 + n % 64 = n := by omega
    have first : UInt8.ofNat (n / 65536) = a := ofNat_eq_of_mod _ _ (by omega)
    have second : UInt8.ofNat (n / 256) = b := ofNat_eq_of_mod _ _ (by omega)
    have third : UInt8.ofNat n = c := ofNat_eq_of_mod _ _ (by omega)
    simp only [decodeChars, value?_symbol _ (show n / 262144 < 64 by omega),
      value?_symbol _ (show n / 4096 % 64 < 64 by omega),
      value?_symbol _ (show n / 64 % 64 < 64 by omega),
      value?_symbol _ (show n % 64 < 64 by omega),
      symbol_ne_pad _ (show n % 64 < 64 by omega), quantum, first, second, third, ih,
      false_and, if_false, Option.bind_eq_bind, Option.bind_some]

@[simp] theorem decode_encode (bytes : List UInt8) : decode (encode bytes) = some bytes := by
  rw [decode, encode, String.toList_ofList, decodeChars_encodeChars]

theorem encode_ne_empty (bytes : List UInt8) (nonempty : bytes ≠ []) : encode bytes ≠ "" := by
  intro empty
  have decoded := decode_encode bytes
  rw [empty] at decoded
  exact nonempty (Option.some.inj decoded).symm

end KizunaLink.Lib.Base64
