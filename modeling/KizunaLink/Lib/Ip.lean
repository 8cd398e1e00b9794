import Mathlib.Data.List.Basic
import Mathlib.Tactic.Ring

/-!
# Internet addresses

The address types of the Rust standard library with the predicates on them,
and its parser for address literals.  The parser reads characters from the
left; a reader returns its value with the characters it left.
-/

set_option autoImplicit false

namespace KizunaLink.Lib

structure Ipv4Addr where
  a : UInt8
  b : UInt8
  c : UInt8
  d : UInt8
  deriving DecidableEq, Repr

structure Ipv6Addr where
  segments : Vector UInt16 8
  deriving DecidableEq, Repr

inductive IpAddr where
  | v4 (addr : Ipv4Addr)
  | v6 (addr : Ipv6Addr)
  deriving DecidableEq, Repr

structure SocketAddr where
  ip : IpAddr
  port : UInt16
  deriving DecidableEq, Repr

namespace Ipv4Addr

variable (ip : Ipv4Addr)

def isLoopback : Bool := ip.a == 127

def isPrivate : Bool :=
  ip.a == 10 || (ip.a == 172 && (ip.b &&& 0xf0) == 16) || (ip.a == 192 && ip.b == 168)

def isLinkLocal : Bool := ip.a == 169 && ip.b == 254

def isMulticast : Bool := decide (224 ≤ ip.a) && decide (ip.a ≤ 239)

def isUnspecified : Bool := ip.a == 0 && ip.b == 0 && ip.c == 0 && ip.d == 0

def isDocumentation : Bool :=
  (ip.a == 192 && ip.b == 0 && ip.c == 2) || (ip.a == 198 && ip.b == 51 && ip.c == 100) ||
    (ip.a == 203 && ip.b == 0 && ip.c == 113)

end Ipv4Addr

namespace Ipv6Addr

variable (ip : Ipv6Addr)

def segment (index : Fin 8) : UInt16 := ip.segments.get index

def isLoopback : Bool := ip.segments == #v[0, 0, 0, 0, 0, 0, 0, 1]

def isUnspecified : Bool := ip.segments == #v[0, 0, 0, 0, 0, 0, 0, 0]

/-- The segment that tells the special ranges apart. -/
def firstSegment : UInt16 := ip.segment 0

def isMulticast : Bool := (ip.firstSegment &&& 0xff00) == 0xff00

/-- The address behind the `::ffff:0:0/96` prefix. -/
def toIpv4Mapped : Option Ipv4Addr :=
  if ip.segment 0 = 0 ∧ ip.segment 1 = 0 ∧ ip.segment 2 = 0 ∧ ip.segment 3 = 0 ∧
      ip.segment 4 = 0 ∧ ip.segment 5 = 0xffff then
    some
      { a := (ip.segment 6 >>> 8).toUInt8
        b := (ip.segment 6).toUInt8
        c := (ip.segment 7 >>> 8).toUInt8
        d := (ip.segment 7).toUInt8 }
  else none

end Ipv6Addr

/-! ## Address literals -/

abbrev Chars := List Char

def digitValue (radix : Nat) (char : Char) : Option Nat :=
  let value :=
    if '0' ≤ char ∧ char ≤ '9' then char.toNat - 48
    else if 'a' ≤ char ∧ char ≤ 'f' then char.toNat - 87
    else if 'A' ≤ char ∧ char ≤ 'F' then char.toNat - 55
    else radix
  if value < radix then some value else none

/-- Up to `limit` further digits behind the value read so far. -/
def readDigits (radix : Nat) : Nat → Nat → Chars → Nat × Nat × Chars
  | _, value, [] => (0, value, [])
  | 0, value, char :: rest =>
    match digitValue radix char with
    | none => (0, value, char :: rest)
    | some _ => (1, value, char :: rest)
  | limit + 1, value, char :: rest =>
    match digitValue radix char with
    | none => (0, value, char :: rest)
    | some digit =>
      let (count, total, left) := readDigits radix limit (value * radix + digit) rest
      (count + 1, total, left)

/-- A number of one to `maxDigits` digits; one more digit is a failure, and so
is a leading zero before other digits unless allowed. -/
def readNumber (radix maxDigits : Nat) (zeroPrefix : Bool) (chars : Chars) :
    Option (Nat × Chars) :=
  let (count, value, left) := readDigits radix maxDigits 0 chars
  if count = 0 ∨ maxDigits < count then none
  else if !zeroPrefix && decide (1 < count) && chars.head? == some '0' then none
  else some (value, left)

/-- The separator precedes every part but the first. -/
def readSeparator (separator : Char) (index : Nat) (chars : Chars) : Option Chars :=
  if index = 0 then some chars
  else
    match chars with
    | char :: rest => if char = separator then some rest else none
    | [] => none

def readOctet (index : Nat) (chars : Chars) : Option (UInt8 × Chars) := do
  let chars ← readSeparator '.' index chars
  let (value, left) ← readNumber 10 3 false chars
  if value < 256 then some (UInt8.ofNat value, left) else none

def readIpv4Addr (chars : Chars) : Option (Ipv4Addr × Chars) := do
  let (a, chars) ← readOctet 0 chars
  let (b, chars) ← readOctet 1 chars
  let (c, chars) ← readOctet 2 chars
  let (d, chars) ← readOctet 3 chars
  some (⟨a, b, c, d⟩, chars)

/-- Groups from `index` up to `index + room`, the last two of which may be an
embedded IPv4 address; returns the groups and whether one was embedded. -/
def readGroups : Nat → Nat → Chars → List UInt16 × Bool × Chars
  | 0, _, chars => ([], false, chars)
  | room + 1, index, chars =>
    let embedded :=
      if 0 < room then (readSeparator ':' index chars).bind readIpv4Addr else none
    match embedded with
    | some (ip, left) =>
      ([ip.a.toUInt16 <<< 8 ||| ip.b.toUInt16, ip.c.toUInt16 <<< 8 ||| ip.d.toUInt16],
        true, left)
    | none =>
      match (readSeparator ':' index chars).bind (readNumber 16 4 true) with
      | none => ([], false, chars)
      | some (group, left) =>
        let (groups, ipv4, left) := readGroups room (index + 1) left
        (UInt16.ofNat group :: groups, ipv4, left)

def Ipv6Addr.ofGroups (groups : List UInt16) : Ipv6Addr :=
  ⟨Vector.ofFn fun index => groups.getD index.val 0⟩

def readIpv6Addr (chars : Chars) : Option (Ipv6Addr × Chars) :=
  match readGroups 8 0 chars with
  | (head, headIpv4, left) =>
    if head.length = 8 then some (Ipv6Addr.ofGroups head, left)
    else if headIpv4 then none
    else
      match left with
      | ':' :: ':' :: left =>
        let (tail, _, left) := readGroups (7 - head.length) 0 left
        let zeros := List.replicate (8 - head.length - tail.length) 0
        some (Ipv6Addr.ofGroups (head ++ zeros ++ tail), left)
      | _ => none

def parseIpv4 (text : Chars) : Option Ipv4Addr :=
  match readIpv4Addr text with
  | some (ip, []) => some ip
  | _ => none

def parseIpv6 (text : Chars) : Option Ipv6Addr :=
  match readIpv6Addr text with
  | some (ip, []) => some ip
  | _ => none

def parseIp (text : Chars) : Option IpAddr :=
  match parseIpv4 text with
  | some ip => some (.v4 ip)
  | none => (parseIpv6 text).map .v6

theorem readNumber_bracket (radix maxDigits : Nat) (zeroPrefix : Bool) (rest : Chars) :
    readNumber radix maxDigits zeroPrefix ('[' :: rest) = none := by
  have notDigit : digitValue radix '[' = none := by
    unfold digitValue
    simp
  have none : readDigits radix maxDigits 0 ('[' :: rest) = (0, 0, '[' :: rest) := by
    cases maxDigits <;> simp [readDigits, notDigit]
  simp [readNumber, none]

theorem readIpv4Addr_bracket (rest : Chars) : readIpv4Addr ('[' :: rest) = none := by
  simp [readIpv4Addr, readOctet, readSeparator, readNumber_bracket]

theorem parseIp_bracket (rest : Chars) : parseIp ('[' :: rest) = none := by
  have groups : readGroups 8 0 ('[' :: rest) = ([], false, '[' :: rest) := by
    simp [readGroups, readSeparator, readIpv4Addr_bracket, readNumber_bracket]
  simp [parseIp, parseIpv4, parseIpv6, readIpv4Addr_bracket, readIpv6Addr, groups]

example : parseIp "::ffff:127.0.0.1".toList =
    some (.v6 ⟨#v[0, 0, 0, 0, 0, 0xffff, 0x7f00, 1]⟩) := by decide

end KizunaLink.Lib
