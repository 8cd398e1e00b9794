import KizunaLink.Lib.Cidr
import KizunaLink.Lib.Ip
import KizunaLink.Lib.System

/-!
# The route planner

Model of `BalancingIpRoutePlanner` (lavalink/routeplanner/mod.rs).  Addresses are
their bits, `u32` for IPv4 and `u128` for IPv6; their sums wrap, and `overflowed`
says that one did (a build with overflow checks panics there).

`next_ip` takes the locks of both counters for its whole body and is one step,
and so is the test of the picked address against the failing ones.  Any number
of tasks may be in `get_address` at once.  The parser of the `ipnet` crate and
the printed form of an address are parameters.
-/

set_option autoImplicit false

namespace KizunaLink.Routing

open KizunaLink.Lib

inductive Address where
  | v4 (bits : BitVec 32)
  | v6 (bits : BitVec 128)
  deriving DecidableEq

/-- A parsed network keeps the address as it was written, with any host bits. -/
inductive IpNet where
  | v4 (net : Block 32)
  | v6 (net : Block 128)
  deriving DecidableEq

def IpNet.prefixLen : IpNet → Nat
  | .v4 net => net.prefixLen
  | .v6 net => net.prefixLen

def IpNet.maxBits : IpNet → Nat
  | .v4 _ => 32
  | .v6 _ => 128

def failExpireMs : Nat := 7 * 24 * 60 * 60 * 1000

structure Ipnet where
  fromStr : String → Except String IpNet
  display : Address → String

/-! ## Literals

A parser of networks on the address literals of the standard library, with the
bits of an address as its printed form. -/

def ipv4Bits (ip : Ipv4Addr) : BitVec 32 :=
  ip.a.toBitVec ++ ip.b.toBitVec ++ ip.c.toBitVec ++ ip.d.toBitVec

def ipv6Bits (ip : Ipv6Addr) : BitVec 128 :=
  ip.segments.toList.foldl (fun bits group => bits <<< 16 ||| group.toBitVec.setWidth 128) 0

/-- The prefix length that ends the text, at most `width`. -/
def readPrefixLen (width : Nat) (chars : Chars) : Option { length : Nat // length ≤ width } :=
  match chars with
  | '/' :: digits =>
    match readNumber 10 3 false digits with
    | some (length, []) => if bounded : length ≤ width then some ⟨length, bounded⟩ else none
    | some (_, _ :: _) | none => none
  | _ => none

def parseIpv4Net (text : Chars) : Option IpNet := do
  let (ip, rest) ← readIpv4Addr text
  let length ← readPrefixLen 32 rest
  some (.v4 ⟨ipv4Bits ip, length.val, length.property⟩)

def parseIpv6Net (text : Chars) : Option IpNet := do
  let (ip, rest) ← readIpv6Addr text
  let length ← readPrefixLen 128 rest
  some (.v6 ⟨ipv6Bits ip, length.val, length.property⟩)

def literalIpnet : Ipnet where
  fromStr text :=
    match (parseIpv4Net text.toList).orElse fun _ => parseIpv6Net text.toList with
    | some net => .ok net
    | none => .error "invalid IP address syntax"
  display
    | .v4 bits => toString bits.toNat
    | .v6 bits => toString bits.toNat

/-- The part of the index that a block of this width adds to its address. -/
def offsetIn {width : Nat} (net : Block width) (index : BitVec 128) : BitVec width :=
  if width ≤ net.prefixLen then 0
  else if net.prefixLen = 0 then index.setWidth width
  else index.setWidth width &&& (BitVec.allOnes width >>> net.prefixLen)

def calculateIp (net : IpNet) (index : BitVec 128) : Address :=
  match net with
  | .v4 net => .v4 (net.addr + offsetIn net index)
  | .v6 net => .v6 (net.addr + offsetIn net index)

/-- The sum of `calculate_ip` is over the width of the address. -/
def overflows (net : IpNet) (index : BitVec 128) : Bool :=
  match net with
  | .v4 net => decide (2 ^ 32 ≤ net.addr.toNat + (offsetIn net index).toNat)
  | .v6 net => decide (2 ^ 128 ≤ net.addr.toNat + (offsetIn net index).toNat)

def localhost : Address := .v4 0x7f000001

/-! ## The planner -/

/-- A task in `get_address`, with the rounds it has left. -/
inductive Caller where
  | idle
  | picking (rounds : Nat)
  | judging (rounds : Nat) (ip : Address)
  deriving DecidableEq

/-- `picked` and `returned` are what `next_ip` and `get_address` have returned. -/
structure Planner where
  parsedBlocks : List IpNet
  failing : String → Option Nat := fun _ => none
  blockIndex : Nat := 0
  ipIndices : List (BitVec 128)
  callers : Nat → Caller := fun _ => .idle
  overflowed : Bool := false
  picked : List Address := []
  returned : List (Option Address) := []

/-- A text without a prefix length is a block of one address. -/
def parseCidr (ipnet : Ipnet) (cidr : String) : Except String IpNet :=
  match ipnet.fromStr cidr with
  | .ok net => .ok net
  | .error _ =>
    let suffix := if cidr.toList.contains ':' then "/128" else "/32"
    match ipnet.fromStr (cidr ++ suffix) with
    | .ok net => .ok net
    | .error e => .error ("Invalid CIDR or IP '" ++ cidr ++ "' for route planner: " ++ e)

namespace Planner

def new (ipnet : Ipnet) (cidrs : List String) : Except String Planner := do
  let parsedBlocks ← cidrs.mapM (parseCidr ipnet)
  pure { parsedBlocks, ipIndices := List.replicate cidrs.length 0 }

variable (planner : Planner)

def pick (ip : Address) : Planner := { planner with picked := planner.picked ++ [ip] }

/-- The step of the index; `random` is drawn from ten to nineteen. -/
def increment (net : IpNet) (random : Nat) : BitVec 128 :=
  if 7 < net.maxBits - net.prefixLen then BitVec.ofNat 128 random else 1

def nextIp (random : Nat) : Planner × Address :=
  match planner.parsedBlocks[planner.blockIndex % planner.parsedBlocks.length]? with
  | none => (planner.pick localhost, localhost)
  | some net =>
    let blockIdx := planner.blockIndex % planner.parsedBlocks.length
    let finalIndex := planner.ipIndices.getD blockIdx 0 + increment net random
    let ip := calculateIp net finalIndex
    ({ planner.pick ip with
        ipIndices := planner.ipIndices.set blockIdx finalIndex
        blockIndex := (planner.blockIndex + 1) % planner.parsedBlocks.length
        overflowed := planner.overflowed || overflows net finalIndex }, ip)

def setCaller (task : Nat) (caller : Caller) : Planner :=
  { planner with callers := Function.update planner.callers task caller }

def answer (task : Nat) (ip : Option Address) : Planner :=
  { planner.setCaller task .idle with returned := planner.returned ++ [ip] }

def forget (address : String) : Planner :=
  { planner with failing := Function.update planner.failing address none }

/-- The end of a round: a failed address is passed over until it expires. -/
def judge (ipnet : Ipnet) (task rounds : Nat) (ip : Address) (now : Nat) : Planner :=
  match planner.failing (ipnet.display ip) with
  | none => planner.answer task (some ip)
  | some timestamp =>
    if timestamp + failExpireMs < now then
      (planner.forget (ipnet.display ip)).answer task (some ip)
    else
      match rounds with
      | 0 => planner.answer task none
      | rounds + 1 => planner.setCaller task (.picking rounds)

end Planner

inductive PlannerAct where
  | getAddress (task : Nat)
  | nextIp (task random : Nat)
  | judge (task now : Nat)
  | markFailed (address : String) (now : Nat)
  | freeAddress (address : String)
  | freeAllAddresses
  deriving DecidableEq, Repr

def Planner.step (ipnet : Ipnet) (planner : Planner) : PlannerAct → Option Planner
  | .getAddress task =>
    if planner.callers task = .idle then some (planner.setCaller task (.picking 99)) else none
  | .nextIp task random =>
    match planner.callers task with
    | .picking rounds =>
      if 10 ≤ random ∧ random < 20 then
        let (next, ip) := planner.nextIp random
        some (next.setCaller task (.judging rounds ip))
      else none
    | .idle | .judging _ _ => none
  | .judge task now =>
    match planner.callers task with
    | .judging rounds ip => some (planner.judge ipnet task rounds ip now)
    | .idle | .picking _ => none
  | .markFailed address now =>
    some { planner with failing := Function.update planner.failing address (some now) }
  | .freeAddress address => some (planner.forget address)
  | .freeAllAddresses => some { planner with failing := fun _ => none }

def plannerSystem (ipnet : Ipnet) : System Planner PlannerAct := ⟨Planner.step ipnet⟩

end KizunaLink.Routing
