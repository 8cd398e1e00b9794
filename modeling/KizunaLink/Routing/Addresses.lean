import KizunaLink.Lib.Result
import KizunaLink.Routing.Planner

/-!
# Which addresses the route planner returns

The index of a block enters its addresses modulo the size of the block, so a
block yields its written address plus any offset below its size.  The addresses
stay inside the configured networks exactly when this window does, for every
block.  A block written with its first address has its window in itself; one
with host bits set leaves it, at the latest with its largest offset.  Without
any block the planner returns the loopback address.
-/

set_option autoImplicit false

namespace KizunaLink.Routing

open KizunaLink.Lib List

/-! ## Networks -/

namespace IpNet

def Contains (net : IpNet) (address : Address) : Prop :=
  match net, address with
  | .v4 net, .v4 bits => net.Contains bits
  | .v6 net, .v6 bits => net.Contains bits
  | .v4 _, .v6 _ | .v6 _, .v4 _ => False

instance (net : IpNet) (address : Address) : Decidable (net.Contains address) :=
  match net, address with
  | .v4 net, .v4 bits => inferInstanceAs (Decidable (net.Contains bits))
  | .v6 net, .v6 bits => inferInstanceAs (Decidable (net.Contains bits))
  | .v4 _, .v6 _ | .v6 _, .v4 _ => .isFalse id

/-- Written with its first address. -/
def Canonical : IpNet → Prop
  | .v4 net => net.Canonical
  | .v6 net => net.Canonical

instance : DecidablePred Canonical
  | .v4 net => inferInstanceAs (Decidable net.Canonical)
  | .v6 net => inferInstanceAs (Decidable net.Canonical)

def size : IpNet → Nat
  | .v4 net => net.size
  | .v6 net => net.size

def firstNat : IpNet → Nat
  | .v4 net => net.addr.toNat
  | .v6 net => net.addr.toNat

def addressAt (net : IpNet) (offset : Nat) : Address :=
  match net with
  | .v4 net => .v4 (net.addr + BitVec.ofNat 32 offset)
  | .v6 net => .v6 (net.addr + BitVec.ofNat 128 offset)

/-- The window of a block, from its written address on, neither wraps nor leaves the
networks. -/
def Covered (nets : List IpNet) (net : IpNet) : Prop :=
  ∀ offset < net.size, net.firstNat + offset < 2 ^ net.maxBits ∧
    ∃ other ∈ nets, other.Contains (net.addressAt offset)

theorem size_pos (net : IpNet) : 0 < net.size := by
  cases net with
  | v4 net => exact net.size_pos
  | v6 net => exact net.size_pos

theorem size_le (net : IpNet) : net.size ≤ 2 ^ 128 := by
  cases net with
  | v4 _ | v6 _ => exact Nat.pow_le_pow_right Nat.two_pos (by omega)

end IpNet

variable {offset : Nat} {width : Nat} (net : Block width) (index : BitVec 128)

theorem offsetIn_toNat : (offsetIn net index).toNat = index.toNat % net.size := by
  have divides : net.size ∣ 2 ^ width := ⟨2 ^ net.prefixLen, net.size_mul.symm⟩
  unfold offsetIn
  by_cases single : width ≤ net.prefixLen
  · have one : net.size = 1 := by
      rw [Block.size, Nat.sub_eq_zero_of_le single, Nat.pow_zero]
    rw [if_pos single, one, Nat.mod_one]
    simp
  · rw [if_neg single]
    by_cases all : net.prefixLen = 0
    · have whole : net.size = 2 ^ width := by rw [Block.size, all, Nat.sub_zero]
      rw [if_pos all, BitVec.toNat_setWidth, whole]
    · rw [if_neg all, toNat_and_allOnes_shift _ net.bounded, BitVec.toNat_setWidth]
      exact Nat.mod_mod_of_dvd _ divides

theorem toNat_ofNat_offset (small : offset < net.size) :
    (BitVec.ofNat width offset).toNat = offset := by
  have bound : net.size ≤ 2 ^ width := Nat.pow_le_pow_right Nat.two_pos (Nat.sub_le _ _)
  rw [BitVec.toNat_ofNat, Nat.mod_eq_of_lt (Nat.lt_of_lt_of_le small bound)]

theorem offsetIn_eq : offsetIn net index = BitVec.ofNat width (index.toNat % net.size) := by
  apply BitVec.eq_of_toNat_eq
  rw [offsetIn_toNat, toNat_ofNat_offset net (Nat.mod_lt _ net.size_pos)]

theorem calculateIp_eq (net : IpNet) (index : BitVec 128) :
    calculateIp net index = net.addressAt (index.toNat % net.size) := by
  cases net with
  | v4 _ | v6 _ => rw [calculateIp, offsetIn_eq]; rfl

theorem overflows_iff (net : IpNet) (index : BitVec 128) :
    overflows net index = false ↔
      net.firstNat + index.toNat % net.size < 2 ^ net.maxBits := by
  cases net with
  | v4 _ | v6 _ => simp [overflows, offsetIn_toNat, IpNet.firstNat, IpNet.size, IpNet.maxBits]

theorem window_of_canonical {net : Block width} (canonical : net.Canonical)
    (small : offset < net.size) :
    net.addr.toNat + offset < 2 ^ width ∧ net.Contains (net.addr + BitVec.ofNat width offset) := by
  have fits := toNat_ofNat_offset net small
  have reaches := canonical.reaches (lt_of_eq_of_lt fits small)
  rwa [Block.Reaches, fits] at reaches

theorem IpNet.Canonical.covered {net : IpNet} {nets : List IpNet} (canonical : net.Canonical)
    (member : net ∈ nets) : net.Covered nets := by
  intro offset small
  cases net with
  | v4 net =>
    obtain ⟨fits, inside⟩ := window_of_canonical canonical small
    exact ⟨fits, .v4 net, member, inside⟩
  | v6 net =>
    obtain ⟨fits, inside⟩ := window_of_canonical canonical small
    exact ⟨fits, .v6 net, member, inside⟩

/-! ## Runs -/

namespace Planner

def Configured (planner : Planner) (ip : Address) : Prop :=
  ∃ net ∈ planner.parsedBlocks, net.Contains ip

/-- What was returned lies in the networks, and no sum has wrapped; the block index stays
below the number of blocks. -/
structure StaysInside (planner : Planner) : Prop where
  picked : ∀ ip ∈ planner.picked, planner.Configured ip
  returned : ∀ ip, some ip ∈ planner.returned → planner.Configured ip
  noOverflow : planner.overflowed = false
  blockIndex : planner.blockIndex ≤ planner.parsedBlocks.length

def Judged (planner : Planner) : Prop :=
  ∀ task rounds ip, planner.callers task = .judging rounds ip → planner.Configured ip

variable {planner : Planner}

theorem Judged.setCaller (judged : planner.Judged) (task : Nat) {caller : Caller}
    (known : ∀ rounds ip, caller = .judging rounds ip → planner.Configured ip) :
    (planner.setCaller task caller).Judged := by
  intro other rounds ip judging
  simp only [Planner.setCaller, Function.update_apply] at judging
  split at judging
  · exact known rounds ip judging
  · exact judged other rounds ip judging

theorem nextIp_parsedBlocks (planner : Planner) (random : Nat) :
    (planner.nextIp random).1.parsedBlocks = planner.parsedBlocks := by
  unfold nextIp
  split <;> rfl

theorem nextIp_callers (planner : Planner) (random : Nat) :
    (planner.nextIp random).1.callers = planner.callers := by
  unfold nextIp
  split <;> rfl

/-- The blocks that the planner was made with, each with its window in them. -/
structure Sound (planner : Planner) : Prop where
  nonempty : planner.parsedBlocks ≠ []
  covered : ∀ net ∈ planner.parsedBlocks, net.Covered planner.parsedBlocks

theorem nextIp_configured (sound : planner.Sound) (random : Nat) :
    planner.Configured (planner.nextIp random).2 := by
  have positive := length_pos_of_ne_nil sound.nonempty
  have within := Nat.mod_lt planner.blockIndex positive
  unfold nextIp
  rw [List.getElem?_eq_getElem within]
  dsimp only
  rw [calculateIp_eq]
  have member := getElem_mem within
  exact (sound.covered _ member _ (Nat.mod_lt _ (IpNet.size_pos _))).2

theorem StaysInside.nextIp (inside : planner.StaysInside) (sound : planner.Sound)
    (random : Nat) : (planner.nextIp random).1.StaysInside := by
  have positive := length_pos_of_ne_nil sound.nonempty
  have within := Nat.mod_lt planner.blockIndex positive
  have configured := nextIp_configured sound random
  have fits := overflows_iff planner.parsedBlocks[planner.blockIndex % planner.parsedBlocks.length]
  unfold Planner.nextIp at configured ⊢
  rw [List.getElem?_eq_getElem within] at configured ⊢
  dsimp only at configured ⊢
  refine ⟨?_, inside.returned, ?_, ?_⟩
  · intro ip member
    rcases mem_append.mp member with earlier | now
    · exact inside.picked ip earlier
    · cases mem_singleton.mp now
      exact configured
  · have member := getElem_mem within
    rw [inside.noOverflow, Bool.false_or, fits]
    exact (sound.covered _ member _ (Nat.mod_lt _ (IpNet.size_pos _))).1
  · exact Nat.le_of_lt (Nat.mod_lt _ positive)

theorem StaysInside.answer (inside : planner.StaysInside) (task : Nat) {ip : Option Address}
    (configured : ∀ found ∈ ip, planner.Configured found) :
    (planner.answer task ip).StaysInside := by
  refine { inside with returned := ?_ }
  intro found member
  rcases mem_append.mp member with earlier | now
  · exact inside.returned found earlier
  · exact configured found (mem_singleton.mp now).symm

structure Safe (planner : Planner) : Prop where
  sound : planner.Sound
  inside : planner.StaysInside
  judged : planner.Judged

section

variable (safe : planner.Safe)
include safe

theorem Safe.setCaller (task : Nat) {caller : Caller}
    (known : ∀ rounds ip, caller = .judging rounds ip → planner.Configured ip) :
    (planner.setCaller task caller).Safe := by
  obtain ⟨sound, inside, judged⟩ := safe
  exact ⟨⟨sound.nonempty, sound.covered⟩,
    { inside with },
    judged.setCaller task known⟩

theorem Safe.answer (task : Nat) {ip : Option Address}
    (configured : ∀ found ∈ ip, planner.Configured found) : (planner.answer task ip).Safe := by
  have idle : (planner.setCaller task .idle).Safe :=
    safe.setCaller task fun rounds ip judging => by cases judging
  exact ⟨⟨idle.sound.nonempty, idle.sound.covered⟩, safe.inside.answer task configured,
    idle.judged⟩

theorem Safe.setFailing (failing : String → Option Nat) : { planner with failing }.Safe := by
  obtain ⟨sound, inside, judged⟩ := safe
  exact ⟨⟨sound.nonempty, sound.covered⟩,
    { inside with }, judged⟩

theorem Safe.judge (ipnet : Ipnet) (task rounds : Nat) {ip : Address}
    (configured : planner.Configured ip) (now : Nat) :
    (planner.judge ipnet task rounds ip now).Safe := by
  have found : ∀ other ∈ some ip, planner.Configured other := by
    intro other member
    cases member
    exact configured
  unfold Planner.judge
  split
  · exact safe.answer task found
  · split
    · exact (safe.setFailing _).answer task found
    · cases rounds with
      | zero => exact safe.answer task fun other member => by cases member
      | succ rounds => exact safe.setCaller task fun rounds ip judging => by cases judging

theorem Safe.step {ipnet : Ipnet} {act : PlannerAct} {next : Planner}
    (stepped : planner.step ipnet act = some next) : next.Safe := by
  cases act with
  | getAddress task =>
    obtain ⟨-, rfl⟩ := Option.ite_some_none_eq_some.mp stepped
    exact safe.setCaller task fun rounds ip judging => by cases judging
  | nextIp task random =>
    simp only [Planner.step] at stepped
    split at stepped
    · obtain ⟨-, rfl⟩ := Option.ite_some_none_eq_some.mp stepped
      have blocks := nextIp_parsedBlocks planner random
      have configured := nextIp_configured safe.sound random
      have after : (planner.nextIp random).1.Safe := by
        refine ⟨?_, safe.inside.nextIp safe.sound random, ?_⟩
        · exact ⟨blocks ▸ safe.sound.nonempty, blocks ▸ safe.sound.covered⟩
        · intro other rounds ip judging
          rw [nextIp_callers] at judging
          rw [Configured, blocks]
          exact safe.judged other rounds ip judging
      refine after.setCaller task fun rounds ip judging => ?_
      cases judging
      rw [Configured, blocks]
      exact configured
    · cases stepped
    · cases stepped
  | judge task now =>
    simp only [Planner.step] at stepped
    split at stepped
    case h_1 rounds ip judging =>
      cases stepped
      exact safe.judge ipnet task rounds (safe.judged task rounds ip judging) now
    · cases stepped
    · cases stepped
  | markFailed _ _ | freeAddress _ | freeAllAddresses =>
    cases stepped
    exact safe.setFailing _

end

def startingAt (planner : Planner) (blockIndex : Nat) (ipIndices : List (BitVec 128)) : Planner :=
  { planner with blockIndex, ipIndices }

/-- Whatever its counters start with and whatever is called, the planner stays inside. -/
def AlwaysInside (ipnet : Ipnet) (planner : Planner) : Prop :=
  ∀ blockIndex ipIndices, blockIndex ≤ planner.parsedBlocks.length →
    ipIndices.length = planner.parsedBlocks.length →
    ∀ acts final, (plannerSystem ipnet).run (planner.startingAt blockIndex ipIndices) acts =
      some final → final.StaysInside

def pickOnce : List PlannerAct := [.getAddress 0, .nextIp 0 10]

theorem run_pickOnce (planner : Planner) (ipnet : Ipnet) (idle : planner.callers 0 = .idle) :
    ∃ final, (plannerSystem ipnet).run planner pickOnce = some final ∧
      final.parsedBlocks = planner.parsedBlocks ∧
      final.picked = (planner.nextIp 10).1.picked ∧
      final.overflowed = (planner.nextIp 10).1.overflowed := by
  have called : (planner.setCaller 0 (.picking 99)).nextIp 10 =
      ((planner.nextIp 10).1.setCaller 0 (.picking 99), (planner.nextIp 10).2) := by
    unfold nextIp
    cases found : planner.parsedBlocks[planner.blockIndex % planner.parsedBlocks.length]? with
    | none | some _ => simp only [setCaller, found, pick]
  refine ⟨((planner.nextIp 10).1.setCaller 0 (.picking 99)).setCaller 0
    (.judging 99 (planner.nextIp 10).2), ?_, nextIp_parsedBlocks planner 10, rfl, rfl⟩
  have first : (plannerSystem ipnet).step planner (.getAddress 0) =
      some (planner.setCaller 0 (.picking 99)) := by
    simp [plannerSystem, step, idle]
  have second : (plannerSystem ipnet).step (planner.setCaller 0 (.picking 99)) (.nextIp 0 10) =
      some (((planner.nextIp 10).1.setCaller 0 (.picking 99)).setCaller 0
        (.judging 99 (planner.nextIp 10).2)) := by
    have caller : (planner.setCaller 0 (.picking 99)).callers 0 = .picking 99 := by
      simp [setCaller]
    simp [plannerSystem, step, caller, called]
  rw [pickOnce, System.run_cons_of_step _ _ first, System.run_cons_of_step _ _ second]
  rfl

end Planner

theorem parsed_length {ipnet : Ipnet} {cidrs : List String} {blocks : List IpNet}
    (parsed : cidrs.mapM (parseCidr ipnet) = .ok blocks) : blocks.length = cidrs.length := by
  induction cidrs generalizing blocks with
  | nil =>
    cases parsed
    rfl
  | cons cidr rest ih =>
    rw [mapM_cons] at parsed
    obtain ⟨net, -, parsed⟩ := bind_ok parsed
    obtain ⟨nets, others, parsed⟩ := bind_ok parsed
    cases parsed
    rw [length_cons, length_cons, ih others]

theorem Planner.new_ok {ipnet : Ipnet} {cidrs : List String} {planner : Planner}
    (constructed : Planner.new ipnet cidrs = .ok planner) :
    planner.parsedBlocks.length = cidrs.length ∧
      planner = { parsedBlocks := planner.parsedBlocks
                  ipIndices := List.replicate cidrs.length 0 } := by
  obtain ⟨blocks, parsed, constructed⟩ := bind_ok constructed
  cases constructed
  exact ⟨parsed_length parsed, rfl⟩

theorem nextIp_at_offset {planner : Planner} {place : Nat} {net : IpNet}
    (found : planner.parsedBlocks[place]? = some net) (small : offset < net.size) :
    let indices := List.replicate planner.parsedBlocks.length
      (BitVec.ofNat 128 offset - Planner.increment net 10)
    let picked := ((planner.startingAt place indices).nextIp 10).1
    picked.picked = planner.picked ++ [net.addressAt offset] ∧
      (picked.overflowed = false → net.firstNat + offset < 2 ^ net.maxBits) := by
  intro indices
  obtain ⟨within, _⟩ := List.getElem?_eq_some_iff.mp found
  have start : place % planner.parsedBlocks.length = place := Nat.mod_eq_of_lt within
  have index : indices.getD place 0 + Planner.increment net 10 = BitVec.ofNat 128 offset := by
    have stored : indices.getD place 0 = BitVec.ofNat 128 offset - Planner.increment net 10 := by
      simp [indices, within]
    rw [stored, BitVec.sub_add_cancel]
  have inSize : (BitVec.ofNat 128 offset).toNat % net.size = offset := by
    have wide := net.size_le
    rw [BitVec.toNat_ofNat, Nat.mod_eq_of_lt (Nat.lt_of_lt_of_le small wide),
      Nat.mod_eq_of_lt small]
  have ip : calculateIp net (BitVec.ofNat 128 offset) = net.addressAt offset := by
    rw [calculateIp_eq, inSize]
  have wraps := overflows_iff net (BitVec.ofNat 128 offset)
  rw [inSize] at wraps
  simp only [Planner.nextIp, Planner.startingAt, Planner.pick, start, found, index, ip]
  refine ⟨trivial, fun none => wraps.mp ?_⟩
  exact (Bool.or_eq_false_iff.mp none).2

namespace Planner

variable {planner : Planner} {ipnet : Ipnet}

theorem AlwaysInside.nonempty (always : planner.AlwaysInside ipnet)
    (idle : planner.callers 0 = .idle) : planner.parsedBlocks ≠ [] := by
  intro empty
  obtain ⟨final, reached, blocks, picked, -⟩ :=
    run_pickOnce (planner.startingAt 0 []) ipnet idle
  have inside := always 0 [] (Nat.zero_le _) (by rw [empty]; rfl) _ final reached
  have loopback : localhost ∈ final.picked := by
    rw [picked]
    simp [nextIp, startingAt, empty, pick]
  obtain ⟨net, member, -⟩ := inside.picked _ loopback
  rw [blocks, startingAt, empty] at member
  cases member

theorem AlwaysInside.covered (always : planner.AlwaysInside ipnet)
    (idle : planner.callers 0 = .idle) {net : IpNet} (member : net ∈ planner.parsedBlocks) :
    net.Covered planner.parsedBlocks := by
  intro offset small
  obtain ⟨place, found⟩ := List.mem_iff_getElem?.mp member
  obtain ⟨within, _⟩ := List.getElem?_eq_some_iff.mp found
  obtain ⟨atOffset, fits⟩ := nextIp_at_offset found small
  obtain ⟨final, reached, blocks, picked, overflowed⟩ := run_pickOnce
    (planner.startingAt place (List.replicate planner.parsedBlocks.length
      (BitVec.ofNat 128 offset - increment net 10))) ipnet idle
  have inside := always _ _ (Nat.le_of_lt within) length_replicate _ final reached
  refine ⟨fits (overflowed ▸ inside.noOverflow), ?_⟩
  have pickedHere : net.addressAt offset ∈ final.picked := by
    rw [picked, atOffset]
    exact mem_append_right _ mem_cons_self
  obtain ⟨other, known, contains⟩ := inside.picked _ pickedHere
  exact ⟨other, blocks ▸ known, contains⟩

/-- A new planner, whatever its counters, is safe when its blocks are. -/
theorem safe_startingAt {cidrs : List String} (constructed : new ipnet cidrs = .ok planner)
    (sound : planner.Sound) {blockIndex : Nat} (ipIndices : List (BitVec 128))
    (within : blockIndex ≤ planner.parsedBlocks.length) :
    (planner.startingAt blockIndex ipIndices).Safe := by
  obtain ⟨-, fresh⟩ := new_ok constructed
  refine ⟨⟨sound.nonempty, sound.covered⟩, ⟨?_, ?_, ?_, within⟩, ?_⟩
  · intro ip member
    rw [startingAt, fresh] at member
    cases member
  · intro ip member
    rw [startingAt, fresh] at member
    cases member
  · rw [startingAt, fresh]
  · intro task rounds ip judging
    rw [startingAt, fresh] at judging
    cases judging

theorem alwaysInside_of_sound {cidrs : List String}
    (constructed : new ipnet cidrs = .ok planner) (sound : planner.Sound) :
    planner.AlwaysInside ipnet := by
  intro blockIndex ipIndices within _ acts final reached
  have safe := safe_startingAt constructed sound ipIndices within
  exact ((plannerSystem ipnet).run_invariant_of_step Safe
    (fun holds stepped => holds.step stepped) acts safe reached).inside

end Planner

/-- For every list of texts that the constructor accepts: the planner stays inside the
configured networks, from all starting indices and through all calls, exactly when
there is a block and the window of each block is inside. -/
theorem planned_addresses_inside_iff (ipnet : Ipnet) (cidrs : List String) (planner : Planner)
    (constructed : Planner.new ipnet cidrs = .ok planner) :
    planner.AlwaysInside ipnet ↔
      cidrs ≠ [] ∧ ∀ net ∈ planner.parsedBlocks, net.Covered planner.parsedBlocks := by
  obtain ⟨length, fresh⟩ := Planner.new_ok constructed
  have idle : planner.callers 0 = .idle := by rw [fresh]
  have empty : planner.parsedBlocks = [] ↔ cidrs = [] := by
    rw [← length_eq_zero_iff, length, length_eq_zero_iff]
  constructor
  · intro always
    exact ⟨fun none => always.nonempty idle (empty.mpr none),
      fun net member => always.covered idle member⟩
  · rintro ⟨nonempty, covered⟩
    exact Planner.alwaysInside_of_sound constructed
      ⟨fun none => nonempty (empty.mp none), covered⟩

def twoBlocks : List IpNet :=
  [.v4 ⟨0x0a000000, 24, by decide⟩, .v6 ⟨0x20010db8000000000000000000000000, 64, by decide⟩]

theorem planned_addresses_inside_two_blocks :
    Planner.new literalIpnet ["10.0.0.0/24", "2001:db8::/64"] =
        .ok { parsedBlocks := twoBlocks, ipIndices := [0, 0] } ∧
      Planner.AlwaysInside literalIpnet { parsedBlocks := twoBlocks, ipIndices := [0, 0] } := by
  have constructed : Planner.new literalIpnet ["10.0.0.0/24", "2001:db8::/64"] =
      .ok { parsedBlocks := twoBlocks, ipIndices := [0, 0] } := rfl
  have canonical : ∀ net ∈ twoBlocks, net.Canonical := by decide
  refine ⟨constructed, (planned_addresses_inside_iff _ _ _ constructed).mpr ⟨by decide, ?_⟩⟩
  exact fun net member => (canonical net member).covered member

/-- A block with host bits: its third address is `10.0.1.1`, in the next block. -/
theorem host_bits_leave_block :
    ∃ planner final, Planner.new literalIpnet ["10.0.0.200/24"] = .ok planner ∧
      (plannerSystem literalIpnet).run planner
        [.getAddress 0, .nextIp 0 19, .judge 0 0, .getAddress 0, .nextIp 0 19, .judge 0 0,
          .getAddress 0, .nextIp 0 19, .judge 0 0] = some final ∧
      some (.v4 0x0a000101) ∈ final.returned ∧
      ∀ net ∈ final.parsedBlocks, ¬ net.Contains (.v4 0x0a000101) := by
  refine ⟨_, _, rfl, rfl, ?_, ?_⟩
  · decide
  · decide

end KizunaLink.Routing
