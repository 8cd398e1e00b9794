import Mathlib.Data.Nat.Bits
import Mathlib.Tactic.Ring

/-!
# Address blocks

A block of addresses of `width` bits is one of its addresses together with the
number of leading bits that it fixes.  The address need not be the first one of
the block.  Adding an offset within the block's size to the address stays in the
block for every offset exactly when it is.
-/

set_option autoImplicit false

namespace KizunaLink.Lib

structure Block (width : Nat) where
  addr : BitVec width
  prefixLen : Nat
  bounded : prefixLen ≤ width

instance (width : Nat) : DecidableEq (Block width) := fun first second =>
  decidable_of_iff (first.addr = second.addr ∧ first.prefixLen = second.prefixLen)
    (by cases first; cases second; simp)

namespace Block

variable {width : Nat} (block : Block width)

/-- The number of addresses. -/
def size : Nat := 2 ^ (width - block.prefixLen)

/-- The leading bits are those of the block's address. -/
def Contains (address : BitVec width) : Prop :=
  address.toNat / block.size = block.addr.toNat / block.size

instance (address : BitVec width) : Decidable (block.Contains address) :=
  inferInstanceAs (Decidable (_ = _))

/-- No bit behind the leading ones is set: the address is the first of the block. -/
def Canonical : Prop := block.addr.toNat % block.size = 0

instance : Decidable block.Canonical := inferInstanceAs (Decidable (_ = _))

theorem size_pos : 0 < block.size := Nat.two_pow_pos _

theorem size_mul : block.size * 2 ^ block.prefixLen = 2 ^ width := by
  rw [size, ← Nat.pow_add, Nat.sub_add_cancel block.bounded]

/-- The sum with an offset does not wrap and stays in the block. -/
def Reaches (offset : BitVec width) : Prop :=
  block.addr.toNat + offset.toNat < 2 ^ width ∧ block.Contains (block.addr + offset)

variable {block}

theorem Canonical.reaches (canonical : block.Canonical) {offset : BitVec width}
    (small : offset.toNat < block.size) : block.Reaches offset := by
  have positive := block.size_pos
  have whole := block.size_mul
  have bound := block.addr.isLt
  obtain ⟨index, first⟩ := Nat.dvd_of_mod_eq_zero canonical
  have below : index < 2 ^ block.prefixLen := by
    rw [first, ← whole] at bound
    exact Nat.lt_of_mul_lt_mul_left bound
  have noWrap : block.addr.toNat + offset.toNat < 2 ^ width := by
    calc block.addr.toNat + offset.toNat
        < block.size * index + block.size := by rw [first]; omega
      _ = block.size * (index + 1) := by ring
      _ ≤ block.size * 2 ^ block.prefixLen := Nat.mul_le_mul_left _ below
      _ = 2 ^ width := whole
  refine ⟨noWrap, ?_⟩
  rw [Contains, BitVec.toNat_add, Nat.mod_eq_of_lt noWrap, first, Nat.mul_add_div positive,
    Nat.mul_div_cancel_left _ positive, Nat.div_eq_of_lt small, Nat.add_zero]

end Block

/-- Shifting all ones right leaves a mask of the bits behind the first ones. -/
theorem toNat_and_allOnes_shift {width : Nat} (bits : BitVec width) {count : Nat}
    (bounded : count ≤ width) :
    (bits &&& (BitVec.allOnes width >>> count)).toNat = bits.toNat % 2 ^ (width - count) := by
  have mask : (2 ^ width - 1) >>> count = 2 ^ (width - count) - 1 := by
    have whole : 2 ^ width = 2 ^ (width - count) * 2 ^ count := by
      rw [← Nat.pow_add, Nat.sub_add_cancel bounded]
    have one : 1 ≤ 2 ^ count := Nat.one_le_two_pow
    have some : 1 ≤ 2 ^ (width - count) := Nat.one_le_two_pow
    rw [Nat.shiftRight_eq_div_pow, whole]
    have regroup : 2 ^ (width - count) * 2 ^ count - 1 =
        (2 ^ count - 1) + 2 ^ count * (2 ^ (width - count) - 1) := by
      rw [Nat.mul_sub, Nat.mul_comm (2 ^ count) (2 ^ (width - count)), Nat.mul_one]
      have large : 2 ^ count ≤ 2 ^ (width - count) * 2 ^ count := Nat.le_mul_of_pos_left _ some
      omega
    rw [regroup, Nat.add_mul_div_left _ _ (by omega), Nat.div_eq_of_lt (by omega), Nat.zero_add]
  rw [BitVec.toNat_and, BitVec.toNat_ushiftRight, BitVec.toNat_allOnes, mask,
    Nat.and_two_pow_sub_one_eq_mod]

end KizunaLink.Lib
