import Mathlib.Algebra.Group.Nat.Defs
import Mathlib.Data.Nat.Basic

/-!
# Alignment to powers of two

Clearing the low bits of a word with a mask rounds it down to a multiple of a
power of two.
-/

namespace FastSocket.Bits

variable {w k : Nat} {mask addr : BitVec w}

/-- Clears the bits of a word that are set in a mask. -/
def alignDown (mask addr : BitVec w) : BitVec w :=
  addr &&& ~~~ mask

theorem alignDown_add_and (mask addr : BitVec w) : alignDown mask addr + (addr &&& mask) = addr := by
  have disjoint : alignDown mask addr &&& (addr &&& mask) = 0#w := by
    ext i hi
    simp only [alignDown, BitVec.getElem_and, BitVec.getElem_not, BitVec.getElem_zero]
    cases addr[i] <;> cases mask[i] <;> rfl
  rw [BitVec.add_eq_or_of_and_eq_zero _ _ disjoint]
  ext i hi
  simp only [alignDown, BitVec.getElem_or, BitVec.getElem_and, BitVec.getElem_not]
  cases addr[i] <;> cases mask[i] <;> rfl

/-- Clearing the low bits subtracts the remainder. -/
theorem toNat_alignDown (low : mask.toNat = 2 ^ k - 1) :
    (alignDown mask addr).toNat = addr.toNat - addr.toNat % 2 ^ k := by
  have split : alignDown mask addr = addr - (addr &&& mask) :=
    BitVec.eq_sub_iff_add_eq.mpr (alignDown_add_and mask addr)
  have le : addr &&& mask ≤ addr := by
    rw [BitVec.le_def, BitVec.toNat_and]
    exact Nat.and_le_left
  rw [split, BitVec.toNat_sub_of_le le, BitVec.toNat_and, low, Nat.and_two_pow_sub_one_eq_mod]

@[simp]
theorem alignDown_alignDown (mask addr : BitVec w) :
    alignDown mask (alignDown mask addr) = alignDown mask addr := by
  rw [alignDown, alignDown, BitVec.and_assoc, BitVec.and_self]

/-- A word is aligned when its remainder is zero. -/
theorem alignDown_eq_self_iff (low : mask.toNat = 2 ^ k - 1) :
    alignDown mask addr = addr ↔ addr.toNat % 2 ^ k = 0 := by
  have le : addr.toNat % 2 ^ k ≤ addr.toNat := Nat.mod_le _ _
  rw [← BitVec.toNat_inj, toNat_alignDown low]
  omega

/-- An offset below the alignment is cleared again. -/
theorem alignDown_add (low : mask.toNat = 2 ^ k - 1) (aligned : alignDown mask addr = addr)
    {offset : BitVec w} (small : offset.toNat < 2 ^ k) (fits : addr.toNat + offset.toNat < 2 ^ w) :
    alignDown mask (addr + offset) = addr := by
  have multiple := (alignDown_eq_self_iff low).mp aligned
  apply BitVec.eq_of_toNat_eq
  rw [toNat_alignDown low, BitVec.toNat_add_of_lt fits, Nat.add_mod, multiple, Nat.zero_add,
    Nat.mod_mod, Nat.mod_eq_of_lt small, Nat.add_sub_cancel]

end FastSocket.Bits
