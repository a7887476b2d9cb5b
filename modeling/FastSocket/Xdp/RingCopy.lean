import FastSocket.Spsc.Cursor
import FastSocket.Spsc.Window
import FastSocket.Xdp.Ring

/-!
# Copies into and out of a ring

The chunked copies are entry-by-entry stores and reads at consecutive absolute
indexes.
-/

namespace FastSocket.Xdp

open Spsc

universe u

variable {α : Type u} {k : Nat} {start : BitVec 32}

/-- A ring of a power-of-two number of slots. -/
structure RingSize (k : Nat) (size : BitVec 32) : Prop where
  le : k ≤ 31
  eq : size = BitVec.ofNat 32 (2 ^ k)

namespace RingSize

variable {size : BitVec 32} (valid : RingSize k size)

include valid

theorem toNat_eq : size.toNat = 2 ^ k := by
  have bound : 2 ^ k < 2 ^ 32 := Nat.pow_lt_pow_right (by decide) (by have := valid.le; omega)
  rw [valid.eq, BitVec.toNat_ofNat, Nat.mod_eq_of_lt bound]

theorem le_half : 2 ^ k ≤ 2 ^ 31 :=
  Nat.pow_le_pow_right (by decide) valid.le

theorem ringIndex_cursorAt (count : Nat) :
    ringIndex size (cursorAt start count) = slot start.toNat (2 ^ k) count := by
  rw [ringIndex, valid.eq, toNat_cursorAt_and_mask _ _ (by have := valid.le; omega), slot]

variable {ring : List α} (sized : ring.length = 2 ^ k)

include sized

/-- The copy loop stores the rest of the source entry by entry. -/
theorem copySliceLoop_eq (src : List α) (base : Nat) (fuel copied : Nat)
    (enough : src.length ≤ copied + fuel) :
    copySliceLoop size (cursorAt start base) src fuel copied ring =
      storeFrom start.toNat ring (base + copied) (src.drop copied) := by
  induction fuel generalizing copied ring with
  | zero => rw [copySliceLoop, List.drop_eq_nil_of_le (by omega), storeFrom]
  | succ fuel ih =>
    rw [copySliceLoop]
    split
    case isTrue less =>
      have pos : 0 < 2 ^ k := Nat.two_pow_pos k
      have indexLt : slot start.toNat (2 ^ k) (base + copied) < 2 ^ k := slot_lt pos
      simp only [cursorAt_add, valid.ringIndex_cursorAt, valid.toNat_eq]
      generalize chunkEq : min (src.length - copied)
        (2 ^ k - slot start.toNat (2 ^ k) (base + copied)) = chunk
      have blockLength : ((src.drop copied).take chunk).length = chunk := by
        rw [List.length_take, List.length_drop]
        omega
      have block := storeFrom_eq_block start.toNat ring (base + copied)
        ((src.drop copied).take chunk) (by rw [sized, blockLength]; omega)
      rw [sized, blockLength] at block
      rw [← block, ih (by rw [length_storeFrom, sized]) (copied + chunk) (by omega)]
      have rest : src.drop copied =
          (src.drop copied).take chunk ++ src.drop (copied + chunk) := by
        rw [← List.drop_drop, List.take_append_drop]
      conv_rhs => rw [rest, storeFrom_append, blockLength, Nat.add_assoc]
    case isFalse done =>
      rw [List.drop_eq_nil_of_le (by omega), storeFrom]

theorem copySliceToRing_eq (src : List α) (base : Nat) :
    copySliceToRing ring size (cursorAt start base) src =
      storeFrom start.toNat ring base src := by
  rw [copySliceToRing, valid.copySliceLoop_eq sized src base src.length 0 (by omega),
    List.drop_zero, Nat.add_zero]

variable {count : BitVec 32}

/-- The copy loop reads the rest of the range entry by entry. -/
theorem copyRingLoop_eq (base : Nat) (fuel copied : Nat) (out : List α)
    (enough : count.toNat ≤ copied + fuel) :
    copyRingLoop ring size { start := cursorAt start base, count := count } fuel copied out =
      out ++ readFrom start.toNat ring (base + copied) (count.toNat - copied) := by
  induction fuel generalizing copied out with
  | zero =>
    rw [copyRingLoop, Nat.sub_eq_zero_of_le (by omega), readFrom, List.append_nil]
  | succ fuel ih =>
    rw [copyRingLoop]
    split
    case isTrue less =>
      have pos : 0 < 2 ^ k := Nat.two_pow_pos k
      have indexLt : slot start.toNat (2 ^ k) (base + copied) < 2 ^ k := slot_lt pos
      simp only [cursorAt_add, valid.ringIndex_cursorAt, valid.toNat_eq]
      generalize chunkEq : min (count.toNat - copied)
        (2 ^ k - slot start.toNat (2 ^ k) (base + copied)) = chunk
      have block := readFrom_eq_block start.toNat ring (base + copied) chunk
        (by rw [sized]; omega)
      rw [sized] at block
      have split : count.toNat - copied = chunk + (count.toNat - (copied + chunk)) := by omega
      change copied < count.toNat at less
      rw [ih (copied + chunk) _ (by omega), split, readFrom_add, ← block, List.append_assoc,
        Nat.add_assoc]
    case isFalse done =>
      change ¬ copied < count.toNat at done
      rw [Nat.sub_eq_zero_of_le (by omega), readFrom, List.append_nil]

theorem copyRingToVec_eq (base : Nat) (out : List α) :
    copyRingToVec ring size { start := cursorAt start base, count := count } out =
      out ++ readFrom start.toNat ring base count.toNat := by
  rw [copyRingToVec, valid.copyRingLoop_eq sized base _ 0 out (Nat.le_of_eq (Nat.zero_add _).symm), Nat.add_zero,
    Nat.sub_zero]

theorem ringEntries_eq (base count : Nat) :
    ringEntries ring size (cursorAt start base) count = readFrom start.toNat ring base count := by
  induction count generalizing base with
  | zero => rfl
  | succ count ih =>
    rw [ringEntries, readFrom, valid.ringIndex_cursorAt, sized, cursorAt_add start base 1, ih]

end RingSize

end FastSocket.Xdp
