import Mathlib.Data.List.Basic
import Mathlib.Data.Nat.Bitwise

/-!
# Bitmaps and their ranks

A fixed-width word used as a set of small indices.  The rank of a position is
the number of members strictly below it; it is what a population count of the
word masked below that position computes, and it is the index of the member in
a dense array holding one entry per member.
-/

namespace FastSocket.Bits

variable {w : Nat}

/-- The word with only bit `index` set, as `1 << index`. -/
def singleBit (w index : Nat) : BitVec w :=
  1#w <<< index

/-- The number of set bits of a word. -/
def countOnes (word : BitVec w) : Nat :=
  (List.range w).countP word.getLsbD

/-- The number of set bits strictly below a position. -/
def rank (word : BitVec w) (position : Nat) : Nat :=
  (List.range position).countP word.getLsbD

@[simp]
theorem getLsbD_singleBit (index i : Nat) :
    (singleBit w index).getLsbD i = (decide (i < w) && decide (i = index)) := by
  rw [singleBit, BitVec.getLsbD_shiftLeft, BitVec.getLsbD_one]
  by_cases bound : i < w <;> by_cases equal : i = index <;> simp [bound, equal] <;> omega

variable {index position : Nat} {word : BitVec w}

/-- Setting a bit changes membership of that index only. -/
theorem getLsbD_or_singleBit (word : BitVec w) (bound : index < w) (i : Nat) :
    (word ||| singleBit w index).getLsbD i = (word.getLsbD i || decide (i = index)) := by
  rw [BitVec.getLsbD_or, getLsbD_singleBit]
  by_cases equal : i = index
  · simp [equal, bound]
  · simp [equal]

/-- Testing a word against a single bit is membership. -/
theorem and_singleBit_ne_zero_iff (word : BitVec w) (bound : index < w) :
    word &&& singleBit w index ≠ 0#w ↔ word.getLsbD index = true := by
  constructor
  · intro nonzero
    by_contra clear
    apply nonzero
    apply BitVec.eq_of_getLsbD_eq
    intro i _
    by_cases equal : i = index
    · subst equal
      simp_all
    · simp [equal]
  · intro member zero
    have bit : (word &&& singleBit w index).getLsbD index = false := by
      rw [zero, BitVec.getLsbD_zero]
    rw [BitVec.getLsbD_and, member, getLsbD_singleBit] at bit
    simp [bound] at bit

theorem toNat_singleBit (bound : index < w) : (singleBit w index).toNat = 2 ^ index := by
  rw [singleBit, BitVec.toNat_shiftLeft, BitVec.toNat_ofNat, Nat.shiftLeft_eq,
    Nat.mod_eq_of_lt (Nat.one_lt_two_pow (by omega)), Nat.one_mul]
  exact Nat.mod_eq_of_lt (Nat.pow_lt_pow_right (by decide) bound)

/-- The mask `bit - 1` selects the positions below `bit`. -/
theorem getLsbD_singleBit_sub_one (bound : index < w) (i : Nat) :
    (singleBit w index - 1#w).getLsbD i = decide (i < index) := by
  have small : 2 ^ index < 2 ^ w := Nat.pow_lt_pow_right (by decide) bound
  have positive : 0 < 2 ^ index := Nat.two_pow_pos index
  have oneLt : 1 < 2 ^ w := Nat.one_lt_two_pow (by omega)
  have value : (singleBit w index - 1#w).toNat = 2 ^ index - 1 := by
    rw [BitVec.toNat_sub, toNat_singleBit bound, BitVec.toNat_ofNat, Nat.mod_eq_of_lt oneLt]
    have rearranged : 2 ^ w - 1 + 2 ^ index = 2 ^ index - 1 + 2 ^ w := by omega
    rw [rearranged, Nat.add_mod_right]
    exact Nat.mod_eq_of_lt (by omega)
  rw [BitVec.getLsbD, value, Nat.testBit_two_pow_sub_one]

theorem getLsbD_singleBit_or_sub_one (bound : index < w) (i : Nat) :
    (singleBit w index ||| (singleBit w index - 1#w)).getLsbD i =
      decide (i < index + 1) := by
  rw [BitVec.getLsbD_or, getLsbD_singleBit, getLsbD_singleBit_sub_one bound]
  by_cases less : i < index
  · simp [less, Nat.lt_succ_of_lt less]
  · by_cases equal : i = index
    · simp [equal, bound]
    · have notLess : ¬ i < index + 1 := by omega
      simp [less, equal, notLess]

/-! ## Ranks -/

theorem rank_succ (word : BitVec w) (position : Nat) :
    rank word (position + 1) = rank word position + (word.getLsbD position).toNat := by
  rw [rank, List.range_succ, List.countP_append, List.countP_singleton]
  cases word.getLsbD position <;> rfl

theorem rank_mono (word : BitVec w) {first second : Nat} (le : first ≤ second) :
    rank word first ≤ rank word second := by
  induction le with
  | refl => exact Nat.le_refl _
  | step _ ih => exact Nat.le_trans ih (by rw [rank_succ]; omega)

/-- A member's rank is below the rank of any later position. -/
theorem rank_lt_rank {member : Nat} (isMember : word.getLsbD member = true)
    (less : member < position) : rank word member < rank word position := by
  have step := rank_mono word (Nat.succ_le_of_lt less)
  rw [Nat.succ_eq_add_one, rank_succ, isMember] at step
  exact step

theorem rank_congr {first second : BitVec w}
    (agree : ∀ i < position, first.getLsbD i = second.getLsbD i) :
    rank first position = rank second position := by
  apply List.countP_congr
  intro i member
  rw [agree i (List.mem_range.mp member)]

theorem countOnes_eq_rank (word : BitVec w) : countOnes word = rank word w :=
  rfl

/-- Counting the members selected by a lower mask is the rank of its end. -/
theorem countOnes_and_eq_rank {mask : BitVec w} (positionLe : position ≤ w)
    (lower : ∀ i, mask.getLsbD i = decide (i < position)) :
    countOnes (word &&& mask) = rank word position := by
  obtain ⟨rest, rfl⟩ := Nat.exists_eq_add_of_le positionLe
  rw [countOnes, List.range_add, List.countP_append]
  have above : ((List.range rest).map (position + ·)).countP (word &&& mask).getLsbD = 0 := by
    rw [List.countP_eq_zero]
    intro i member
    obtain ⟨offset, _, rfl⟩ := List.mem_map.mp member
    simp [lower]
  rw [above, Nat.add_zero]
  apply List.countP_congr
  intro i member
  simp [lower, List.mem_range.mp member]

theorem countOnes_and_below (bound : index < w) :
    countOnes (word &&& (singleBit w index - 1#w)) = rank word index :=
  countOnes_and_eq_rank (Nat.le_of_lt bound) (getLsbD_singleBit_sub_one bound)

theorem countOnes_and_upTo (bound : index < w) :
    countOnes (word &&& (singleBit w index ||| (singleBit w index - 1#w))) =
      rank word (index + 1) :=
  countOnes_and_eq_rank bound (getLsbD_singleBit_or_sub_one bound)

/-- Setting a bit at or above a position leaves the rank of that position. -/
theorem rank_or_singleBit (word : BitVec w) (bound : index < w) (le : position ≤ index) :
    rank (word ||| singleBit w index) position = rank word position := by
  apply rank_congr
  intro i less
  have distinct : i ≠ index := by omega
  rw [getLsbD_or_singleBit word bound]
  simp [distinct]

end FastSocket.Bits
