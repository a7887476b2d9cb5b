import Mathlib.Data.Nat.ModEq

/-!
# Sums with end-around carry

Adding words in ones' complement keeps a sum modulo `base - 1`.  A sum is reduced
by adding its carries back to its low word; folding until no carry is left gives
the only number in `1, …, base - 1` with the residue of a positive sum.
-/

namespace FastSocket.OnesComplement

/-- Adds the carry of a sum back to its low word. -/
def foldOnce (base sum : Nat) : Nat :=
  sum % base + sum / base

/-- Folds until the carry is gone, at most `fuel` times. -/
def foldLoop (base : Nat) : (fuel sum : Nat) → Nat
  | 0, sum => sum
  | fuel + 1, sum => if sum / base ≠ 0 then foldLoop base fuel (foldOnce base sum) else sum

/-- Folds until the carry is gone. -/
def foldAll (base sum : Nat) : Nat :=
  foldLoop base sum sum

variable {base sum : Nat}

theorem foldOnce_modEq (positive : 0 < base) (sum : Nat) :
    foldOnce base sum ≡ sum [MOD base - 1] := by
  have split : base * (sum / base) + sum % base = sum := Nat.div_add_mod sum base
  have carry : base * (sum / base) ≡ sum / base [MOD base - 1] := by
    obtain ⟨modulus, rfl⟩ := Nat.exists_eq_add_of_lt positive
    rw [Nat.zero_add, Nat.add_sub_cancel, Nat.add_mul, Nat.one_mul]
    simp [Nat.ModEq]
  calc
    foldOnce base sum = sum / base + sum % base := Nat.add_comm _ _
    _ ≡ base * (sum / base) + sum % base [MOD base - 1] := (carry.add_right _).symm
    _ = sum := split

theorem foldOnce_lt (two : 2 ≤ base) (carry : sum / base ≠ 0) : foldOnce base sum < sum := by
  have split := Nat.div_add_mod sum base
  have grows : 2 * (sum / base) ≤ base * (sum / base) := Nat.mul_le_mul_right _ two
  rw [foldOnce]
  omega

theorem foldOnce_pos (positive : 0 < sum) : 0 < foldOnce base sum := by
  have split := Nat.div_add_mod sum base
  rw [foldOnce]
  by_contra zero
  rcases Nat.add_eq_zero_iff.mp (Nat.le_zero.mp (Nat.not_lt.mp zero)) with ⟨lowZero, carryZero⟩
  rw [carryZero, lowZero, Nat.mul_zero] at split
  omega

/-- Enough folds leave a word with the residue of the sum. -/
theorem foldLoop_spec (two : 2 ≤ base) (fuel sum : Nat) (enough : sum ≤ fuel) :
    foldLoop base fuel sum < base ∧ foldLoop base fuel sum ≡ sum [MOD base - 1] ∧
      (0 < sum → 0 < foldLoop base fuel sum) := by
  induction fuel generalizing sum with
  | zero =>
    have zero : sum = 0 := Nat.le_zero.mp enough
    subst zero
    exact ⟨by rw [foldLoop]; omega, rfl, fun positive => positive⟩
  | succ fuel ih =>
    rw [foldLoop]
    by_cases carry : sum / base ≠ 0
    · rw [if_pos carry]
      have less := foldOnce_lt two carry
      rcases ih (foldOnce base sum) (by omega) with ⟨small, residue, positive⟩
      exact ⟨small, residue.trans (foldOnce_modEq (by omega) sum),
        fun sumPositive => positive (foldOnce_pos sumPositive)⟩
    · rw [if_neg carry]
      refine ⟨?_, rfl, fun positive => positive⟩
      rcases Nat.div_eq_zero_iff.mp (not_not.mp carry) with zero | small
      · omega
      · exact small

theorem foldAll_lt (two : 2 ≤ base) (sum : Nat) : foldAll base sum < base :=
  (foldLoop_spec two sum sum (Nat.le_refl sum)).1

theorem foldAll_modEq (two : 2 ≤ base) (sum : Nat) : foldAll base sum ≡ sum [MOD base - 1] :=
  (foldLoop_spec two sum sum (Nat.le_refl sum)).2.1

theorem foldAll_pos (two : 2 ≤ base) (positive : 0 < sum) : 0 < foldAll base sum :=
  (foldLoop_spec two sum sum (Nat.le_refl sum)).2.2 positive

/-- Positive words with one residue are equal. -/
theorem eq_of_modEq {first second : Nat} (firstPos : 0 < first) (firstLt : first < base)
    (secondPos : 0 < second) (secondLt : second < base)
    (residue : first ≡ second [MOD base - 1]) : first = second := by
  have shifted : (first - 1) + 1 ≡ (second - 1) + 1 [MOD base - 1] := by
    rwa [Nat.sub_add_cancel firstPos, Nat.sub_add_cancel secondPos]
  have equal := (Nat.ModEq.add_right_cancel' 1 shifted).eq_of_lt_of_lt (by omega) (by omega)
  omega

/-- The folded sum is the only positive word with the residue of the sum. -/
theorem foldAll_eq_iff (two : 2 ≤ base) (positive : 0 < sum) {word : Nat} (wordPos : 0 < word)
    (wordLt : word < base) : foldAll base sum = word ↔ word ≡ sum [MOD base - 1] := by
  constructor
  · rintro rfl
    exact foldAll_modEq two sum
  · intro residue
    exact eq_of_modEq (foldAll_pos two positive) (foldAll_lt two sum) wordPos wordLt
      ((foldAll_modEq two sum).trans residue.symm)

end FastSocket.OnesComplement
