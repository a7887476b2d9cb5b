import Mathlib.Algebra.Group.Nat.Defs
import Mathlib.Data.Nat.Basic

/-!
# Wrapping ring cursors

A cursor is a counter of fixed width that starts at an arbitrary value and wraps.
Differences of cursors are differences of the counts behind them as long as these
are closer than the width allows, and masking a cursor is reducing the count
modulo the ring size, since the size divides the period of the counter.
-/

namespace FastSocket.Spsc

variable {w : Nat}

/-- The value of a cursor after `count` increments. -/
def cursorAt (start : BitVec w) (count : Nat) : BitVec w :=
  start + BitVec.ofNat w count

@[simp]
theorem cursorAt_zero (start : BitVec w) : cursorAt start 0 = start := by
  exact BitVec.add_zero start

theorem cursorAt_add (start : BitVec w) (count more : Nat) :
    cursorAt start count + BitVec.ofNat w more = cursorAt start (count + more) := by
  rw [cursorAt, cursorAt, BitVec.add_assoc, ← BitVec.ofNat_add]

theorem cursorAt_add_toNat (start amount : BitVec w) (count : Nat) :
    cursorAt start count + amount = cursorAt start (count + amount.toNat) := by
  rw [← cursorAt_add, BitVec.ofNat_toNat, BitVec.setWidth_eq]

theorem toNat_cursorAt (start : BitVec w) (count : Nat) :
    (cursorAt start count).toNat = (start.toNat + count) % 2 ^ w := by
  rw [cursorAt, BitVec.toNat_add, BitVec.toNat_ofNat, Nat.add_mod_mod]

variable {low high : Nat}

/-- The wrapping difference of two cursors is the difference of their counts. -/
theorem toNat_cursorAt_sub (start : BitVec w) (le : low ≤ high) (near : high - low < 2 ^ w) :
    (cursorAt start high - cursorAt start low).toNat = high - low := by
  obtain ⟨distance, rfl⟩ := Nat.exists_eq_add_of_le le
  rw [Nat.add_sub_cancel_left] at near ⊢
  have moved : cursorAt start (low + distance) - cursorAt start low = BitVec.ofNat w distance := by
    rw [← cursorAt_add, BitVec.add_comm, BitVec.add_sub_cancel]
  rw [moved, BitVec.toNat_ofNat, Nat.mod_eq_of_lt near]

/-- Two cursors closer than the period are equal only at equal counts. -/
theorem cursorAt_inj (start : BitVec w) (le : low ≤ high) (near : high - low < 2 ^ w) :
    cursorAt start low = cursorAt start high ↔ low = high := by
  constructor
  · intro equal
    have distance := toNat_cursorAt_sub start le near
    rw [equal, BitVec.sub_self, BitVec.toNat_zero] at distance
    omega
  · rintro rfl
    rfl

/-- Masking a cursor with a power-of-two ring size. -/
theorem toNat_cursorAt_and_mask (start : BitVec w) (count : Nat) {k : Nat} (lt : k < w) :
    (cursorAt start count &&& (BitVec.ofNat w (2 ^ k) - 1#w)).toNat =
      (start.toNat + count) % 2 ^ k := by
  have sizeLt : 2 ^ k < 2 ^ w := Nat.pow_lt_pow_right (by decide) lt
  have pos : 0 < 2 ^ k := Nat.two_pow_pos k
  have mask : (BitVec.ofNat w (2 ^ k) - 1#w).toNat = 2 ^ k - 1 := by
    have oneLe : (1#w) ≤ BitVec.ofNat w (2 ^ k) := by
      rw [BitVec.le_def, BitVec.toNat_ofNat, BitVec.toNat_ofNat, Nat.mod_eq_of_lt sizeLt,
        Nat.mod_eq_of_lt (by omega)]
      exact pos
    rw [BitVec.toNat_sub_of_le oneLe, BitVec.toNat_ofNat, BitVec.toNat_ofNat,
      Nat.mod_eq_of_lt sizeLt, Nat.mod_eq_of_lt (by omega)]
  rw [BitVec.toNat_and, mask, Nat.and_two_pow_sub_one_eq_mod, toNat_cursorAt,
    Nat.mod_mod_of_dvd _ (Nat.pow_dvd_pow 2 (Nat.le_of_lt lt))]

end FastSocket.Spsc
