import Mathlib.Data.List.Basic
import Mathlib.Data.Nat.Bitwise
import Mathlib.Data.Nat.Size

/-!
# Most-significant-first bit lists

An `n`-bit number is read as the list of its bits, highest bit first.  This is
the order in which binary tries and multibit tries consume an address, and it
makes taking a leading chunk of an address the same as splitting a list.
-/

namespace FastSocket.Bits

/-- The low `n` bits of a number, most significant first. -/
def bitsMsb : Nat → Nat → List Bool
  | 0, _ => []
  | n + 1, value => value.testBit n :: bitsMsb n value

@[simp]
theorem bitsMsb_zero (value : Nat) : bitsMsb 0 value = [] :=
  rfl

theorem bitsMsb_succ (n value : Nat) :
    bitsMsb (n + 1) value = value.testBit n :: bitsMsb n value :=
  rfl

@[simp]
theorem length_bitsMsb (n value : Nat) : (bitsMsb n value).length = n := by
  induction n with
  | zero => rfl
  | succ n ih => simp [bitsMsb, ih]

/-- Bit lists only depend on the bits they list. -/
theorem bitsMsb_congr {n first second : Nat}
    (agree : ∀ i < n, first.testBit i = second.testBit i) :
    bitsMsb n first = bitsMsb n second := by
  induction n with
  | zero => rfl
  | succ n ih =>
    rw [bitsMsb_succ, bitsMsb_succ, agree n (Nat.lt_succ_self n),
      ih fun i bound => agree i (Nat.lt_succ_of_lt bound)]

/-- Splitting a bit list separates the high part from the low part. -/
theorem bitsMsb_add (high low value : Nat) :
    bitsMsb (high + low) value = bitsMsb high (value >>> low) ++ bitsMsb low value := by
  induction high with
  | zero => simp
  | succ high ih =>
    rw [Nat.succ_add, bitsMsb_succ, bitsMsb_succ, ih, Nat.testBit_shiftRight,
      Nat.add_comm low high]
    rfl

/-- Masking to the listed width does not change the list. -/
theorem bitsMsb_mod (n value : Nat) : bitsMsb n (value % 2 ^ n) = bitsMsb n value := by
  apply bitsMsb_congr
  intro i bound
  simp [Nat.testBit_mod_two_pow, bound]

/-- Position `i` of a bit list is bit `n - 1 - i` of the number. -/
theorem getElem?_bitsMsb {n i : Nat} (value : Nat) (bound : i < n) :
    (bitsMsb n value)[i]? = some (value.testBit (n - 1 - i)) := by
  induction n generalizing i with
  | zero => omega
  | succ n ih =>
    cases i with
    | zero => simp [bitsMsb]
    | succ i =>
      rw [bitsMsb_succ, List.getElem?_cons_succ, ih (by omega)]
      congr 2
      omega

theorem take_bitsMsb {n len : Nat} (value : Nat) (bound : len ≤ n) :
    (bitsMsb n value).take len = bitsMsb len (value >>> (n - len)) := by
  obtain ⟨low, rfl⟩ := Nat.exists_eq_add_of_le bound
  rw [bitsMsb_add, Nat.add_sub_cancel_left]
  exact List.take_left' (length_bitsMsb _ _)

end FastSocket.Bits
