import FastSocket.Poptrie.Trie

/-!
# Resolving strides

What the emitter computes for one stride.  `leafValue` pushes inherited values
down the trie to a full address; `slotAt` stops after the bits of one stride,
either at a resolved value or at a trie node that still branches.
`resolveStride` writes `slotAt` of every bit pattern into the slot array.
-/

namespace FastSocket.Poptrie

open Bits Lpm

/-! ## Pushed values -/

/-- The value an address resolves to below a trie node, as a value encoding. -/
def leafValue (bin : List BinNode) : Option Nat → Nat → List Bool → Nat
  | node, inherited, [] => effective bin node inherited
  | node, inherited, branch :: rest =>
    leafValue bin (childOf bin node branch) (effective bin node inherited) rest

theorem effective_eq_getD (bin : List BinNode) (node : Option Nat) (inherited : Nat) :
    effective bin node inherited = (stored bin node []).getD inherited := by
  cases node with
  | none => rfl
  | some id =>
    change (if (binAt bin id).value ≠ 0 then (binAt bin id).value else inherited) =
      (if (binAt bin id).value = 0 then none else some (binAt bin id).value).getD inherited
    by_cases unset : (binAt bin id).value = 0 <;> simp [unset]

/-- Pushing values down is longest-prefix matching in the stored prefix map. -/
theorem leafValue_eq_longestMatch (bin : List BinNode) (node : Option Nat) (inherited : Nat)
    (path : List Bool) :
    leafValue bin node inherited path = (longestMatch (stored bin node) path).getD inherited := by
  induction path generalizing node inherited with
  | nil => exact effective_eq_getD bin node inherited
  | cons branch rest ih =>
    rw [leafValue, ih, longestMatch, stored_below, effective_eq_getD]
    cases longestMatch (stored bin (childOf bin node branch)) rest <;> rfl

theorem effective_effective (bin : List BinNode) (node : Option Nat) (inherited : Nat) :
    effective bin node (effective bin node inherited) = effective bin node inherited := by
  rw [effective_eq_getD, effective_eq_getD]
  cases stored bin node [] <;> rfl

theorem leafValue_none (bin : List BinNode) (inherited : Nat) (path : List Bool) :
    leafValue bin none inherited path = inherited := by
  induction path with
  | nil => rfl
  | cons branch rest ih => exact ih

theorem leafValue_effective (bin : List BinNode) (node : Option Nat) (inherited : Nat)
    (path : List Bool) :
    leafValue bin node (effective bin node inherited) path = leafValue bin node inherited path := by
  cases path with
  | nil => exact effective_effective bin node inherited
  | cons branch rest => rw [leafValue, leafValue, effective_effective]

variable {bin : List BinNode} {node : Option Nat} {id inherited value bound shift i pattern : Nat}

/-- Below a node without children every address resolves to the same value. -/
theorem leafValue_of_not_branches (flat : node.any (hasChildren bin) = false) (inherited : Nat)
    (path : List Bool) : leafValue bin node inherited path = effective bin node inherited := by
  cases path with
  | nil => rfl
  | cons branch rest =>
    rw [leafValue, childOf_of_not_branches flat, leafValue_none]

/-! ## Slots -/

/-- What a run of address bits resolves to below a trie node. -/
def slotAt (bin : List BinNode) : Option Nat → Nat → List Bool → Slot
  | node, inherited, [] =>
    match node with
    | some id =>
      if hasChildren bin id then .internal id (effective bin (some id) inherited)
      else .leaf (effective bin (some id) inherited)
    | none => .leaf inherited
  | node, inherited, branch :: rest =>
    if node.any (hasChildren bin) then
      slotAt bin (childOf bin node branch) (effective bin node inherited) rest
    else
      .leaf (effective bin node inherited)

theorem slotAt_of_not_branches (flat : node.any (hasChildren bin) = false) (inherited : Nat)
    (path : List Bool) : slotAt bin node inherited path = .leaf (effective bin node inherited) := by
  cases path with
  | nil =>
    cases node with
    | none => rfl
    | some id =>
      rw [Option.any_some] at flat
      simp [slotAt, flat]
  | cons branch rest => simp [slotAt, flat]

theorem slotAt_nil_of_hasChildren (branching : hasChildren bin id = true) (inherited : Nat) :
    slotAt bin (some id) inherited [] = .internal id (effective bin (some id) inherited) := by
  simp [slotAt, branching]

theorem slotAt_cons_of_branches (branching : node.any (hasChildren bin) = true) (inherited : Nat)
    (branch : Bool) (rest : List Bool) :
    slotAt bin node inherited (branch :: rest) =
      slotAt bin (childOf bin node branch) (effective bin node inherited) rest := by
  rw [slotAt, if_pos branching]

/-- Resolving a whole address continues from the slot of its leading bits. -/
theorem leafValue_append (bin : List BinNode) (node : Option Nat) (inherited : Nat)
    (first second : List Bool) :
    leafValue bin node inherited (first ++ second) =
      match slotAt bin node inherited first with
      | .internal id value => leafValue bin (some id) value second
      | .leaf value => value := by
  induction first generalizing node inherited with
  | nil =>
    cases branching : node.any (hasChildren bin) with
    | false =>
      rw [slotAt_of_not_branches branching]
      exact leafValue_of_not_branches branching inherited second
    | true =>
      cases node with
      | none => cases branching
      | some id =>
        rw [slotAt_nil_of_hasChildren branching]
        exact (leafValue_effective bin (some id) inherited second).symm
  | cons branch rest ih =>
    cases branching : node.any (hasChildren bin) with
    | false =>
      rw [slotAt_of_not_branches branching]
      exact leafValue_of_not_branches branching inherited _
    | true =>
      rw [slotAt_cons_of_branches branching, List.cons_append, leafValue, ih]

/-- An internal slot is a branching node at the end of its path. -/
theorem nodeFrom_of_slotAt_internal {path : List Bool}
    (resolved : slotAt bin node inherited path = .internal id value) :
    nodeFrom bin node path = some id ∧ hasChildren bin id = true := by
  induction path generalizing node inherited with
  | nil =>
    cases node with
    | none => cases resolved
    | some start =>
      cases branching : hasChildren bin start with
      | false => simp [slotAt, branching] at resolved
      | true =>
        rw [slotAt_nil_of_hasChildren branching] at resolved
        cases resolved
        exact ⟨rfl, branching⟩
  | cons branch rest ih =>
    cases branching : node.any (hasChildren bin) with
    | false =>
      rw [slotAt_of_not_branches branching] at resolved
      cases resolved
    | true =>
      rw [slotAt_cons_of_branches branching] at resolved
      exact ih resolved

/-- The value encoding that a slot carries. -/
def Slot.encoding : Slot → Nat
  | .internal _ inherited => inherited
  | .leaf value => value

theorem effective_le (inTable : ∀ id, (binAt bin id).value ≤ bound) (node : Option Nat)
    (le : inherited ≤ bound) : effective bin node inherited ≤ bound := by
  cases node with
  | none => exact le
  | some id =>
    rw [effective]
    split
    · exact inTable id
    · exact le

/-- Slots only carry value indices of the trie. -/
theorem encoding_slotAt_le (inTable : ∀ id, (binAt bin id).value ≤ bound) (node : Option Nat)
    (le : inherited ≤ bound) (path : List Bool) :
    (slotAt bin node inherited path).encoding ≤ bound := by
  have here := effective_le inTable node le
  induction path generalizing node inherited with
  | nil =>
    cases branching : node.any (hasChildren bin) with
    | false => rwa [slotAt_of_not_branches branching]
    | true =>
      cases node with
      | none => cases branching
      | some id => rwa [slotAt_nil_of_hasChildren branching]
  | cons branch rest ih =>
    cases branching : node.any (hasChildren bin) with
    | false => rwa [slotAt_of_not_branches branching]
    | true =>
      rw [slotAt_cons_of_branches branching]
      exact ih _ here (effective_le inTable _ here)

/-! ## Writing slices -/

section Slices

universe u

variable {α : Type u} {slice : List α}

theorem fillSlice_spec {start len : Nat} (item : α) (fits : start + len ≤ slice.length) :
    ∃ result, fillSlice slice start len item = some result ∧
      result.length = slice.length ∧
      ∀ i, result[i]? = if start ≤ i ∧ i < start + len then some item else slice[i]? := by
  refine ⟨_, by rw [fillSlice, if_pos fits], ?_, ?_⟩
  · simp only [List.length_append, List.length_take, List.length_replicate, List.length_drop]
    omega
  · intro i
    have takeLength : (slice.take start).length = start := by
      rw [List.length_take]
      omega
    have filledLength : (slice.take start ++ List.replicate len item).length = start + len := by
      rw [List.length_append, takeLength, List.length_replicate]
    by_cases before : i < start
    · rw [if_neg (by omega), List.append_assoc, List.getElem?_append_left (by omega),
        List.getElem?_take_of_lt before]
    · by_cases inside : i < start + len
      · rw [if_pos ⟨by omega, inside⟩, List.getElem?_append_left (by omega),
          List.getElem?_append_right (by omega), List.getElem?_replicate, if_pos (by omega)]
      · rw [if_neg (by omega), List.getElem?_append_right (by omega), List.getElem?_drop,
          filledLength]
        congr 1
        omega

theorem storeAt_spec {index : Nat} (item : α) (inside : index < slice.length) :
    ∃ result, storeAt slice index item = some result ∧
      result.length = slice.length ∧
      ∀ i, result[i]? = if i = index then some item else slice[i]? := by
  refine ⟨_, by rw [storeAt, if_pos inside], List.length_set, ?_⟩
  intro i
  by_cases same : i = index
  · rw [if_pos same, same, List.getElem?_set_self inside]
  · rw [if_neg same, List.getElem?_set_ne (Ne.symm same)]

end Slices

/-- Below the word size a shift is a multiplication. -/
theorem usizeShl_eq (shiftLt : shift < 64) (fits : value * 2 ^ shift < 2 ^ 64) :
    usizeShl value shift = value * 2 ^ shift := by
  rw [usizeShl, Nat.mod_eq_of_lt shiftLt, Nat.shiftLeft_eq, Nat.mod_eq_of_lt fits]

/-- The indices whose leading bits are `pattern` form one range. -/
theorem shiftRight_eq_iff :
    i >>> shift = pattern ↔ pattern * 2 ^ shift ≤ i ∧ i < pattern * 2 ^ shift + 2 ^ shift := by
  have positive := Nat.two_pow_pos shift
  rw [Nat.shiftRight_eq_div_pow, Nat.div_eq_iff positive]
  omega

/-- A pattern of indices splits at the next bit. -/
theorem shiftRight_succ_eq_iff :
    i >>> (shift + 1) = pattern ↔ i >>> shift = 2 * pattern ∨ i >>> shift = 2 * pattern + 1 := by
  rw [Nat.shiftRight_succ]
  omega

theorem two_mul_or_one (pattern : Nat) : 2 * pattern ||| 1 = 2 * pattern + 1 := by
  have shifted := Nat.shiftLeft_add_eq_or_of_lt (show 1 < 2 ^ 1 by decide) pattern
  rw [Nat.shiftLeft_eq, Nat.pow_one, Nat.mul_comm] at shifted
  exact shifted.symm

theorem bitsMsb_succ_of_shiftRight_eq (branch : Bool)
    (range : i >>> shift = 2 * pattern + branch.toNat) :
    bitsMsb (shift + 1) i = branch :: bitsMsb shift i := by
  rw [bitsMsb_succ]
  congr 1
  rw [Nat.testBit_eq_decide_div_mod_eq, ← Nat.shiftRight_eq_div_pow, range]
  cases branch <;> simp

/-- The range of slots below a bit pattern lies inside an array that a `usize`
can index. -/
structure PatternFits (shift pattern length : Nat) : Prop where
  shiftLt : shift < 64
  inside : (pattern + 1) * 2 ^ shift ≤ length
  addressable : length < 2 ^ 64

namespace PatternFits

variable {length : Nat}

theorem usizeShl_pattern (fits : PatternFits shift pattern length) :
    usizeShl pattern shift = pattern * 2 ^ shift := by
  have inside := fits.inside
  have addressable := fits.addressable
  have positive := Nat.two_pow_pos shift
  rw [Nat.add_mul] at inside
  exact usizeShl_eq fits.shiftLt (by omega)

theorem usizeShl_one (fits : PatternFits shift pattern length) :
    usizeShl 1 shift = 2 ^ shift := by
  have small : 1 * 2 ^ shift < 2 ^ 64 := by
    rw [Nat.one_mul]
    exact Nat.pow_lt_pow_right (by decide) fits.shiftLt
  rw [usizeShl_eq fits.shiftLt small, Nat.one_mul]

theorem range_le (fits : PatternFits shift pattern length) :
    pattern * 2 ^ shift + 2 ^ shift ≤ length := by
  have inside := fits.inside
  rwa [Nat.add_mul, Nat.one_mul] at inside

theorem pattern_lt (fits : PatternFits shift pattern length) : pattern < length := by
  have inside := fits.inside
  have positive := Nat.two_pow_pos shift
  exact Nat.lt_of_lt_of_le (Nat.lt_of_lt_of_le (Nat.lt_succ_self pattern)
    (Nat.le_mul_of_pos_right _ positive)) inside

/-- Both halves of a pattern fit. -/
theorem child (fits : PatternFits (shift + 1) pattern length) (branch : Bool) :
    PatternFits shift (2 * pattern + branch.toNat) length := by
  refine ⟨Nat.lt_of_succ_lt fits.shiftLt, ?_, fits.addressable⟩
  have inside := fits.inside
  rw [Nat.pow_succ, Nat.mul_comm (2 ^ shift), ← Nat.mul_assoc] at inside
  refine Nat.le_trans (Nat.mul_le_mul_right _ ?_) inside
  have := branch.toNat_le
  omega

theorem usizeShl_pattern_one (fits : PatternFits (shift + 1) pattern length) :
    usizeShl pattern 1 = 2 * pattern := by
  have half := (fits.child false).pattern_lt
  have addressable := fits.addressable
  simp only [Bool.toNat_false, Nat.add_zero] at half
  rw [usizeShl_eq (by decide) (by omega)]
  omega

end PatternFits

/-- Every stride slot below a pattern receives what its bits resolve to. -/
theorem resolveStride_spec (bin : List BinNode) (shift : Nat) (node : Option Nat)
    (inherited pattern : Nat) (out : List Slot) (fits : PatternFits shift pattern out.length) :
    ∃ result, resolveStride bin shift node inherited pattern out = some result ∧
      result.length = out.length ∧
      ∀ i, result[i]? = if i >>> shift = pattern
        then some (slotAt bin node inherited (bitsMsb shift i)) else out[i]? := by
  induction shift generalizing node inherited pattern out with
  | zero =>
    rw [resolveStride]
    cases branching : node.any (hasChildren bin) with
    | false =>
      obtain ⟨result, filled, length, entries⟩ :=
        fillSlice_spec (Slot.leaf (effective bin node inherited)) fits.range_le
      refine ⟨result, ?_, length, ?_⟩
      · simpa [fits.usizeShl_pattern, fits.usizeShl_one] using filled
      · intro i
        simp only [entries i, shiftRight_eq_iff, slotAt_of_not_branches branching]
    | true =>
      cases node with
      | none => cases branching
      | some id =>
        obtain ⟨result, written, length, entries⟩ :=
          storeAt_spec (Slot.internal id (effective bin (some id) inherited)) fits.pattern_lt
        refine ⟨result, by simpa using written, length, ?_⟩
        intro i
        rw [entries i, bitsMsb_zero, slotAt_nil_of_hasChildren branching]
        rfl
  | succ shift ih =>
    rw [resolveStride]
    cases branching : node.any (hasChildren bin) with
    | false =>
      obtain ⟨result, filled, length, entries⟩ :=
        fillSlice_spec (Slot.leaf (effective bin node inherited)) fits.range_le
      refine ⟨result, ?_, length, ?_⟩
      · simpa [fits.usizeShl_pattern, fits.usizeShl_one] using filled
      · intro i
        simp only [entries i, shiftRight_eq_iff, slotAt_of_not_branches branching]
    | true =>
      obtain ⟨middle, first, firstLength, firstEntries⟩ :=
        ih (childOf bin node false) (effective bin node inherited) _ out (fits.child false)
      obtain ⟨result, second, secondLength, secondEntries⟩ :=
        ih (childOf bin node true) (effective bin node inherited) _ middle
          (firstLength ▸ fits.child true)
      simp only [Bool.toNat_false, Nat.add_zero] at first firstEntries
      simp only [Bool.toNat_true] at second secondEntries
      refine ⟨result, ?_, secondLength.trans firstLength, ?_⟩
      · have odd := two_mul_or_one pattern
        simp [fits.usizeShl_pattern_one, first, second, odd]
      · intro i
        rw [secondEntries, firstEntries]
        by_cases one : i >>> shift = 2 * pattern + 1
        · rw [if_pos one, if_pos (shiftRight_succ_eq_iff.mpr (.inr one)),
            bitsMsb_succ_of_shiftRight_eq true one,
            slotAt_cons_of_branches branching]
        · by_cases zero : i >>> shift = 2 * pattern
          · rw [if_neg one, if_pos zero, if_pos (shiftRight_succ_eq_iff.mpr (.inl zero)),
              bitsMsb_succ_of_shiftRight_eq false zero,
              slotAt_cons_of_branches branching]
          · rw [if_neg one, if_neg zero, if_neg]
            rw [shiftRight_succ_eq_iff]
            exact not_or.mpr ⟨zero, one⟩

end FastSocket.Poptrie
