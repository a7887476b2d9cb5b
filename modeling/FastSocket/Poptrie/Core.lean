import FastSocket.Bits.Bitmap
import FastSocket.Bits.Msb

/-!
# Poptrie tables and lookup

The read side of the route table: fixed-width keys, the node and table arrays,
and the lookup loop.  Keys are `BitVec w`, so one model serves both key
types of the source (`u32` and `u128`).

Array indices and value encodings are natural numbers.  The source stores them
as `u32`; a table that `build` returns keeps them below `2 ^ 31`, where the
casts of the source are exact.  The flag bit of a direct entry and the two
64-bit bitmaps of a node keep their bit-level form.
-/

namespace FastSocket

open Bits

namespace Poptrie

/-- Stride width in bits. -/
def stride : Nat := 6

/-- Top bit of a direct entry: set for a leaf, clear for a node index. -/
def leafFlag : Nat := 2 ^ 31

/-- The value payload below `leafFlag`. -/
def valueMask : Nat := 2 ^ 31 - 1

/-- A left shift of a 64-bit `usize` in a release build: the shift amount is
taken modulo 64 and high bits are lost. -/
def usizeShl (value shift : Nat) : Nat :=
  value <<< (shift % 64) % 2 ^ 64

namespace IpKey

variable {w : Nat}

/-- Bit `i` of a key, counting from the most significant bit. -/
def bit (key : BitVec w) (i : Nat) : Bool :=
  (key >>> (w - 1 - i)) &&& 1#w == 1#w

/-- The six-bit chunk that starts `offset` bits below the top. -/
def strideAt (key : BitVec w) (offset : Nat) : Nat :=
  (key >>> (w - offset - stride)).toNat &&& 0x3f

/-- The top `bits` bits of a key as an array index. -/
def direct (key : BitVec w) (bits : Nat) : Nat :=
  (key >>> (w - bits)).toNat % 2 ^ 64

end IpKey

/-- An internal node: two bitmaps over the 64 stride slots and two base offsets. -/
structure Node where
  /-- Bit `i` is set when stride slot `i` is an internal child. -/
  vector : BitVec 64
  /-- Bit `i` is set when stride slot `i` begins a new leaf run. -/
  leafvec : BitVec 64
  /-- Index into `leaves` of the first leaf run of this node. -/
  base0 : Nat
  /-- Index into `nodes` of the first child of this node. -/
  base1 : Nat
deriving DecidableEq, Repr

/-- The node value that reserves a slot before it is filled. -/
def Node.default : Node :=
  { vector := 0#64, leafvec := 0#64, base0 := 0, base1 := 0 }

end Poptrie

/-- An immutable lookup table with a `directBits`-wide direct root. -/
structure Poptrie (w directBits : Nat) (V : Type*) where
  /-- Leaf entries carry `leafFlag`; the others are indices into `nodes`. -/
  direct : List Nat
  nodes : List Poptrie.Node
  /-- One value encoding per leaf run: `0` is no route, `n + 1` is `values[n]`. -/
  leaves : List Nat
  values : List V
deriving DecidableEq, Repr

namespace Poptrie

/-- One unchecked array read of a lookup, with the index it computes. -/
inductive Read where
  | direct (index : Nat)
  | node (index : Nat)
  /-- A leaf read at `base0 + runs - 1`. -/
  | leaf (base0 runs : Nat)
  | value (index : Nat)
deriving DecidableEq, Repr

variable {w directBits : Nat} {V : Type*}

/-- Resolves a value encoding.  The outer `none` is a read past the end of
`values`, which the source performs unchecked. -/
def value (table : Poptrie w directBits V) (encoding : Nat) :
    List Read × Option (Option V) :=
  if encoding = 0 then
    ([], some none)
  else
    ([.value (encoding - 1)], (table.values[encoding - 1]?).map some)

/-- The descent below the direct root.  It returns the unchecked reads in order
and the result; the outer `none` is a read past the end of an array, or a loop
that has not stopped after `fuel` nodes. -/
def lookupLoop (table : Poptrie w directBits V) (key : BitVec w) :
    (fuel nodeIndex offset : Nat) → List Read × Option (Option V)
  | 0, _, _ => ([], none)
  | fuel + 1, nodeIndex, offset =>
    match table.nodes[nodeIndex]? with
    | none => ([.node nodeIndex], none)
    | some node =>
      let v := IpKey.strideAt key offset
      let bit := singleBit 64 v
      if node.vector &&& bit ≠ 0#64 then
        let child := node.base1 + countOnes (node.vector &&& (bit - 1#64))
        let rest := lookupLoop table key fuel child (offset + stride)
        (.node nodeIndex :: rest.1, rest.2)
      else
        let mask := bit ||| (bit - 1#64)
        let runs := countOnes (node.leafvec &&& mask)
        match table.leaves[node.base0 + runs - 1]? with
        | none => ([.node nodeIndex, .leaf node.base0 runs], none)
        | some encoding =>
          let result := table.value encoding
          (.node nodeIndex :: .leaf node.base0 runs :: result.1, result.2)

/-- A lookup together with its unchecked reads, following at most `fuel` nodes. -/
def lookupTrace (table : Poptrie w directBits V) (fuel : Nat) (key : BitVec w) :
    List Read × Option (Option V) :=
  let index := IpKey.direct key directBits
  match table.direct[index]? with
  | none => ([.direct index], none)
  | some entry =>
    if entry &&& leafFlag ≠ 0 then
      let result := table.value (entry &&& valueMask)
      (.direct index :: result.1, result.2)
    else
      let rest := lookupLoop table key fuel entry directBits
      (.direct index :: rest.1, rest.2)

/-- The number of strides below the direct root. -/
def maxStrides (w directBits : Nat) : Nat :=
  (w - directBits) / stride

/-- The value of the most specific prefix that matches `key`.  The outer `none`
means that the source lookup would read past an array or not stop. -/
def lookup (table : Poptrie w directBits V) (key : BitVec w) : Option (Option V) :=
  (table.lookupTrace (maxStrides w directBits) key).2

/-- The index of an unchecked read is inside the array it reads, and a leaf read
is covered by at least one run. -/
def InBounds (table : Poptrie w directBits V) : Read → Prop
  | .direct index => index < table.direct.length
  | .node index => index < table.nodes.length
  | .leaf base0 runs => 1 ≤ runs ∧ base0 + runs - 1 < table.leaves.length
  | .value index => index < table.values.length

instance (table : Poptrie w directBits V) : DecidablePred table.InBounds
  | .direct _ => Nat.decLt _ _
  | .node _ => Nat.decLt _ _
  | .leaf _ _ => instDecidableAnd
  | .value _ => Nat.decLt _ _

/-! ## Keys as bit lists -/

namespace IpKey

/-- The bits of a key, most significant first. -/
def bits (key : BitVec w) : List Bool :=
  bitsMsb w key.toNat

theorem bit_eq_testBit (key : BitVec w) {i : Nat} (bound : i < w) :
    bit key i = key.toNat.testBit (w - 1 - i) := by
  have positive : 0 < w := by omega
  have onlyLow : (key >>> (w - 1 - i)) &&& 1#w =
      if key.getLsbD (w - 1 - i) then 1#w else 0#w := by
    apply BitVec.eq_of_getLsbD_eq
    intro j _
    rw [BitVec.getLsbD_and, BitVec.getLsbD_ushiftRight, BitVec.getLsbD_one]
    by_cases zero : j = 0
    · subst zero
      cases member : key.getLsbD (w - 1 - i) <;> simp [positive]
    · cases key.getLsbD (w - 1 - i) <;> simp [zero]
  have oneNeZero : (0#w == 1#w) = false := by
    rw [beq_eq_false_iff_ne]
    intro equal
    have := congrArg BitVec.toNat equal
    simp [BitVec.toNat_ofNat, Nat.mod_eq_of_lt (Nat.one_lt_two_pow (by omega : w ≠ 0))] at this
  rw [bit, onlyLow, ← BitVec.getLsbD]
  cases key.getLsbD (w - 1 - i) <;> simp [oneNeZero]

theorem strideAt_eq (key : BitVec w) (offset : Nat) :
    strideAt key offset = (key.toNat >>> (w - offset - 6)) % 2 ^ 6 := by
  rw [strideAt, stride, BitVec.toNat_ushiftRight]
  exact Nat.and_two_pow_sub_one_eq_mod _ 6

theorem strideAt_lt (key : BitVec w) (offset : Nat) : strideAt key offset < 64 := by
  rw [strideAt_eq]
  exact Nat.mod_lt _ (by decide)

theorem direct_eq (key : BitVec w) (le : directBits ≤ w) (small : directBits < 64) :
    direct key directBits = key.toNat >>> (w - directBits) := by
  rw [direct, BitVec.toNat_ushiftRight]
  apply Nat.mod_eq_of_lt
  apply Nat.lt_of_lt_of_le _ (Nat.pow_le_pow_right (by decide) (Nat.le_of_lt small))
  rw [Nat.shiftRight_eq_div_pow]
  apply Nat.div_lt_of_lt_mul
  rw [← Nat.pow_add, Nat.sub_add_cancel le]
  exact key.isLt

theorem direct_lt (key : BitVec w) (le : directBits ≤ w) (small : directBits < 64) :
    direct key directBits < 2 ^ directBits := by
  rw [direct_eq key le small, Nat.shiftRight_eq_div_pow]
  apply Nat.div_lt_of_lt_mul
  rw [← Nat.pow_add, Nat.sub_add_cancel le]
  exact key.isLt

/-- The direct index holds the leading bits of the key. -/
theorem bits_eq_direct_append (key : BitVec w) (le : directBits ≤ w) (small : directBits < 64) :
    bits key = bitsMsb directBits (direct key directBits) ++
      bitsMsb (w - directBits) key.toNat := by
  rw [bits, direct_eq key le small, ← bitsMsb_add, Nat.add_sub_cancel' le]

/-- A stride chunk holds the next six bits of the key. -/
theorem bitsMsb_eq_strideAt_append (key : BitVec w) (offset remaining : Nat)
    (total : offset + (remaining + 6) = w) :
    bitsMsb (remaining + 6) key.toNat =
      bitsMsb 6 (strideAt key offset) ++ bitsMsb remaining key.toNat := by
  have shift : w - offset - 6 = remaining := by omega
  rw [strideAt_eq, shift, bitsMsb_mod, ← bitsMsb_add, Nat.add_comm 6]

end IpKey

end Poptrie

end FastSocket
