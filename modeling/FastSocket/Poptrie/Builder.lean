import FastSocket.Poptrie.Core

/-!
# Building a poptrie

The offline side of the route table.  Routes are inserted into a binary trie
whose nodes live in one array, values are interned into a deduplicated table,
and `build` emits the direct, node and leaf arrays from the trie.

The recursions of the emitter run on the bits that are left, so that they are
structural; `fill`, which descends one stride at a time, takes the number of
strides left as fuel.
-/

namespace FastSocket.Poptrie

open Bits

universe u

variable {V : Type u} {w : Nat}

/-- A binary-trie node.  A zero `value` means that no route ends here; any other
number is a one-based index into the value table. -/
structure BinNode where
  zero : Option Nat
  one : Option Nat
  value : Nat
deriving DecidableEq, Repr

namespace BinNode

def empty : BinNode :=
  { zero := none, one := none, value := 0 }

/-- The entry of the `children` array for a branch bit. -/
def child (node : BinNode) : Bool → Option Nat
  | false => node.zero
  | true => node.one

def setChild (node : BinNode) (branch : Bool) (id : Nat) : BinNode :=
  match branch with
  | false => { node with zero := some id }
  | true => { node with one := some id }

end BinNode

/-- The binary-trie node with a given index.  The indices the source follows are
always in range. -/
def binAt (bin : List BinNode) (id : Nat) : BinNode :=
  bin.getD id BinNode.empty

/-- How a builder call can stop without a result. -/
inductive BuildError where
  /-- A failed assertion, with its message. -/
  | panic (message : String)
  /-- A slice index out of range while emitting, or a recursion that is deeper
  than the strides of the key. -/
  | emission
deriving DecidableEq, Repr

/-- Collected routes: the binary trie, the interned values and their index. -/
structure PoptrieBuilder (V : Type u) where
  bin : List BinNode
  values : List V
  valueIndex : List (V × Nat)

namespace PoptrieBuilder

/-- An empty builder; index zero is the trie root. -/
def new : PoptrieBuilder V :=
  { bin := [BinNode.empty], values := [], valueIndex := [] }

variable [DecidableEq V]

/-- Returns the one-based table index of a value, inserting it if it is new. -/
def intern (builder : PoptrieBuilder V) (value : V) : PoptrieBuilder V × Nat :=
  match builder.valueIndex.lookup value with
  | some index => (builder, index)
  | none =>
    let index := builder.values.length + 1
    ({ builder with
        values := builder.values ++ [value]
        valueIndex := (value, index) :: builder.valueIndex }, index)

end PoptrieBuilder

/-- One step of the insertion walk: follows the child of a node, creating it if
it is missing. -/
def descend (bin : List BinNode) (node : Nat) (branch : Bool) : List BinNode × Nat :=
  match (binAt bin node).child branch with
  | some child => (bin, child)
  | none =>
    let child := bin.length
    ((bin ++ [BinNode.empty]).modify node (·.setChild branch child), child)

namespace PoptrieBuilder

variable [DecidableEq V]

/-- Inserts a route for the addresses whose top `prefixLen` bits equal those of
`address`. -/
def insert (builder : PoptrieBuilder V) (address : BitVec w) (prefixLen : Nat) (value : V) :
    Except BuildError (PoptrieBuilder V) :=
  if prefixLen ≤ w then
    let (builder, valueIndex) := builder.intern value
    let (bin, node) := (List.range prefixLen).foldl
      (fun (state : List BinNode × Nat) i => descend state.1 state.2 (IpKey.bit address i))
      (builder.bin, 0)
    .ok { builder with bin := bin.modify node fun node => { node with value := valueIndex } }
  else
    .error (.panic s!"prefix_len {prefixLen} exceeds key width {w}")

end PoptrieBuilder

/-- The loop of `compactLiveValues` over the trie nodes: `remap` holds the dense
index of each old value index that was met, `live` the values kept so far. -/
def compactNodes (values : List V) :
    List BinNode → (remap : List Nat) → (live : List V) → List BinNode × List V
  | [], _, live => ([], live)
  | node :: rest, remap, live =>
    let old := node.value
    if old = 0 then
      let (bin, live) := compactNodes values rest remap live
      (node :: bin, live)
    else if remap.getD old 0 = 0 then
      let new := live.length + 1
      let (bin, live) :=
        compactNodes values rest (remap.set old new) (live ++ (values[old - 1]?).toList)
      ({ node with value := new } :: bin, live)
    else
      let (bin, live) := compactNodes values rest remap live
      ({ node with value := remap.getD old 0 } :: bin, live)

/-- Drops interned values that no trie node refers to and renumbers the rest. -/
def compactLiveValues (bin : List BinNode) (values : List V) : List BinNode × List V :=
  compactNodes values bin (List.replicate (values.length + 1) 0) []

/-- What a stride slot resolves to during emission. -/
inductive Slot where
  /-- A deeper node is needed: the trie node and the value inherited into it. -/
  | internal (node inherited : Nat)
  /-- A resolved route, as a value encoding. -/
  | leaf (value : Nat)
deriving DecidableEq, Repr

/-- The arrays that the emitter appends to. -/
structure Emitter where
  nodes : List Node
  leaves : List Nat
deriving DecidableEq, Repr

/-- The value a trie node resolves to: its own, or the one inherited from the
nearest ancestor with a route. -/
def effective (bin : List BinNode) (node : Option Nat) (inherited : Nat) : Nat :=
  match node with
  | some id => if (binAt bin id).value ≠ 0 then (binAt bin id).value else inherited
  | none => inherited

def hasChildren (bin : List BinNode) (id : Nat) : Bool :=
  (binAt bin id).zero.isSome || (binAt bin id).one.isSome

/-- The children of an optional trie node. -/
def children (bin : List BinNode) (node : Option Nat) : Option Nat × Option Nat :=
  match node with
  | some id => ((binAt bin id).zero, (binAt bin id).one)
  | none => (none, none)

/-- `slice[start..start + len].fill(item)`; the range panics when it ends past
the slice. -/
def fillSlice {α : Type*} (slice : List α) (start len : Nat) (item : α) : Option (List α) :=
  if start + len ≤ slice.length then
    some (slice.take start ++ List.replicate len item ++ slice.drop (start + len))
  else
    none

/-- `slice[index] = item`. -/
def storeAt {α : Type*} (slice : List α) (index : Nat) (item : α) : Option (List α) :=
  if index < slice.length then some (slice.set index item) else none

/-- Resolves the stride slots below a trie node, pushing inherited values into the
ranges that fall off the trie.  The first argument is the number of stride bits
left, `STRIDE - depth`. -/
def resolveStride (bin : List BinNode) (shift : Nat) (node : Option Nat)
    (inherited pattern : Nat) (out : List Slot) : Option (List Slot) :=
  let value := effective bin node inherited
  let branches := node.any (hasChildren bin)
  if ¬ branches then
    fillSlice out (usizeShl pattern shift) (usizeShl 1 shift) (.leaf value)
  else
    match shift with
    | 0 => node.bind fun id => storeAt out pattern (.internal id value)
    | shift + 1 =>
      let (zero, one) := children bin node
      (resolveStride bin shift zero value (usizeShl pattern 1) out).bind
        (resolveStride bin shift one value (usizeShl pattern 1 ||| 1))

/-- What the scan over the resolved slots of one node accumulates. -/
structure Scan where
  vector : BitVec 64
  leafvec : BitVec 64
  children : List (Nat × Nat)
  leaves : List Nat
  currentRun : Option Nat
deriving DecidableEq, Repr

/-- The scan state before the first slot, with the leaf array so far. -/
def Scan.start (leaves : List Nat) : Scan :=
  { vector := 0#64, leafvec := 0#64, children := [], leaves := leaves, currentRun := none }

/-- The scan step for slot `i`: an internal slot ends any leaf run, and a leaf is
stored only when it starts a new run. -/
def scanSlot (scan : Scan) (i : Nat) : Slot → Scan
  | .internal child inherited =>
    { scan with
      vector := scan.vector ||| singleBit 64 i
      children := scan.children ++ [(child, inherited)]
      currentRun := none }
  | .leaf value =>
    if scan.currentRun ≠ some value then
      { scan with
        leafvec := scan.leafvec ||| singleBit 64 i
        leaves := scan.leaves ++ [value]
        currentRun := some value }
    else
      scan

/-- The scan over all slots from position `i` on. -/
def scanSlots : (i : Nat) → List Slot → Scan → Scan
  | _, [], scan => scan
  | i, slot :: rest, scan => scanSlots (i + 1) rest (scanSlot scan i slot)

/-- Fills the reserved node at `slot` and emits its children, which are reserved
contiguously before any of them is filled. -/
def fill (bin : List BinNode) :
    (strides : Nat) → (slot binId inherited : Nat) → Emitter → Option Emitter
  | 0, _, _, _, _ => none
  | strides + 1, slot, binId, inherited, emitter => do
      let slots ← resolveStride bin stride (some binId) inherited 0
        (List.replicate (2 ^ stride) (.leaf 0))
      let scan := scanSlots 0 slots (Scan.start emitter.leaves)
      let base0 := emitter.leaves.length
      let base1 := emitter.nodes.length
      let nodes ← storeAt (emitter.nodes ++ List.replicate scan.children.length Node.default) slot
        { vector := scan.vector, leafvec := scan.leafvec, base0 := base0, base1 := base1 }
      scan.children.zipIdx.foldlM
        (fun emitter child => fill bin strides (base1 + child.2) child.1.1 child.1.2 emitter)
        { nodes := nodes, leaves := scan.leaves }

/-- Emits a fresh node subtree and returns its index. -/
def buildSubtree (bin : List BinNode) (strides binId inherited : Nat) (emitter : Emitter) :
    Option (Emitter × Nat) :=
  let slot := emitter.nodes.length
  (fill bin strides slot binId inherited
    { emitter with nodes := emitter.nodes ++ [Node.default] }).map (·, slot)

/-- Fills the direct array below a trie node.  The first argument is the number of
direct bits left, `direct_bits - depth`; a node that still branches there is
handed to a node subtree of `strides` strides. -/
def fillDirect (bin : List BinNode) (strides shift : Nat) (node : Option Nat)
    (inherited pattern : Nat) (state : Emitter × List Nat) : Option (Emitter × List Nat) :=
  let value := effective bin node inherited
  let branches := node.any (hasChildren bin)
  if ¬ branches then
    (fillSlice state.2 (usizeShl pattern shift) (usizeShl 1 shift) (leafFlag ||| value)).map
      (state.1, ·)
  else
    match shift with
    | 0 => do
        let (emitter, root) ← buildSubtree bin strides (← node) value state.1
        let direct ← storeAt state.2 pattern root
        return (emitter, direct)
    | shift + 1 =>
      let (zero, one) := children bin node
      (fillDirect bin strides shift zero value (usizeShl pattern 1) state).bind
        (fillDirect bin strides shift one value (usizeShl pattern 1 ||| 1))

/-- Produces the immutable table, as a release build does. -/
def PoptrieBuilder.build (directBits : Nat) (builder : PoptrieBuilder V) :
    Except BuildError (Poptrie w directBits V) :=
  if ¬ (1 ≤ directBits ∧ directBits < w) then
    .error (.panic s!"DIRECT_BITS must be in 1..{w}")
  else if ¬ (w - directBits) % stride = 0 then
    .error (.panic
      s!"bits below DIRECT_BITS ({w - directBits}) must tile into {stride}-bit strides")
  else
    let (bin, values) := compactLiveValues builder.bin builder.values
    if ¬ values.length < valueMask then
      .error (.panic "too many distinct route values for a Poptrie")
    else
      match fillDirect bin (maxStrides w directBits) directBits (some 0) 0 0
        ({ nodes := [], leaves := [] }, List.replicate (usizeShl 1 directBits) 0) with
      | none => .error .emission
      | some (emitter, direct) =>
        if ¬ emitter.nodes.length < leafFlag then
          .error (.panic "too many Poptrie nodes to index with 31 bits")
        else
          .ok { direct := direct, nodes := emitter.nodes, leaves := emitter.leaves,
                values := values }

end FastSocket.Poptrie
