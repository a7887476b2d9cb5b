import FastSocket.Poptrie.Direct

/-!
# Correctness of lookup

A lookup in a built table follows the labels of the nodes it visits: the rank of
a stride slot in the bitmaps leads to the child with the right label, or to the
leaf run of the slot.  The value it returns is therefore the longest-prefix match
among the inserted routes, and every unchecked read is inside its array.
-/

namespace FastSocket.Poptrie

open Bits Lpm

universe u

variable {V : Type u} {w directBits : Nat}

/-- The value that an encoding stands for. -/
def decode (values : List V) (encoding : Nat) : Option V :=
  if encoding = 0 then none else values[encoding - 1]?

section Lookup

variable {bin : List BinNode} {labels : List Label} {table : Poptrie w directBits V}

theorem value_spec (table : Poptrie w directBits V) {encoding : Nat}
    (le : encoding ≤ table.values.length) :
    (table.value encoding).2 = some (decode table.values encoding) ∧
      ∀ read ∈ (table.value encoding).1, table.InBounds read := by
  rw [value, decode]
  by_cases zero : encoding = 0
  · simp [zero]
  · have inside : encoding - 1 < table.values.length := by omega
    rw [if_neg zero, if_neg zero, List.getElem?_eq_getElem inside]
    refine ⟨rfl, ?_⟩
    intro read member
    rw [List.mem_singleton.mp member]
    exact inside

/-- The number of nodes that a lookup reads. -/
def nodeReads (reads : List Read) : Nat :=
  reads.countP fun
    | .node _ => true
    | _ => false

@[simp]
theorem nodeReads_value (table : Poptrie w directBits V) (encoding : Nat) :
    nodeReads (table.value encoding).1 = 0 := by
  rw [value]
  split <;> rfl

/-- The result and the reads of a lookup that resolves to an encoding. -/
structure Resolves (table : Poptrie w directBits V) (strides encoding : Nat)
    (lookup : List Read × Option (Option V)) : Prop where
  result : lookup.2 = some (decode table.values encoding)
  inBounds : ∀ read ∈ lookup.1, table.InBounds read
  nodes : nodeReads lookup.1 ≤ strides

variable {fuel nodeIndex offset value : Nat}

/-- The leaf step of the lookup loop. -/
theorem lookupLoop_leaf {key : BitVec w} {strides : Nat} {label : Label} {node : Node}
    (nodeFound : table.nodes[nodeIndex]? = some node)
    (nodeEncodes : NodeEncodes bin table.values.length table.leaves labels label node)
    (slotEq : label.slot bin (IpKey.strideAt key offset) = .leaf value) :
    Resolves table (strides + 1) value (table.lookupLoop key (fuel + 1) nodeIndex offset) := by
  have bound := IpKey.strideAt_lt key offset
  rcases nodeEncodes.leaf _ bound value slotEq with ⟨clear, covered, located⟩
  have runsLe : rank node.leafvec (IpKey.strideAt key offset + 1) ≤ rank node.leafvec 64 :=
    rank_mono node.leafvec bound
  have valueLe : value ≤ table.values.length := by
    apply nodeEncodes.leafValues (rank node.leafvec (IpKey.strideAt key offset + 1) - 1) (by omega)
    rwa [← Nat.add_sub_assoc covered]
  have notInternal : ¬ node.vector &&& singleBit 64 (IpKey.strideAt key offset) ≠ 0#64 := by
    rw [and_singleBit_ne_zero_iff _ bound, clear]
    exact Bool.false_ne_true
  rcases value_spec table valueLe with ⟨result, inBounds⟩
  simp only [lookupLoop, nodeFound, if_neg notInternal, countOnes_and_upTo bound, located]
  refine ⟨result, ?_, ?_⟩
  · intro read member
    rcases List.mem_cons.mp member with rfl | member
    · exact (List.getElem?_eq_some_iff.mp nodeFound).1
    · rcases List.mem_cons.mp member with rfl | member
      · exact ⟨covered, (List.getElem?_eq_some_iff.mp located).1⟩
      · exact inBounds read member
  · have noNodes := nodeReads_value table value
    simp only [nodeReads] at noNodes ⊢
    simp [noNodes]

/-- The lookup loop resolves the bits that are left below a labelled node. -/
theorem lookupLoop_spec (encodes : TableEncodes bin labels table) (key : BitVec w)
    {id inherited : Nat} (strides : Nat)
    (labelled : labels[nodeIndex]? = some ⟨id, inherited, strides⟩)
    (total : offset + 6 * strides = w) (enough : strides ≤ fuel) :
    Resolves table strides
      (leafValue bin (some id) inherited (bitsMsb (6 * strides) key.toNat))
      (table.lookupLoop key fuel nodeIndex offset) := by
  induction strides generalizing id inherited fuel nodeIndex offset with
  | zero =>
    have valid := encodes.nodes.valid _ (List.mem_of_getElem? labelled)
    exact absurd valid.strides_pos (Nat.lt_irrefl 0)
  | succ strides ih =>
    obtain ⟨fuel, rfl⟩ := Nat.exists_eq_add_of_le' (Nat.le_trans (Nat.succ_pos strides) enough)
    have inside : nodeIndex < table.nodes.length := by
      rw [← encodes.nodes.labelled]
      exact (List.getElem?_eq_some_iff.mp labelled).1
    obtain ⟨node, label, nodeFound, labelFound, nodeEncodes⟩ :=
      encodes.nodes.encoded nodeIndex inside
    rw [labelled, Option.some.injEq] at labelFound
    subst labelFound
    have bound := IpKey.strideAt_lt key offset
    have chunk := IpKey.bitsMsb_eq_strideAt_append key offset (6 * strides) (by omega)
    rw [show 6 * (strides + 1) = 6 * strides + 6 by omega, chunk, leafValue_append]
    cases slotEq : slotAt bin (some id) inherited (bitsMsb 6 (IpKey.strideAt key offset)) with
    | leaf value => exact lookupLoop_leaf nodeFound nodeEncodes slotEq
    | internal child value =>
      rcases nodeEncodes.internal _ bound child value slotEq with ⟨set, childLabel⟩
      have rest : Resolves table strides _ (table.lookupLoop key fuel _ (offset + stride)) :=
        ih childLabel (by rw [stride]; omega) (by omega)
      have isInternal : node.vector &&& singleBit 64 (IpKey.strideAt key offset) ≠ 0#64 :=
        (and_singleBit_ne_zero_iff _ bound).mpr set
      simp only [lookupLoop, nodeFound, if_pos isInternal, countOnes_and_below bound]
      refine ⟨rest.result, ?_, ?_⟩
      · intro read member
        rcases List.mem_cons.mp member with rfl | member
        · exact inside
        · exact rest.inBounds read member
      · have nodes := rest.nodes
        rw [nodeReads] at nodes ⊢
        rw [List.countP_cons]
        simp only [ite_true]
        omega

theorem leafFlag_or_and (less : value < leafFlag) :
    (leafFlag ||| value) &&& leafFlag ≠ 0 ∧ (leafFlag ||| value) &&& valueMask = value := by
  have sum : leafFlag ||| value = 2 ^ 31 + value := by
    have shifted := Nat.shiftLeft_add_eq_or_of_lt (i := 31) less 1
    rw [Nat.shiftLeft_eq, Nat.one_mul] at shifted
    exact shifted.symm
  constructor
  · intro zero
    have bit := congrArg (fun number => Nat.testBit number 31) zero
    simp only [Nat.testBit_and, leafFlag, Nat.testBit_or, Nat.testBit_two_pow_self,
      Bool.true_or, Bool.and_true, Nat.zero_testBit] at bit
    cases bit
  · rw [sum, valueMask, Nat.and_two_pow_sub_one_eq_mod, Nat.add_mod_left]
    exact Nat.mod_eq_of_lt less

theorem and_leafFlag_of_lt {index : Nat} (less : index < leafFlag) : index &&& leafFlag = 0 := by
  apply Nat.eq_of_testBit_eq
  intro i
  rw [Nat.testBit_and, leafFlag, Nat.testBit_two_pow, Nat.zero_testBit]
  by_cases top : 31 = i
  · subst top
    rw [Nat.testBit_lt_two_pow less]
    rfl
  · simp [top]

/-- A lookup resolves all bits of the key. -/
theorem lookupTrace_spec (encodes : TableEncodes bin labels table)
    (accepted : DirectBitsAccepted w directBits) (small : directBits < 64) (key : BitVec w) :
    Resolves table (maxStrides w directBits) (leafValue bin (some 0) 0 (IpKey.bits key))
      (table.lookupTrace (maxStrides w directBits) key) := by
  have directLe := Nat.le_of_lt accepted.lt
  have index := IpKey.direct_lt key directLe small
  have entry := encodes.direct _ index
  have total := accepted.add_strides
  have rest : w - directBits = 6 * maxStrides w directBits := by omega
  rw [IpKey.bits_eq_direct_append key directLe small, rest, leafValue_append, lookupTrace]
  have inDirect : table.InBounds (.direct (IpKey.direct key directBits)) := by
    change _ < table.direct.length
    rwa [encodes.directLength]
  have encodingLe := encoding_slotAt_le encodes.inTable (some 0) (Nat.zero_le _)
    (bitsMsb directBits (IpKey.direct key directBits))
  cases slotEq : slotAt bin (some 0) 0 (bitsMsb directBits (IpKey.direct key directBits)) with
  | leaf value =>
    rw [slotEq] at entry encodingLe
    change value ≤ table.values.length at encodingLe
    have few := encodes.fewValues
    rcases leafFlag_or_and (show value < leafFlag by
      rw [valueMask] at few; rw [leafFlag]; omega) with ⟨isLeaf, payload⟩
    rcases value_spec table encodingLe with ⟨result, inBounds⟩
    simp only [show table.direct[IpKey.direct key directBits]? = _ from entry, if_pos isLeaf,
      payload]
    refine ⟨result, ?_, ?_⟩
    · intro read member
      rcases List.mem_cons.mp member with rfl | member
      · exact inDirect
      · exact inBounds read member
    · have noNodes := nodeReads_value table value
      simp only [nodeReads] at noNodes ⊢
      simp [noNodes]
  | internal id value =>
    rw [slotEq] at entry
    rcases entry with ⟨root, isRoot, labelled⟩
    have rootLt : root < leafFlag := by
      have inLabels := (List.getElem?_eq_some_iff.mp labelled).1
      rw [encodes.nodes.labelled] at inLabels
      exact Nat.lt_trans inLabels encodes.fewNodes
    have loop := lookupLoop_spec encodes key (maxStrides w directBits) labelled total
      (Nat.le_refl _)
    simp only [isRoot, and_leafFlag_of_lt rootLt, ne_eq, not_true_eq_false, if_false]
    refine ⟨loop.result, ?_, ?_⟩
    · intro read member
      rcases List.mem_cons.mp member with rfl | member
      · exact inDirect
      · exact loop.inBounds read member
    · have nodes := loop.nodes
      simp only [nodeReads] at nodes ⊢
      simpa using nodes

/-- A lookup in a table of represented routes is their longest-prefix match. -/
theorem lookup_eq_longestMatch {routes : List (List Bool × V)}
    (encodes : TableEncodes bin labels table)
    (represents : TrieRepresents w bin table.values routes)
    (accepted : DirectBitsAccepted w directBits) (small : directBits < 64) (key : BitVec w) :
    table.lookup key = some (longestMatch (latest routes) (IpKey.bits key)) := by
  rw [lookup, (lookupTrace_spec encodes accepted small key).result, leafValue_eq_longestMatch]
  congr 1
  have decodedMatch : (longestMatch (stored bin (some 0)) (IpKey.bits key)).map
      (fun index => table.values[index - 1]?) =
        (longestMatch (latest routes) (IpKey.bits key)).map some := by
    rw [← longestMatch_map, ← longestMatch_map, funext represents.decoded]
  cases found : longestMatch (stored bin (some 0)) (IpKey.bits key) with
  | none =>
    rw [found, Option.map_none, eq_comm, Option.map_eq_none_iff] at decodedMatch
    rw [decodedMatch]
    rfl
  | some index =>
    have nonzero : index ≠ 0 := by
      rcases (longestMatch_eq_some_iff _ _ _).mp found with ⟨path, _, assigned, _⟩
      rw [stored, Option.bind_eq_some_iff] at assigned
      obtain ⟨id, _, value⟩ := assigned
      split at value
      · cases value
      · cases value
        assumption
    rw [found, Option.map_some] at decodedMatch
    rw [Option.getD_some, decode, if_neg nonzero]
    cases matched : longestMatch (latest routes) (IpKey.bits key) with
    | none => simp [matched] at decodedMatch
    | some value =>
      rw [matched, Option.map_some, Option.some.injEq] at decodedMatch
      exact decodedMatch

end Lookup

/-! ## Tables from insertions -/

section Tables

variable [DecidableEq V]

/-- Runs a list of `insert` calls on an empty builder and builds the table. -/
def buildTable (directBits : Nat) (insertions : List (Insertion w V)) :
    Except BuildError (Poptrie w directBits V) :=
  (PoptrieBuilder.insertAll insertions).bind (·.build directBits)

namespace Insertion

/-- The same insertion with the address bits below the prefix length cleared. -/
def normalize (insertion : Insertion w V) : Insertion w V :=
  { insertion with address := insertion.masked }

omit [DecidableEq V] in
theorem path_normalize (insertion : Insertion w V) (le : insertion.prefixLen ≤ w) :
    insertion.normalize.path = insertion.path := by
  apply (path_eq_iff insertion.normalize insertion le le).mpr
  refine ⟨rfl, ?_⟩
  rw [masked, normalize, masked, BitVec.and_assoc, BitVec.and_self]

end Insertion

theorem PoptrieBuilder.insert_normalize (builder : PoptrieBuilder V) (insertion : Insertion w V) :
    builder.insert insertion.normalize.address insertion.normalize.prefixLen
        insertion.normalize.value =
      builder.insert insertion.address insertion.prefixLen insertion.value := by
  by_cases le : insertion.prefixLen ≤ w
  · rw [insert_eq_ok builder insertion.normalize le, insert_eq_ok builder insertion le,
      insertion.path_normalize le]
    rfl
  · rw [insert, insert, if_neg le, if_neg (show ¬ insertion.normalize.prefixLen ≤ w from le)]
    rfl

theorem buildTable_map_normalize (insertions : List (Insertion w V)) :
    buildTable directBits (insertions.map Insertion.normalize) =
      buildTable directBits insertions := by
  rw [buildTable, buildTable, PoptrieBuilder.insertAll, PoptrieBuilder.insertAll,
    List.foldlM_map]
  simp only [PoptrieBuilder.insert_normalize]

variable {insertions : List (Insertion w V)} {table : Poptrie w directBits V}

/-- A built table encodes a trie of the inserted routes. -/
theorem buildTable_spec (valid : ∀ insertion ∈ insertions, insertion.prefixLen ≤ w)
    (small : directBits < 64) (built : buildTable directBits insertions = .ok table) :
    DirectBitsAccepted w directBits ∧ ∃ bin labels, TableEncodes bin labels table ∧
      TrieRepresents w bin table.values (PoptrieBuilder.entries insertions) := by
  obtain ⟨builder, inserted, represents⟩ := PoptrieBuilder.insertAll_spec insertions valid
  rw [buildTable, inserted] at built
  exact PoptrieBuilder.build_spec represents.toTrieRepresents small built

/-- Building stops only at the two size assertions. -/
theorem buildTable_error {error : BuildError}
    (valid : ∀ insertion ∈ insertions, insertion.prefixLen ≤ w)
    (accepted : DirectBitsAccepted w directBits) (small : directBits < 64)
    (failed : (buildTable directBits insertions : Except BuildError (Poptrie w directBits V)) =
      .error error) : error.IsSizeLimit := by
  obtain ⟨builder, inserted, represents⟩ := PoptrieBuilder.insertAll_spec insertions valid
  rw [buildTable, inserted] at failed
  exact PoptrieBuilder.build_error represents.toTrieRepresents accepted small failed

/-- The inserted route that a key resolves to: it covers the key, no covering
route has a longer prefix, and no later insertion is for the same prefix. -/
structure Selected (insertions : List (Insertion w V)) (key : BitVec w)
    (chosen : Insertion w V) : Prop where
  covers : chosen.Matches key
  longest : ∀ other ∈ insertions, other.Matches key → other.prefixLen ≤ chosen.prefixLen
  last : ∃ before after, insertions = before ++ chosen :: after ∧
    ∀ later ∈ after, ¬ (later.prefixLen = chosen.prefixLen ∧ later.masked = chosen.masked)

omit [DecidableEq V] in
/-- Longest-prefix matching of the inserted words selects an inserted route. -/
theorem longestMatch_entries_eq_some_iff
    (valid : ∀ insertion ∈ insertions, insertion.prefixLen ≤ w) (key : BitVec w) (value : V) :
    longestMatch (latest (PoptrieBuilder.entries insertions)) (IpKey.bits key) = some value ↔
      ∃ chosen, Selected insertions key chosen ∧ chosen.value = value := by
  rw [longestMatch_eq_some_iff]
  constructor
  · rintro ⟨word, isPrefix, assigned, longest⟩
    rcases (latest_eq_some_iff _ _ _).mp assigned with ⟨before, after, split, unreplaced⟩
    rw [PoptrieBuilder.entries, List.map_eq_append_iff] at split
    obtain ⟨first, second, rfl, firstEq, secondEq⟩ := split
    rw [List.map_eq_cons_iff] at secondEq
    obtain ⟨chosen, rest, rfl, chosenEq, rfl⟩ := secondEq
    rw [Prod.mk.injEq] at chosenEq
    obtain ⟨rfl, rfl⟩ := chosenEq
    have chosenLe := valid chosen (by simp)
    refine ⟨chosen, ⟨(Insertion.matches_iff_path_prefix chosenLe key).mpr isPrefix, ?_, ?_⟩, rfl⟩
    · intro other member covers
      have otherLe := valid other member
      have shorter := longest other.path
        ((Insertion.matches_iff_path_prefix otherLe key).mp covers)
        ((latest_isSome_iff _ _).mpr ⟨_, List.mem_map_of_mem member, rfl⟩)
      rwa [Insertion.length_path otherLe, Insertion.length_path chosenLe] at shorter
    · refine ⟨first, rest, rfl, ?_⟩
      intro later member same
      apply unreplaced _ (List.mem_map_of_mem member)
      exact (Insertion.path_eq_iff _ _ (valid later (by simp [member])) chosenLe).mpr same
  · rintro ⟨chosen, ⟨covers, longest, before, after, rfl, unreplaced⟩, rfl⟩
    have chosenLe := valid chosen (by simp)
    refine ⟨chosen.path, (Insertion.matches_iff_path_prefix chosenLe key).mp covers, ?_, ?_⟩
    · rw [latest_eq_some_iff]
      refine ⟨PoptrieBuilder.entries before, PoptrieBuilder.entries after, ?_, ?_⟩
      · simp [PoptrieBuilder.entries]
      · intro entry member equal
        obtain ⟨later, isLater, rfl⟩ := List.mem_map.mp member
        apply unreplaced later isLater
        exact (Insertion.path_eq_iff _ _ (valid later (by simp [isLater])) chosenLe).mp equal
    · intro other isPrefix assigned
      obtain ⟨entry, member, rfl⟩ := (latest_isSome_iff _ _).mp assigned
      obtain ⟨insertion, isInsertion, rfl⟩ := List.mem_map.mp member
      have le := valid insertion isInsertion
      have shorter := longest insertion isInsertion
        ((Insertion.matches_iff_path_prefix le key).mpr isPrefix)
      rwa [Insertion.length_path le, Insertion.length_path chosenLe]

omit [DecidableEq V] in
theorem longestMatch_entries_eq_none_iff
    (valid : ∀ insertion ∈ insertions, insertion.prefixLen ≤ w) (key : BitVec w) :
    longestMatch (latest (PoptrieBuilder.entries insertions)) (IpKey.bits key) = none ↔
      ∀ insertion ∈ insertions, ¬ insertion.Matches key := by
  rw [longestMatch_eq_none_iff]
  constructor
  · intro unassigned insertion member covers
    have none := unassigned insertion.path
      ((Insertion.matches_iff_path_prefix (valid insertion member) key).mp covers)
    have assigned := (latest_isSome_iff (PoptrieBuilder.entries insertions) insertion.path).mpr
      ⟨_, List.mem_map_of_mem member, rfl⟩
    rw [none] at assigned
    cases assigned
  · intro uncovered word isPrefix
    by_contra assigned
    rw [← ne_eq, ← Option.isSome_iff_ne_none, latest_isSome_iff] at assigned
    obtain ⟨entry, member, rfl⟩ := assigned
    obtain ⟨insertion, isInsertion, rfl⟩ := List.mem_map.mp member
    exact uncovered insertion isInsertion
      ((Insertion.matches_iff_path_prefix (valid insertion isInsertion) key).mpr isPrefix)

/-- A lookup in a built table returns the value of the last insertion for the
longest inserted prefix that covers the key, and nothing exactly when no inserted
prefix covers it.  Address bits below a prefix length have no effect on the
table. -/
theorem lookup_buildTable (valid : ∀ insertion ∈ insertions, insertion.prefixLen ≤ w)
    (small : directBits < 64) (built : buildTable directBits insertions = .ok table) :
    (∀ key, (∃ result, table.lookup key = some result) ∧
      (∀ value, table.lookup key = some (some value) ↔
        ∃ chosen, Selected insertions key chosen ∧ chosen.value = value) ∧
      (table.lookup key = some none ↔ ∀ insertion ∈ insertions, ¬ insertion.Matches key)) ∧
    ∀ others : List (Insertion w V),
      others.map Insertion.normalize = insertions.map Insertion.normalize →
        buildTable directBits others = .ok table := by
  obtain ⟨accepted, bin, labels, encodes, represents⟩ := buildTable_spec valid small built
  constructor
  · intro key
    have found := lookup_eq_longestMatch encodes represents accepted small key
    refine ⟨⟨_, found⟩, ?_, ?_⟩
    · intro value
      rw [found, Option.some.injEq]
      exact longestMatch_entries_eq_some_iff valid key value
    · rw [found, Option.some.injEq]
      exact longestMatch_entries_eq_none_iff valid key
  · intro others same
    rw [← buildTable_map_normalize others, same, buildTable_map_normalize, built]

end Tables

/-- A default route and two insertions of one /8 with different host bits. -/
def sampleInsertions : List (Insertion 32 Nat) :=
  [⟨0x00000000#32, 0, 7⟩, ⟨0x4A000001#32, 8, 5⟩, ⟨0x4A00FFFF#32, 8, 9⟩]

/-- The table of `sampleInsertions` with a two-bit direct root. -/
def sampleTable : Poptrie 32 2 Nat :=
  { direct := [2147483649, 0, 2147483649, 2147483649]
    nodes := [⟨0#64, 0xc01#64, 0, 1⟩]
    leaves := [1, 2, 1]
    values := [7, 9] }

theorem lookup_sampleTable :
    buildTable 2 sampleInsertions = .ok sampleTable ∧
      sampleTable.lookup 0x4A123456#32 = some (some 9) := by
  have built : buildTable 2 sampleInsertions = .ok sampleTable := by decide +kernel
  refine ⟨built, ?_⟩
  apply (((lookup_buildTable (by decide) (by decide) built).1 0x4A123456#32).2.1 9).mpr
  refine ⟨⟨0x4A00FFFF#32, 8, 9⟩, ⟨by decide, by decide, ?_⟩, rfl⟩
  exact ⟨sampleInsertions.take 2, [], rfl, by simp⟩

end FastSocket.Poptrie
