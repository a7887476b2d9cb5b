import FastSocket.Poptrie.Lookup

/-!
# The table validator

`validateInvariants` checks every index that the unchecked reads of a lookup rely
on.  The source runs it in debug builds only; here every table that a release
build returns is shown to pass it.

The validator returns its error text.  A checked array index of the source is
modelled as an error as well, although the earlier checks rule it out.
-/

namespace FastSocket.Poptrie

open Bits

universe u

variable {V : Type u} {w directBits : Nat}

def validateValueEncoding (encoding valueCount : Nat) : Except String Unit :=
  if encoding = 0 ∨ encoding ≤ valueCount then .ok ()
  else .error s!"value encoding {encoding} exceeds {valueCount} stored values"

/-- The check of one direct entry. -/
def validateDirectEntry (table : Poptrie w directBits V) (i entry : Nat) : Except String Unit :=
  if entry &&& leafFlag ≠ 0 then
    (validateValueEncoding (entry &&& valueMask) table.values.length).mapError
      fun err => s!"direct[{i}] {err}"
  else if entry ≥ table.nodes.length then
    .error s!"direct[{i}] points to node {entry}, but only {table.nodes.length} nodes exist"
  else
    .ok ()

/-- The scan for leaf slots that no leaf run covers. -/
def validateCover (i : Nat) (node : Node) :
    (slots : List Nat) → (coveringRun : Bool) → Except String Unit
  | [], _ => .ok ()
  | slot :: rest, coveringRun =>
    let bit := singleBit 64 slot
    if node.vector &&& bit ≠ 0#64 then
      validateCover i node rest false
    else
      let coveringRun := coveringRun || decide (node.leafvec &&& bit ≠ 0#64)
      if coveringRun then validateCover i node rest coveringRun
      else .error s!"node[{i}] leaf slot {slot} has no covering leaf run"

/-- The check of one node: its bitmaps, its child range and its leaf runs. -/
def validateNode (table : Poptrie w directBits V) (i : Nat) (node : Node) :
    Except String Unit := do
  if node.vector &&& node.leafvec ≠ 0#64 then
    throw s!"node[{i}] marks a slot as both internal and leaf-run start"
  let childStart := node.base1
  let childEnd := childStart + countOnes node.vector
  if childEnd ≥ 2 ^ 64 then
    throw s!"node[{i}] child range overflows"
  if childEnd > table.nodes.length then
    throw s!"node[{i}] child range {childStart}..{childEnd} exceeds {table.nodes.length} nodes"
  let leafStart := node.base0
  let leafEnd := leafStart + countOnes node.leafvec
  if leafEnd ≥ 2 ^ 64 then
    throw s!"node[{i}] leaf range overflows"
  if leafEnd > table.leaves.length then
    throw s!"node[{i}] leaf range {leafStart}..{leafEnd} exceeds {table.leaves.length} leaves"
  validateCover i node (List.range 64) false
  (List.range' leafStart (countOnes node.leafvec)).forM fun leafIndex =>
    match table.leaves[leafIndex]? with
    | none => .error s!"leaves[{leafIndex}] is out of bounds"
    | some encoding =>
      (validateValueEncoding encoding table.values.length).mapError
        fun err => s!"leaves[{leafIndex}] {err}"

/-- The walk over reachable nodes.  `remaining` is `max_strides - depth`; `seen`
holds the depth at which each node was met. -/
def validateReachableNode (table : Poptrie w directBits V) (maxStrides : Nat) :
    (remaining nodeIndex : Nat) → (seen : List (Option Nat)) →
      Except String (List (Option Nat))
  | 0, nodeIndex, _ =>
    .error (s!"node[{nodeIndex}] is reachable at depth {maxStrides}, " ++
      s!"beyond {maxStrides} strides")
  | remaining + 1, nodeIndex, seen =>
    let depth := maxStrides - (remaining + 1)
    match seen.getD nodeIndex none with
    | some seenDepth =>
      if seenDepth = depth then .ok seen
      else .error s!"node[{nodeIndex}] is reachable at depths {seenDepth} and {depth}"
    | none =>
      match table.nodes[nodeIndex]? with
      | none => .error s!"node[{nodeIndex}] is out of bounds"
      | some node =>
        if depth + 1 = maxStrides ∧ node.vector ≠ 0#64 then
          .error s!"node[{nodeIndex}] has internal children at final stride depth {depth}"
        else
          (List.range (countOnes node.vector)).foldlM
            (fun seen childRank =>
              validateReachableNode table maxStrides remaining
                (node.base1 + childRank) seen)
            (seen.set nodeIndex (some depth))

/-- Validates every index invariant that the unchecked lookup relies on. -/
def validateInvariants (table : Poptrie w directBits V) : Except String Unit := do
  if directBits ≥ 64 then
    throw s!"DIRECT_BITS {directBits} exceeds usize width"
  if table.direct.length ≠ 2 ^ directBits then
    throw s!"direct length {table.direct.length} does not match 2^{directBits}"
  table.direct.zipIdx.forM fun entry => validateDirectEntry table entry.2 entry.1
  table.nodes.zipIdx.forM fun node => validateNode table node.2 node.1
  let maxStrides := maxStrides w directBits
  let _ ← (table.direct.filter fun entry => entry &&& leafFlag = 0).foldlM
    (fun seen entry => validateReachableNode table maxStrides maxStrides entry seen)
    (List.replicate table.nodes.length none)
  return ()

/-! ## Built tables pass -/

variable {α : Type*}

private theorem forM_eq_ok (items : List α) {check : α → Except String Unit}
    (passes : ∀ item ∈ items, check item = .ok ()) : items.forM check = .ok () := by
  induction items with
  | nil => rfl
  | cons item rest ih =>
    change (check item >>= fun _ => rest.forM check) = _
    rw [passes item List.mem_cons_self]
    exact ih fun other member => passes other (List.mem_cons_of_mem item member)

private theorem foldlM_eq_ok {β : Type*} (Holds : β → Prop) (items : List α)
    {step : β → α → Except String β} (passes : ∀ item ∈ items, ∀ state, Holds state →
      ∃ next, step state item = .ok next ∧ Holds next) {state : β} (holds : Holds state) :
    ∃ final, items.foldlM step state = .ok final ∧ Holds final := by
  induction items generalizing state with
  | nil => exact ⟨state, rfl, holds⟩
  | cons item rest ih =>
    obtain ⟨next, stepped, nextHolds⟩ := passes item List.mem_cons_self state holds
    rw [List.foldlM_cons, stepped]
    exact ih (fun other member => passes other (List.mem_cons_of_mem item member)) nextHolds

theorem validateValueEncoding_of_le {encoding valueCount : Nat} (le : encoding ≤ valueCount) :
    validateValueEncoding encoding valueCount = .ok () := by
  rw [validateValueEncoding, if_pos (.inr le)]

section Passes

variable {bin : List BinNode} {labels : List Label} {table : Poptrie w directBits V} {i bound : Nat}
  {label : Label} {node : Node} {leaves : List Nat}

theorem validateDirectEntry_ok (encodes : TableEncodes bin labels table) {entry : Nat}
    (found : table.direct[i]? = some entry) : validateDirectEntry table i entry = .ok () := by
  have inside := (List.getElem?_eq_some_iff.mp found).1
  rw [encodes.directLength] at inside
  have stands := encodes.direct i inside
  rw [found] at stands
  have encodingLe := encoding_slotAt_le encodes.inTable (some 0) (Nat.zero_le _)
    (bitsMsb directBits i)
  cases slotEq : slotAt bin (some 0) 0 (bitsMsb directBits i) with
  | leaf value =>
    rw [slotEq] at stands encodingLe
    rw [show entry = leafFlag ||| value from Option.some.inj stands]
    have few := encodes.fewValues
    change value ≤ table.values.length at encodingLe
    rcases leafFlag_or_and (show value < leafFlag by
      rw [valueMask] at few; rw [leafFlag]; omega) with ⟨isLeaf, payload⟩
    rw [validateDirectEntry, if_pos isLeaf, payload, validateValueEncoding_of_le encodingLe]
    rfl
  | internal id value =>
    rw [slotEq] at stands
    rcases stands with ⟨root, isRoot, labelled⟩
    cases isRoot
    have inNodes := (List.getElem?_eq_some_iff.mp labelled).1
    rw [encodes.nodes.labelled] at inNodes
    change entry < table.nodes.length at inNodes
    have notLeaf := and_leafFlag_of_lt (Nat.lt_trans inNodes encodes.fewNodes)
    rw [validateDirectEntry, if_neg (not_not.mpr notLeaf), if_neg (Nat.not_le_of_lt inNodes)]

/-- Scanning the slots of an encoded node finds a run for every leaf slot. -/
theorem validateCover_ok (encodes : NodeEncodes bin bound leaves labels label node)
    (count start : Nat) (coveringRun : Bool) (total : start + count = 64)
    (covering : 0 < start → node.vector.getLsbD (start - 1) = false → coveringRun = true) :
    validateCover i node (List.range' start count) coveringRun = .ok () := by
  induction count generalizing start coveringRun with
  | zero => rfl
  | succ count ih =>
    have bound : start < 64 := by omega
    rw [List.range'_succ, validateCover]
    by_cases internal : node.vector &&& singleBit 64 start ≠ 0#64
    · rw [if_pos internal]
      apply ih (start + 1) false (by omega)
      intro _ clear
      rw [Nat.add_sub_cancel, (and_singleBit_ne_zero_iff _ bound).mp internal] at clear
      cases clear
    · rw [if_neg internal]
      rw [and_singleBit_ne_zero_iff _ bound, Bool.not_eq_true] at internal
      have covers : (coveringRun ||
          decide (node.leafvec &&& singleBit 64 start ≠ 0#64)) = true := by
        rw [Bool.or_eq_true, decide_eq_true_eq, and_singleBit_ne_zero_iff _ bound]
        by_cases starts : node.leafvec.getLsbD start = true
        · exact .inr starts
        · rcases encodes.covered start bound internal (by simpa using starts) with
            ⟨positive, previous⟩
          exact .inl (covering positive previous)
      simp only [covers, if_true]
      exact ih (start + 1) true (by omega) fun _ _ => rfl

theorem validateNode_ok (encodes : TableEncodes bin labels table)
    (fewLeaves : table.leaves.length < 2 ^ 31) (found : table.nodes[i]? = some node) :
    validateNode table i node = .ok () := by
  obtain ⟨node', label, nodeFound, _, nodeEncodes⟩ :=
    encodes.nodes.encoded i (List.getElem?_eq_some_iff.mp found).1
  cases found.symm.trans nodeFound
  have disjoint : node.vector &&& node.leafvec = 0#64 := by
    apply BitVec.eq_of_getLsbD_eq
    intro v _
    rw [BitVec.getLsbD_and, BitVec.getLsbD_zero]
    cases starts : node.leafvec.getLsbD v with
    | false => exact Bool.and_false _
    | true => rw [nodeEncodes.disjoint v starts, Bool.false_and]
  have few := encodes.fewNodes
  rw [leafFlag] at few
  have childEnd := nodeEncodes.childEnd
  rw [encodes.nodes.labelled, ← countOnes_eq_rank] at childEnd
  change node.base1 + countOnes node.vector ≤ table.nodes.length at childEnd
  have leafEnd := nodeEncodes.leafRange
  rw [← countOnes_eq_rank] at leafEnd
  change node.base0 + countOnes node.leafvec ≤ table.leaves.length at leafEnd
  have cover := validateCover_ok (i := i) nodeEncodes 64 0 false rfl (fun positive => by omega)
  rw [← List.range_eq_range'] at cover
  have childSmall : ¬ node.base1 + countOnes node.vector ≥ 2 ^ 64 := by omega
  have leafSmall : ¬ node.base0 + countOnes node.leafvec ≥ 2 ^ 64 := by omega
  rw [validateNode]
  simp only [disjoint, ne_eq, not_true_eq_false, if_false, childSmall, leafSmall,
    Nat.not_lt_of_le childEnd, Nat.not_lt_of_le leafEnd, cover]
  refine forM_eq_ok _ ?_
  intro leafIndex member
  rw [List.mem_range'_1] at member
  obtain ⟨k, rfl⟩ := Nat.exists_eq_add_of_le member.1
  have inside : node.base0 + k < table.leaves.length := by omega
  have valueLe := nodeEncodes.leafValues k (by rw [← countOnes_eq_rank]; omega) _
    (List.getElem?_eq_getElem inside)
  simp only [List.getElem?_eq_getElem inside, validateValueEncoding_of_le valueLe]
  rfl

/-- The recorded depths are those of the node labels. -/
def SeenLabels (labels : List Label) (maxStrides : Nat) (seen : List (Option Nat)) : Prop :=
  ∀ i depth : Nat, seen[i]? = some (some depth) →
    ∃ label : Label, labels[i]? = some label ∧ depth = maxStrides - label.strides

theorem vector_eq_zero_of_last (encodes : TableEncodes bin labels table)
    (nodeEncodes : NodeEncodes bin bound leaves labels label node) (last : label.strides = 1) :
    node.vector = 0#64 := by
  apply BitVec.eq_of_getLsbD_eq
  intro v less
  rw [BitVec.getLsbD_zero, ← Bool.not_eq_true]
  intro member
  have childless := nodeEncodes.childRange _ (rank_lt_rank member less)
  rcases childless with ⟨child, located, strides⟩
  have valid := encodes.nodes.valid child (List.mem_of_getElem? located)
  have positive := valid.strides_pos
  omega

/-- Walking from a labelled node meets every node at the depth of its label. -/
theorem validateReachableNode_ok (encodes : TableEncodes bin labels table) (maxStrides : Nat)
    (remaining : Nat) {nodeIndex : Nat} {seen : List (Option Nat)}
    (labelled : labels[nodeIndex]? = some label) (depth : label.strides = remaining)
    (le : remaining ≤ maxStrides) (seenLabels : SeenLabels labels maxStrides seen) :
    ∃ final, validateReachableNode table maxStrides remaining nodeIndex seen = .ok final ∧
      SeenLabels labels maxStrides final := by
  induction remaining generalizing nodeIndex label seen with
  | zero =>
    have valid := encodes.nodes.valid label (List.mem_of_getElem? labelled)
    exact absurd valid.strides_pos (by omega)
  | succ remaining ih =>
    rw [validateReachableNode]
    cases met : seen.getD nodeIndex none with
    | some seenDepth =>
      have recorded : seen[nodeIndex]? = some (some seenDepth) := by
        rw [List.getD_eq_getElem?_getD] at met
        cases entry : seen[nodeIndex]? with
        | none => simp [entry] at met
        | some value => simpa [entry] using met
      obtain ⟨other, otherFound, depthEq⟩ := seenLabels _ _ recorded
      cases labelled.symm.trans otherFound
      refine ⟨seen, ?_, seenLabels⟩
      simp only [depthEq, depth, if_true]
    | none =>
      have inside : nodeIndex < table.nodes.length := by
        have inLabels := (List.getElem?_eq_some_iff.mp labelled).1
        rwa [encodes.nodes.labelled] at inLabels
      obtain ⟨node, label', nodeFound, labelFound, nodeEncodes⟩ :=
        encodes.nodes.encoded nodeIndex inside
      cases labelled.symm.trans labelFound
      have notFinal : ¬ (maxStrides - (remaining + 1) + 1 = maxStrides ∧
          node.vector ≠ 0#64) := by
        rintro ⟨final, nonzero⟩
        exact nonzero (vector_eq_zero_of_last encodes nodeEncodes (by omega))
      change table.nodes[nodeIndex]? = some node at nodeFound
      simp only [nodeFound, if_neg notFinal]
      refine foldlM_eq_ok (SeenLabels labels maxStrides) _ ?_ ?_
      · intro childRank member state stateLabels
        rw [List.mem_range, countOnes_eq_rank] at member
        obtain ⟨child, located, strides⟩ := nodeEncodes.childRange childRank member
        exact ih located (by omega) (by omega) stateLabels
      · intro i recordedDepth recorded
        rw [List.getElem?_set] at recorded
        split at recorded
        · rename_i same
          subst same
          split at recorded
          · cases recorded
            exact ⟨label, labelled, by rw [depth]⟩
          · cases recorded
        · exact seenLabels i recordedDepth recorded

/-- A table that encodes a trie passes the validator. -/
theorem validateInvariants_ok (encodes : TableEncodes bin labels table)
    (small : directBits < 64) (fewLeaves : table.leaves.length < 2 ^ 31) :
    validateInvariants table = .ok () := by
  have directPasses : table.direct.zipIdx.forM
      (fun entry => validateDirectEntry table entry.2 entry.1) = .ok () := by
    refine forM_eq_ok _ ?_
    rintro ⟨entry, i⟩ member
    exact validateDirectEntry_ok encodes (List.mem_zipIdx_iff_getElem?.mp member)
  have nodesPass : table.nodes.zipIdx.forM
      (fun node => validateNode table node.2 node.1) = .ok () := by
    refine forM_eq_ok _ ?_
    rintro ⟨node, i⟩ member
    exact validateNode_ok encodes fewLeaves (List.mem_zipIdx_iff_getElem?.mp member)
  have rootLabelled : ∀ entry ∈ table.direct.filter (fun entry => entry &&& leafFlag = 0),
      ∃ label, labels[entry]? = some label ∧ label.strides = maxStrides w directBits := by
    intro entry member
    rw [List.mem_filter, decide_eq_true_eq] at member
    obtain ⟨i, inside, located⟩ := List.mem_iff_getElem.mp member.1
    have stands := encodes.direct i (by rwa [← encodes.directLength])
    rw [List.getElem?_eq_getElem inside, located] at stands
    have encodingLe := encoding_slotAt_le encodes.inTable (some 0) (Nat.zero_le _)
      (bitsMsb directBits i)
    cases slotEq : slotAt bin (some 0) 0 (bitsMsb directBits i) with
    | leaf value =>
      rw [slotEq] at stands encodingLe
      change value ≤ table.values.length at encodingLe
      have few := encodes.fewValues
      rw [show entry = leafFlag ||| value from Option.some.inj stands] at member
      exact absurd member.2 (leafFlag_or_and (by
        rw [valueMask] at few; rw [leafFlag]; omega)).1
    | internal id value =>
      rw [slotEq] at stands
      rcases stands with ⟨root, isRoot, labelled⟩
      cases isRoot
      exact ⟨_, labelled, rfl⟩
  have unseen : SeenLabels labels (maxStrides w directBits)
      (List.replicate table.nodes.length none) := by
    intro i depth recorded
    simp [List.getElem?_replicate] at recorded
  obtain ⟨final, walked, _⟩ := foldlM_eq_ok (SeenLabels labels (maxStrides w directBits)) _
    (fun entry member state holds => by
      obtain ⟨label, labelled, strides⟩ := rootLabelled entry member
      exact validateReachableNode_ok encodes _ _ labelled strides (Nat.le_refl _) holds) unseen
  rw [validateInvariants]
  simp only [ge_iff_le, Nat.not_le_of_lt small, if_false, encodes.directLength, ne_eq,
    not_true_eq_false, directPasses, nodesPass, walked]
  rfl

/-- Every table that a release build returns would pass the validator, and no
lookup in it reads outside an array, follows more nodes than there are strides,
or meets a leaf slot that no run covers. -/
theorem buildTable_safe [DecidableEq V] {insertions : List (Insertion w V)}
    (valid : ∀ insertion ∈ insertions, insertion.prefixLen ≤ w) (small : directBits < 64)
    (built : buildTable directBits insertions = .ok table)
    (fewLeaves : table.leaves.length < 2 ^ 31) :
    validateInvariants table = .ok () ∧
      ∀ key, table.lookup key ≠ none ∧
        nodeReads (table.lookupTrace (maxStrides w directBits) key).1 ≤ (w - directBits) / 6 ∧
        ∀ read ∈ (table.lookupTrace (maxStrides w directBits) key).1, table.InBounds read := by
  obtain ⟨accepted, bin, labels, encodes, _⟩ := buildTable_spec valid small built
  refine ⟨validateInvariants_ok encodes small fewLeaves, ?_⟩
  intro key
  have resolves := lookupTrace_spec encodes accepted small key
  refine ⟨?_, resolves.nodes, resolves.inBounds⟩
  rw [lookup, resolves.result]
  exact Option.some_ne_none _

end Passes

theorem sampleTable_safe :
    buildTable 2 sampleInsertions = .ok sampleTable ∧ validateInvariants sampleTable = .ok () ∧
      ∀ key, nodeReads (sampleTable.lookupTrace (maxStrides 32 2) key).1 ≤ 5 := by
  have built : buildTable 2 sampleInsertions = .ok sampleTable := by decide +kernel
  have safe := buildTable_safe (by decide) (by decide) built (by decide)
  exact ⟨built, safe.1, fun key => (safe.2 key).2.1⟩

end FastSocket.Poptrie
