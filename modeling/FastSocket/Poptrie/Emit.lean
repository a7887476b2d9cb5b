import FastSocket.Poptrie.ScanSlots

/-!
# Correctness of the emitter

Every emitted node is given a label: the trie node it stands for, the value
inherited into it and the number of strides below it.  Labels are assigned when
a node slot is reserved and never change, so a node that has been filled stays
correct while the emitter appends further nodes and leaves.
-/

namespace FastSocket.Poptrie

open Bits

/-- What an emitted node stands for. -/
structure Label where
  binId : Nat
  inherited : Nat
  strides : Nat
deriving DecidableEq, Repr

/-- A label names a branching trie node whose subtree fits its strides. -/
structure Label.Valid (bin : List BinNode) (bound : Nat) (label : Label) : Prop where
  branches : hasChildren bin label.binId = true
  bounded : ∀ path, (nodeFrom bin (some label.binId) path).isSome →
    path.length ≤ 6 * label.strides
  inherited_le : label.inherited ≤ bound

/-- What stride slot `v` of a labelled node resolves to. -/
def Label.slot (bin : List BinNode) (label : Label) (v : Nat) : Slot :=
  slotAt bin (some label.binId) label.inherited (bitsMsb 6 v)

/-- A filled node encodes the 64 slots of its label. -/
structure NodeEncodes (bin : List BinNode) (bound : Nat) (leaves : List Nat)
    (labels : List Label) (label : Label) (node : Node) : Prop where
  internal : ∀ v < 64, ∀ id value, label.slot bin v = .internal id value →
    node.vector.getLsbD v = true ∧
      labels[node.base1 + rank node.vector v]? = some ⟨id, value, label.strides - 1⟩
  leaf : ∀ v < 64, ∀ value, label.slot bin v = .leaf value →
    node.vector.getLsbD v = false ∧ 1 ≤ rank node.leafvec (v + 1) ∧
      leaves[node.base0 + rank node.leafvec (v + 1) - 1]? = some value
  disjoint : ∀ v, node.leafvec.getLsbD v = true → node.vector.getLsbD v = false
  childRange : ∀ k < rank node.vector 64, ∃ child, labels[node.base1 + k]? = some child ∧
    child.strides + 1 = label.strides
  childEnd : node.base1 + rank node.vector 64 ≤ labels.length
  leafRange : node.base0 + rank node.leafvec 64 ≤ leaves.length
  leafValues : ∀ k < rank node.leafvec 64, ∀ value, leaves[node.base0 + k]? = some value →
    value ≤ bound
  covered : ∀ v < 64, node.vector.getLsbD v = false → node.leafvec.getLsbD v = false →
    0 < v ∧ node.vector.getLsbD (v - 1) = false

/-- Node `i` is filled and encodes its label. -/
def Encoded (bin : List BinNode) (bound : Nat) (nodes : List Node) (leaves : List Nat)
    (labels : List Label) (i : Nat) : Prop :=
  ∃ node label, nodes[i]? = some node ∧ labels[i]? = some label ∧
    NodeEncodes bin bound leaves labels label node

variable {i : Nat}

private theorem getElem?_of_prefix {α : Type*} {first second : List α} {item : α}
    (isPrefix : first <+: second) (found : first[i]? = some item) : second[i]? = some item := by
  obtain ⟨rest, rfl⟩ := isPrefix
  rw [List.getElem?_append_left (List.getElem?_eq_some_iff.mp found).1, found]

section Monotone

variable {bin : List BinNode} {bound : Nat} {leaves leaves' : List Nat}
  {labels labels' : List Label}

theorem NodeEncodes.mono {label : Label} {node : Node}
    (encodes : NodeEncodes bin bound leaves labels label node)
    (leavesPrefix : leaves <+: leaves') (labelsPrefix : labels <+: labels') :
    NodeEncodes bin bound leaves' labels' label node where
  internal v less id value resolved :=
    have found := encodes.internal v less id value resolved
    ⟨found.1, getElem?_of_prefix labelsPrefix found.2⟩
  leaf v less value resolved :=
    have found := encodes.leaf v less value resolved
    ⟨found.1, found.2.1, getElem?_of_prefix leavesPrefix found.2.2⟩
  disjoint := encodes.disjoint
  childRange k less := by
    rcases encodes.childRange k less with ⟨child, found, strides⟩
    exact ⟨child, getElem?_of_prefix labelsPrefix found, strides⟩
  childEnd := Nat.le_trans encodes.childEnd labelsPrefix.length_le
  leafRange := Nat.le_trans encodes.leafRange leavesPrefix.length_le
  leafValues k less value found := by
    apply encodes.leafValues k less value
    have inside : node.base0 + k < leaves.length := by
      have range := encodes.leafRange
      omega
    obtain ⟨rest, rfl⟩ := leavesPrefix
    rwa [List.getElem?_append_left inside] at found
  covered := encodes.covered

/-- A filled node stays encoded while leaves and labels are appended. -/
theorem Encoded.mono {nodes nodes' : List Node} (encoded : Encoded bin bound nodes leaves labels i)
    (same : nodes'[i]? = nodes[i]?) (leavesPrefix : leaves <+: leaves')
    (labelsPrefix : labels <+: labels') : Encoded bin bound nodes' leaves' labels' i := by
  rcases encoded with ⟨node, label, nodeFound, labelFound, encodes⟩
  exact ⟨node, label, same.trans nodeFound, getElem?_of_prefix labelsPrefix labelFound,
    encodes.mono leavesPrefix labelsPrefix⟩

end Monotone

/-! ## Labels -/

section Labels

variable {bin : List BinNode} {bound : Nat} {label : Label}

theorem Label.Valid.strides_pos (valid : label.Valid bin bound) : 0 < label.strides := by
  have branches := valid.branches
  rw [hasChildren, Bool.or_eq_true] at branches
  have reach : ∃ branch, (nodeFrom bin (some label.binId) [branch]).isSome := by
    rcases branches with zero | one
    · exact ⟨false, zero⟩
    · exact ⟨true, one⟩
  rcases reach with ⟨branch, found⟩
  have short := valid.bounded [branch] found
  rw [List.length_singleton] at short
  omega

/-- An internal slot of a valid label asks for a valid child label. -/
theorem Label.Valid.child (valid : label.Valid bin bound)
    (inTable : ∀ id, (binAt bin id).value ≤ bound) {v id value : Nat}
    (resolved : label.slot bin v = .internal id value) :
    Label.Valid bin bound ⟨id, value, label.strides - 1⟩ := by
  rcases nodeFrom_of_slotAt_internal resolved with ⟨reached, branches⟩
  refine ⟨branches, ?_, ?_⟩
  · intro path found
    have whole := valid.bounded (bitsMsb 6 v ++ path) (by rwa [nodeFrom_append, reached])
    rw [List.length_append, length_bitsMsb] at whole
    change path.length ≤ 6 * (label.strides - 1)
    omega
  · have le := encoding_slotAt_le inTable (some label.binId) valid.inherited_le (bitsMsb 6 v)
    rw [Label.slot] at resolved
    rwa [resolved] at le

end Labels

/-! ## Filling one node -/

section FillNode

variable {bin : List BinNode} {bound : Nat} {label : Label} {slots : List Slot}
  {base : List Nat} {scan : Scan}

/-- The labels of the children that a scan collected. -/
def childLabels (scan : Scan) (strides : Nat) : List Label :=
  scan.children.map fun child => ⟨child.1, child.2, strides⟩

/-- The node that `fill` writes after its scan encodes the label. -/
theorem nodeEncodes_of_scanned (labels : List Label) (valid : label.Valid bin bound)
    (inTable : ∀ id, (binAt bin id).value ≤ bound) (length : slots.length = 64)
    (resolved : ∀ v < 64, slots[v]? = some (label.slot bin v))
    (scanned : Scanned slots base scan) :
    NodeEncodes bin bound scan.leaves (labels ++ childLabels scan (label.strides - 1)) label
      { vector := scan.vector, leafvec := scan.leafvec, base0 := base.length,
        base1 := labels.length } := by
  have childCount := scanned.childCount
  rw [length] at childCount
  rcases scanned.runs with ⟨runs, leaves, count, members⟩
  rw [length] at count
  refine ⟨?_, ?_, ?_, ?_, ?_, ?_, ?_, ?_⟩
  · intro v less id value isInternal
    have found : slots[v]? = some (.internal id value) := by rw [resolved v less, isInternal]
    refine ⟨by rw [scanned.vector, found]; rfl, ?_⟩
    rw [List.getElem?_append_right (Nat.le_add_right _ _), Nat.add_sub_cancel_left, childLabels,
      List.getElem?_map, scanned.childRank v id value found]
    rfl
  · intro v less value isLeaf
    have found : slots[v]? = some (.leaf value) := by rw [resolved v less, isLeaf]
    exact ⟨by rw [scanned.vector, found]; rfl, scanned.leafRank v value found⟩
  · intro v member
    rcases scanned.leafvec v member with ⟨value, found⟩
    rw [scanned.vector, found]
    rfl
  · intro k less
    have inside : k < scan.children.length := by rwa [childCount]
    refine ⟨⟨scan.children[k].1, scan.children[k].2, label.strides - 1⟩, ?_,
      Nat.sub_add_cancel valid.strides_pos⟩
    rw [List.getElem?_append_right (Nat.le_add_right _ _), Nat.add_sub_cancel_left, childLabels,
      List.getElem?_map, List.getElem?_eq_getElem inside]
    rfl
  · rw [List.length_append, childLabels, List.length_map, childCount]
  · rw [leaves, List.length_append, count]
  · intro k less value found
    rw [leaves, List.getElem?_append_right (Nat.le_add_right _ _),
      Nat.add_sub_cancel_left] at found
    have member := members value (List.mem_of_getElem? found)
    obtain ⟨v, less, located⟩ := List.mem_iff_getElem.mp member
    rw [length] at less
    have slotEq := resolved v less
    rw [List.getElem?_eq_getElem (by omega), located, Option.some.injEq] at slotEq
    have le := encoding_slotAt_le inTable (some label.binId) valid.inherited_le (bitsMsb 6 v)
    rw [Label.slot] at slotEq
    rwa [← slotEq] at le
  · intro v less notInternal notStart
    have found := resolved v less
    cases slotEq : label.slot bin v with
    | internal id value =>
      rw [slotEq] at found
      rw [scanned.vector, found] at notInternal
      cases notInternal
    | leaf value =>
      rw [slotEq] at found
      rcases scanned.covered v value found notStart with ⟨positive, previous, located⟩
      refine ⟨positive, ?_⟩
      rw [scanned.vector, located]
      rfl

end FillNode

/-! ## Filling a subtree -/

section Fill

variable {bin : List BinNode} {bound : Nat}

/-- The result of filling the reserved nodes `targets`: only they and fresh nodes
change, the new labels are valid, and all of these nodes are encoded. -/
structure Filled (bin : List BinNode) (bound : Nat) (targets : List Nat) (labels more : List Label)
    (before after : Emitter) : Prop where
  labelled : (labels ++ more).length = after.nodes.length
  leaves : before.leaves <+: after.leaves
  kept : ∀ i < before.nodes.length, i ∉ targets → after.nodes[i]? = before.nodes[i]?
  valid : ∀ label ∈ more, label.Valid bin bound
  encoded : ∀ i, i ∈ targets ∨ before.nodes.length ≤ i ∧ i < after.nodes.length →
    Encoded bin bound after.nodes after.leaves (labels ++ more) i

variable {labels more : List Label} {before after : Emitter}

theorem Filled.length_le {targets : List Nat}
    (filled : Filled bin bound targets labels more before after)
    (labelled : labels.length = before.nodes.length) :
    before.nodes.length ≤ after.nodes.length := by
  rw [← filled.labelled, ← labelled, List.length_append]
  exact Nat.le_add_right _ _

/-- Filling some nodes and then others fills both. -/
theorem Filled.trans {first second : List Nat} {last : List Label} {middle : Emitter}
    (labelled : labels.length = before.nodes.length)
    (firstFilled : Filled bin bound first labels more before middle)
    (secondFilled : Filled bin bound second (labels ++ more) last middle after)
    (firstInside : ∀ i ∈ first, i < before.nodes.length) :
    Filled bin bound (first ++ second) labels (more ++ last) before after := by
  have middleLe := firstFilled.length_le labelled
  refine ⟨?_, firstFilled.leaves.trans secondFilled.leaves, ?_, ?_, ?_⟩
  · rw [← List.append_assoc]
    exact secondFilled.labelled
  · intro i less notTarget
    rw [List.mem_append, not_or] at notTarget
    rw [secondFilled.kept i (by omega) notTarget.2, firstFilled.kept i less notTarget.1]
  · intro label member
    rcases List.mem_append.mp member with old | new
    · exact firstFilled.valid label old
    · exact secondFilled.valid label new
  · intro i region
    rw [← List.append_assoc]
    by_cases inSecond : i ∈ second ∨ middle.nodes.length ≤ i ∧ i < after.nodes.length
    · exact secondFilled.encoded i inSecond
    · rw [not_or] at inSecond
      have inFirst : i ∈ first ∨ before.nodes.length ≤ i ∧ i < middle.nodes.length := by
        rcases region with target | fresh
        · rcases List.mem_append.mp target with inside | inside
          · exact .inl inside
          · exact absurd inside inSecond.1
        · exact .inr ⟨fresh.1, by omega⟩
      have inside : i < middle.nodes.length := by
        rcases inFirst with target | fresh
        · exact Nat.lt_of_lt_of_le (firstInside i target) middleLe
        · exact fresh.2
      exact (firstFilled.encoded i inFirst).mono (secondFilled.kept i inside inSecond.1)
        secondFilled.leaves (List.prefix_append _ _)

/-- What `fill` does to a reserved node, for one number of strides. -/
def FillCorrect (bin : List BinNode) (bound strides : Nat) : Prop :=
  ∀ (slot binId inherited : Nat) (emitter : Emitter) (labels : List Label),
    Label.Valid bin bound ⟨binId, inherited, strides⟩ →
    labels.length = emitter.nodes.length →
    labels[slot]? = some ⟨binId, inherited, strides⟩ →
    ∃ result more, fill bin strides slot binId inherited emitter = some result ∧
      Filled bin bound [slot] labels more emitter result

/-- Filling the reserved children of a node one after the other. -/
theorem foldlM_fill_spec {strides : Nat} (base1 : Nat)
    (fillCorrect : FillCorrect bin bound strides) (children : List ((Nat × Nat) × Nat)) (emitter : Emitter) (labels : List Label)
    (labelled : labels.length = emitter.nodes.length)
    (valid : ∀ child ∈ children, Label.Valid bin bound ⟨child.1.1, child.1.2, strides⟩)
    (reserved : ∀ child ∈ children,
      labels[base1 + child.2]? = some ⟨child.1.1, child.1.2, strides⟩) :
    ∃ result more,
      children.foldlM (fun emitter child =>
        fill bin strides (base1 + child.2) child.1.1 child.1.2 emitter) emitter = some result ∧
      Filled bin bound (children.map fun child => base1 + child.2) labels more emitter result := by
  induction children generalizing emitter labels with
  | nil =>
    refine ⟨emitter, [], rfl, by simpa using labelled, List.prefix_refl _, fun _ _ _ => rfl,
      by simp, ?_⟩
    rintro i (target | fresh)
    · cases target
    · omega
  | cons child rest ih =>
    have headReserved := reserved child List.mem_cons_self
    obtain ⟨middle, more, filledHead, headFilled⟩ :=
      fillCorrect _ _ _ emitter labels (valid child List.mem_cons_self) labelled headReserved
    obtain ⟨result, last, filledRest, restFilled⟩ :=
      ih middle (labels ++ more) headFilled.labelled
        (fun other member => valid other (List.mem_cons_of_mem _ member))
        (fun other member => getElem?_of_prefix (List.prefix_append labels more)
          (reserved other (List.mem_cons_of_mem _ member)))
    refine ⟨result, more ++ last, ?_, ?_⟩
    · rw [List.foldlM_cons, filledHead]
      exact filledRest
    · rw [List.map_cons]
      refine headFilled.trans labelled restFilled ?_
      intro i target
      rw [List.mem_singleton.mp target, ← labelled]
      exact (List.getElem?_eq_some_iff.mp headReserved).1

private theorem resolved_slots (bin : List BinNode) (label : Label) :
    ∃ slots, resolveStride bin stride (some label.binId) label.inherited 0
        (List.replicate (2 ^ stride) (.leaf 0)) = some slots ∧
      slots.length = 64 ∧ ∀ v < 64, slots[v]? = some (label.slot bin v) := by
  have fits : PatternFits stride 0 (List.replicate (2 ^ stride) (Slot.leaf 0)).length :=
    ⟨by decide, by simp, by rw [List.length_replicate]; decide⟩
  obtain ⟨slots, run, length, entries⟩ :=
    resolveStride_spec bin stride (some label.binId) label.inherited 0 _ fits
  refine ⟨slots, run, by simpa [stride] using length, ?_⟩
  intro v less
  have leading : v >>> stride = 0 := by
    rw [Nat.shiftRight_eq_div_pow]
    exact Nat.div_eq_of_lt less
  rw [entries, if_pos leading]
  rfl

/-- `fill` with as many strides as its label succeeds and encodes the subtree. -/
theorem fill_spec (inTable : ∀ id, (binAt bin id).value ≤ bound) (strides : Nat) :
    FillCorrect bin bound strides := by
  induction strides with
  | zero =>
    intro slot binId inherited emitter labels valid
    exact absurd valid.strides_pos (Nat.lt_irrefl 0)
  | succ strides ih =>
    intro slot binId inherited emitter labels valid labelled reserved
    obtain ⟨slots, resolvedRun, slotsLength, resolved⟩ :=
      resolved_slots bin ⟨binId, inherited, strides + 1⟩
    have scanned := scanSlots_spec slots (scanned_nil emitter.leaves) (by simp [slotsLength])
    rw [List.nil_append] at scanned
    generalize scanEq : scanSlots ([] : List Slot).length slots
      (Scan.start emitter.leaves) = scan at scanned
    have inside : slot < emitter.nodes.length := by
      rw [← labelled]
      exact (List.getElem?_eq_some_iff.mp reserved).1
    obtain ⟨nodes, written, nodesLength, nodeEntries⟩ :=
      storeAt_spec
        (Node.mk scan.vector scan.leafvec emitter.leaves.length emitter.nodes.length)
        (show slot < (emitter.nodes ++
          List.replicate scan.children.length Node.default).length by
            rw [List.length_append]; omega)
    rw [List.length_append, List.length_replicate] at nodesLength
    have encodes := nodeEncodes_of_scanned labels valid inTable slotsLength resolved scanned
    rw [Nat.add_sub_cancel, labelled] at encodes
    have labelsLength : (labels ++ childLabels scan strides).length = nodes.length := by
      rw [List.length_append, childLabels, List.length_map, labelled, nodesLength]
    have childValid : ∀ child ∈ scan.children,
        Label.Valid bin bound ⟨child.1, child.2, strides⟩ := by
      intro child member
      rw [scanned.children, List.mem_filterMap] at member
      obtain ⟨childSlot, isSlot, asChild⟩ := member
      obtain ⟨v, less, located⟩ := List.mem_iff_getElem.mp isSlot
      rw [slotsLength] at less
      have slotEq := resolved v less
      rw [List.getElem?_eq_getElem (by omega), located, Option.some.injEq] at slotEq
      cases childSlot with
      | leaf value => cases asChild
      | internal id value =>
        cases asChild
        exact valid.child inTable slotEq.symm
    obtain ⟨result, more, filledChildren, childrenFilled⟩ :=
      foldlM_fill_spec emitter.nodes.length ih scan.children.zipIdx ⟨nodes, scan.leaves⟩
        (labels ++ childLabels scan strides) labelsLength
        (fun child member => childValid child.1 (List.fst_mem_of_mem_zipIdx member))
        (by
          rintro ⟨child, k⟩ member
          rw [List.mem_zipIdx_iff_getElem?] at member
          rw [← labelled, List.getElem?_append_right (Nat.le_add_right _ _),
            Nat.add_sub_cancel_left, childLabels, List.getElem?_map, member]
          rfl)
    refine ⟨result, childLabels scan strides ++ more, ?_, ?_⟩
    · change scanSlots 0 slots (Scan.start emitter.leaves) = scan at scanEq
      rw [fill, resolvedRun]
      simp only [Option.bind_eq_bind, Option.bind_some, scanEq, written]
      exact filledChildren
    · have slotTarget : slot ∉ scan.children.zipIdx.map
          (fun child => emitter.nodes.length + child.2) := by
        intro member
        obtain ⟨child, _, equal⟩ := List.mem_map.mp member
        omega
      refine ⟨?_, ?_, ?_, ?_, ?_⟩
      · rw [← List.append_assoc]
        exact childrenFilled.labelled
      · rcases scanned.runs with ⟨runs, leaves, _, _⟩
        exact (leaves ▸ List.prefix_append emitter.leaves runs).trans childrenFilled.leaves
      · intro i less notSlot
        rw [List.mem_singleton] at notSlot
        have notChild : i ∉ scan.children.zipIdx.map
            (fun child => emitter.nodes.length + child.2) := by
          intro member
          obtain ⟨child, _, equal⟩ := List.mem_map.mp member
          omega
        rw [childrenFilled.kept i (by change i < nodes.length; omega) notChild]
        change nodes[i]? = _
        rw [nodeEntries, if_neg notSlot, List.getElem?_append_left less]
      · intro label member
        rcases List.mem_append.mp member with child | deeper
        · obtain ⟨source, isChild, rfl⟩ := List.mem_map.mp child
          exact childValid source isChild
        · exact childrenFilled.valid label deeper
      · intro i region
        rw [← List.append_assoc]
        rcases region with target | ⟨fresh, inResult⟩
        · rw [List.mem_singleton.mp target]
          have encoded : Encoded bin bound nodes scan.leaves
              (labels ++ childLabels scan strides) slot :=
            ⟨_, _, by rw [nodeEntries, if_pos rfl],
              getElem?_of_prefix (List.prefix_append _ _) reserved, encodes⟩
          exact encoded.mono
            (childrenFilled.kept slot (by change slot < nodes.length; omega) slotTarget)
            childrenFilled.leaves (List.prefix_append _ _)
        · apply childrenFilled.encoded
          by_cases isChild : i < nodes.length
          · refine .inl (List.mem_map.mpr ?_)
            have index : i - emitter.nodes.length < scan.children.length := by omega
            refine ⟨(scan.children[i - emitter.nodes.length], i - emitter.nodes.length), ?_, ?_⟩
            · rw [List.mem_zipIdx_iff_getElem?]
              exact List.getElem?_eq_getElem index
            · change emitter.nodes.length + (i - emitter.nodes.length) = i
              omega
          · exact .inr ⟨Nat.le_of_not_lt isChild, inResult⟩

end Fill

end FastSocket.Poptrie
