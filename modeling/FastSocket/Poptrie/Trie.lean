import FastSocket.Lpm.PrefixMap
import FastSocket.Poptrie.Builder

/-!
# The binary trie as a prefix map

A builder's node array is read as a prefix map: a path of branch bits leads to a
node, and the node's value index is what the map assigns to the path.  The trie
shape keeps every node at one path, so that inserting a route updates the map at
one word only.
-/

namespace FastSocket.Poptrie

open Bits Lpm

universe u

variable {V : Type u} {w : Nat}

/-! ## Paths -/

/-- The child of an optional trie node for one branch bit. -/
def childOf (bin : List BinNode) (node : Option Nat) (branch : Bool) : Option Nat :=
  node.bind fun id => (binAt bin id).child branch

/-- The trie node a path leads to. -/
def nodeFrom (bin : List BinNode) (node : Option Nat) (path : List Bool) : Option Nat :=
  path.foldl (childOf bin) node

/-- The value index stored at a path, if a route ends there. -/
def stored (bin : List BinNode) (node : Option Nat) : PrefixMap Bool Nat :=
  fun path => (nodeFrom bin node path).bind fun id =>
    if (binAt bin id).value = 0 then none else some (binAt bin id).value

@[simp]
theorem childOf_none (bin : List BinNode) (branch : Bool) : childOf bin none branch = none :=
  rfl

@[simp]
theorem childOf_some (bin : List BinNode) (id : Nat) (branch : Bool) :
    childOf bin (some id) branch = (binAt bin id).child branch :=
  rfl

theorem nodeFrom_cons (bin : List BinNode) (node : Option Nat) (branch : Bool)
    (path : List Bool) :
    nodeFrom bin node (branch :: path) = nodeFrom bin (childOf bin node branch) path :=
  rfl

theorem nodeFrom_append (bin : List BinNode) (node : Option Nat) (first second : List Bool) :
    nodeFrom bin node (first ++ second) = nodeFrom bin (nodeFrom bin node first) second :=
  List.foldl_append

theorem nodeFrom_append_singleton (bin : List BinNode) (node : Option Nat)
    (path : List Bool) (branch : Bool) :
    nodeFrom bin node (path ++ [branch]) = childOf bin (nodeFrom bin node path) branch :=
  nodeFrom_append bin node path [branch]

@[simp]
theorem nodeFrom_none (bin : List BinNode) (path : List Bool) : nodeFrom bin none path = none := by
  induction path with
  | nil => rfl
  | cons branch path ih => rw [nodeFrom_cons, childOf_none, ih]

theorem stored_below (bin : List BinNode) (node : Option Nat) (branch : Bool) :
    (stored bin node).below branch = stored bin (childOf bin node branch) :=
  rfl

@[simp]
theorem children_fst (bin : List BinNode) (node : Option Nat) :
    (children bin node).1 = childOf bin node false := by
  cases node <;> rfl

@[simp]
theorem children_snd (bin : List BinNode) (node : Option Nat) :
    (children bin node).2 = childOf bin node true := by
  cases node <;> rfl

variable {bin : List BinNode} {path : List Bool} {node : Nat}

/-- A node without children leads nowhere. -/
theorem childOf_of_not_branches {node : Option Nat} (flat : node.any (hasChildren bin) = false)
    (branch : Bool) : childOf bin node branch = none := by
  cases node with
  | none => rfl
  | some id =>
    rw [Option.any_some, hasChildren, Bool.or_eq_false_iff, Option.isSome_eq_false_iff,
      Option.isSome_eq_false_iff, Option.isNone_iff_eq_none, Option.isNone_iff_eq_none] at flat
    cases branch
    · exact flat.1
    · exact flat.2

/-! ## The trie shape -/

/-- Every node is reached by at most one path from the root, inside the array and
within the key width. -/
structure TrieShape (w : Nat) (bin : List BinNode) : Prop where
  inRange : ∀ path id, nodeFrom bin (some 0) path = some id → id < bin.length
  unique : ∀ first second id, nodeFrom bin (some 0) first = some id →
    nodeFrom bin (some 0) second = some id → first = second
  depth : ∀ path id, nodeFrom bin (some 0) path = some id → path.length ≤ w

theorem trieShape_new : TrieShape w [BinNode.empty] := by
  have onlyRoot : ∀ path id, nodeFrom [BinNode.empty] (some 0) path = some id →
      path = [] ∧ id = 0 := by
    intro path id reached
    cases path with
    | nil => exact ⟨rfl, (Option.some.inj reached).symm⟩
    | cons branch path =>
      have missing : childOf [BinNode.empty] (some 0) branch = none := by
        cases branch <;> rfl
      rw [nodeFrom_cons, missing, nodeFrom_none] at reached
      cases reached
  refine ⟨?_, ?_, ?_⟩
  · intro path id reached
    rw [(onlyRoot path id reached).2]
    exact Nat.zero_lt_one
  · intro first second id firstReached secondReached
    rw [(onlyRoot first id firstReached).1, (onlyRoot second id secondReached).1]
  · intro path id reached
    rw [(onlyRoot path id reached).1]
    exact Nat.zero_le w

/-! ## Linking a fresh node -/

section Link

variable {branch : Bool}

private theorem binAt_link (inRange : node < bin.length) (id : Nat) :
    binAt ((bin ++ [BinNode.empty]).modify node (·.setChild branch bin.length)) id =
      if id = node then (binAt bin id).setChild branch bin.length else binAt bin id := by
  have appended : (bin ++ [BinNode.empty]).getD id BinNode.empty = binAt bin id := by
    rw [binAt, List.getD_eq_getElem?_getD, List.getD_eq_getElem?_getD]
    rcases Nat.lt_trichotomy id bin.length with below | rfl | above
    · rw [List.getElem?_append_left below]
    · simp
    · rw [List.getElem?_eq_none (by simp; omega), List.getElem?_eq_none (by omega)]
  rw [binAt, List.getD_eq_getElem?_getD, List.getElem?_modify]
  rw [List.getD_eq_getElem?_getD] at appended
  by_cases same : node = id
  · subst same
    have present : (bin ++ [BinNode.empty])[node]? = some (binAt bin node) := by
      rw [List.getElem?_append_left inRange, binAt, List.getD_eq_getElem?_getD,
        List.getElem?_eq_getElem inRange]
      rfl
    simp [present]
  · simp only [if_neg same, if_neg (Ne.symm same)]
    simpa using appended

private theorem child_setChild (target : BinNode) (id : Nat) (other : Bool) :
    (target.setChild branch id).child other =
      if other = branch then some id else target.child other := by
  cases branch <;> cases other <;> rfl

private theorem value_setChild (target : BinNode) (id : Nat) :
    (target.setChild branch id).value = target.value := by
  cases branch <;> rfl

theorem value_binAt_descend (inRange : node < bin.length) (id : Nat) :
    (binAt (descend bin node branch).1 id).value = (binAt bin id).value := by
  rw [descend]
  cases (binAt bin node).child branch with
  | some child => rfl
  | none =>
    simp only [binAt_link inRange]
    by_cases same : id = node
    · rw [if_pos same, value_setChild]
    · rw [if_neg same]

theorem length_le_length_descend : bin.length ≤ (descend bin node branch).1.length := by
  rw [descend]
  cases (binAt bin node).child branch with
  | some child => exact Nat.le_refl _
  | none => simp

/-- One walk step adds at most the path it follows. -/
theorem nodeFrom_descend (branch : Bool) (shape : TrieShape w bin)
    (reached : nodeFrom bin (some 0) path = some node) (query : List Bool) :
    nodeFrom (descend bin node branch).1 (some 0) query =
      if query = path ++ [branch] then some (descend bin node branch).2
      else nodeFrom bin (some 0) query := by
  have here : nodeFrom bin (some 0) (path ++ [branch]) = (binAt bin node).child branch := by
    rw [nodeFrom_append_singleton, reached, childOf_some]
  rw [descend]
  cases missing : (binAt bin node).child branch with
  | some child =>
    by_cases same : query = path ++ [branch]
    · rw [if_pos same, same, here, missing]
    · rw [if_neg same]
  | none =>
    have inRange := shape.inRange path node reached
    have outside : binAt bin bin.length = BinNode.empty := by simp [binAt]
    have childEq : ∀ id other,
        (binAt ((bin ++ [BinNode.empty]).modify node (·.setChild branch bin.length)) id).child
          other = if id = node ∧ other = branch then some bin.length
            else (binAt bin id).child other := by
      intro id other
      rw [binAt_link inRange]
      by_cases same : id = node
      · simp [same, child_setChild]
      · simp [same]
    induction query using List.reverseRecOn with
    | nil =>
      rw [if_neg (by simp)]
      rfl
    | append_singleton query last ih =>
      rw [nodeFrom_append_singleton, ih]
      by_cases below : query = path ++ [branch]
      · -- the fresh node has no children yet
        subst below
        have distinct : bin.length ≠ node := by omega
        rw [if_pos rfl, childOf_some, childEq, if_neg (by simp [distinct]), outside,
          if_neg (by simp), nodeFrom_append_singleton, here, missing]
        cases last <;> rfl
      · rw [if_neg below, nodeFrom_append_singleton]
        cases found : nodeFrom bin (some 0) query with
        | none =>
          have notHere : query ++ [last] ≠ path ++ [branch] := by
            intro equal
            have samePath : query = path := by
              simpa using congrArg List.dropLast equal
            rw [samePath, reached] at found
            cases found
          rw [if_neg notHere]
          rfl
        | some id =>
          rw [childOf_some, childOf_some, childEq]
          have samePath : id = node ↔ query = path := by
            constructor
            · rintro rfl
              exact shape.unique query path id found reached
            · rintro rfl
              exact Option.some.inj (found.symm.trans reached)
          have sameWord : id = node ∧ last = branch ↔ query ++ [last] = path ++ [branch] := by
            rw [samePath]
            simp
          simp only [sameWord]

variable {query : List Bool}

/-- A walk step keeps the paths there are. -/
theorem nodeFrom_descend_of_some (branch : Bool) (shape : TrieShape w bin) {id : Nat}
    (reached : nodeFrom bin (some 0) path = some node)
    (found : nodeFrom bin (some 0) query = some id) :
    nodeFrom (descend bin node branch).1 (some 0) query = some id := by
  rw [nodeFrom_descend branch shape reached]
  by_cases same : query = path ++ [branch]
  · rw [same, nodeFrom_append_singleton, reached, childOf_some] at found
    rw [if_pos same, descend, found]
  · rwa [if_neg same]

/-- The node a walk step arrives at is the fresh one or an existing child. -/
theorem descend_snd_eq (shape : TrieShape w bin) (reached : nodeFrom bin (some 0) path = some node)
    (existing : nodeFrom bin (some 0) query = some (descend bin node branch).2) :
    query = path ++ [branch] := by
  rw [descend] at existing
  cases missing : (binAt bin node).child branch with
  | some child =>
    rw [missing] at existing
    apply shape.unique query (path ++ [branch]) child existing
    rw [nodeFrom_append_singleton, reached, childOf_some, missing]
  | none =>
    rw [missing] at existing
    exact absurd (shape.inRange query _ existing) (Nat.lt_irrefl _)

theorem descend_snd_lt (shape : TrieShape w bin)
    (reached : nodeFrom bin (some 0) path = some node) :
    (descend bin node branch).2 < (descend bin node branch).1.length := by
  rw [descend]
  cases found : (binAt bin node).child branch with
  | some child =>
    apply shape.inRange (path ++ [branch])
    rw [nodeFrom_append_singleton, reached, childOf_some, found]
  | none => simp

/-- A walk step keeps the trie shape. -/
theorem TrieShape.descend (branch : Bool) (shape : TrieShape w bin)
    (reached : nodeFrom bin (some 0) path = some node) (room : path.length < w) :
    TrieShape w (descend bin node branch).1 := by
  have paths := nodeFrom_descend branch shape reached
  refine ⟨?_, ?_, ?_⟩
  · intro query id found
    rw [paths] at found
    split at found
    · rw [← Option.some.inj found]
      exact descend_snd_lt shape reached
    · exact Nat.lt_of_lt_of_le (shape.inRange query id found) length_le_length_descend
  · intro first second id firstFound secondFound
    rw [paths] at firstFound secondFound
    split at firstFound <;> split at secondFound
    · simp_all
    · rename_i firstHere _
      rw [firstHere]
      exact (descend_snd_eq shape reached (secondFound.trans firstFound.symm)).symm
    · rename_i _ secondHere
      rw [secondHere]
      exact descend_snd_eq shape reached (firstFound.trans secondFound.symm)
    · exact shape.unique first second id firstFound secondFound
  · intro query id found
    rw [paths] at found
    split at found
    · rename_i here
      rw [here, List.length_append]
      exact room
    · exact shape.depth query id found

/-- A walk step does not change what the trie stores. -/
theorem stored_descend (shape : TrieShape w bin)
    (reached : nodeFrom bin (some 0) path = some node) :
    stored (descend bin node branch).1 (some 0) = stored bin (some 0) := by
  have inRange := shape.inRange path node reached
  have here : nodeFrom bin (some 0) (path ++ [branch]) = (binAt bin node).child branch := by
    rw [nodeFrom_append_singleton, reached, childOf_some]
  funext query
  simp only [stored, value_binAt_descend inRange, nodeFrom_descend branch shape reached]
  by_cases same : query = path ++ [branch]
  · rw [if_pos same, same, here, descend]
    cases (binAt bin node).child branch with
    | some child => rfl
    | none => simp [binAt, BinNode.empty]
  · rw [if_neg same]

end Link

/-! ## Inserting a route -/

/-- The insertion walk along a list of branch bits. -/
def walk (bin : List BinNode) (node : Nat) (path : List Bool) : List BinNode × Nat :=
  path.foldl (fun state branch => descend state.1 state.2 branch) (bin, node)

/-- Walking a whole path keeps the trie and arrives at the end of the path. -/
theorem walk_spec (start path : List Bool) (shape : TrieShape w bin)
    (reached : nodeFrom bin (some 0) start = some node) (room : start.length + path.length ≤ w) :
    TrieShape w (walk bin node path).1 ∧
      nodeFrom (walk bin node path).1 (some 0) (start ++ path) = some (walk bin node path).2 ∧
      stored (walk bin node path).1 (some 0) = stored bin (some 0) ∧
      (∀ id, (binAt (walk bin node path).1 id).value = (binAt bin id).value) ∧
      ∀ query id, nodeFrom bin (some 0) query = some id →
        nodeFrom (walk bin node path).1 (some 0) query = some id := by
  induction path generalizing bin node start with
  | nil =>
    rw [List.append_nil]
    exact ⟨shape, reached, rfl, fun _ => rfl, fun _ _ => id⟩
  | cons branch path ih =>
    rw [List.length_cons] at room
    have stepReached : nodeFrom (descend bin node branch).1 (some 0) (start ++ [branch]) =
        some (descend bin node branch).2 := by
      rw [nodeFrom_descend branch shape reached, if_pos rfl]
    obtain ⟨walkShape, walkReached, walkStored, walkValues, walkPaths⟩ :=
      ih (start ++ [branch]) (shape.descend branch reached (by omega)) stepReached
        (by rw [List.length_append, List.length_singleton]; omega)
    rw [List.append_assoc, List.singleton_append] at walkReached
    refine ⟨walkShape, walkReached, walkStored.trans (stored_descend shape reached), ?_, ?_⟩
    · intro id
      exact (walkValues id).trans (value_binAt_descend (shape.inRange start node reached) id)
    · intro query id found
      exact walkPaths query id (nodeFrom_descend_of_some branch shape reached found)

theorem binAt_modify_value (index : Nat) (inRange : node < bin.length) (id : Nat) :
    binAt (bin.modify node fun node => { node with value := index }) id =
      if id = node then { binAt bin id with value := index } else binAt bin id := by
  rw [binAt, List.getD_eq_getElem?_getD, List.getElem?_modify]
  by_cases same : node = id
  · subst same
    simp [binAt, List.getElem?_eq_getElem inRange]
  · simp [binAt, same, Ne.symm same]

theorem nodeFrom_modify_value (index : Nat) (inRange : node < bin.length) :
    nodeFrom (bin.modify node fun node => { node with value := index }) = nodeFrom bin := by
  have childEq : childOf (bin.modify node fun node => { node with value := index }) =
      childOf bin := by
    funext target branch
    cases target with
    | none => rfl
    | some id =>
      rw [childOf_some, childOf_some, binAt_modify_value index inRange]
      by_cases same : id = node
      · rw [if_pos same]
        cases branch <;> rfl
      · rw [if_neg same]
  funext start query
  rw [nodeFrom, nodeFrom, childEq]

/-- Writing the value index of a node updates what is stored at its path. -/
theorem stored_modify_value {index : Nat} (shape : TrieShape w bin)
    (reached : nodeFrom bin (some 0) path = some node) (nonzero : index ≠ 0) :
    TrieShape w (bin.modify node fun node => { node with value := index }) ∧
      ∀ query, stored (bin.modify node fun node => { node with value := index }) (some 0) query =
        if query = path then some index else stored bin (some 0) query := by
  have inRange := shape.inRange path node reached
  have paths := nodeFrom_modify_value index inRange
  constructor
  · refine ⟨?_, ?_, ?_⟩
    · simpa only [paths, List.length_modify] using shape.inRange
    · simpa only [paths] using shape.unique
    · simpa only [paths] using shape.depth
  · intro query
    rw [stored, paths]
    by_cases same : query = path
    · simp [same, reached, binAt_modify_value index inRange, nonzero]
    · rw [if_neg same, stored]
      cases found : nodeFrom bin (some 0) query with
      | none => rfl
      | some id =>
        have distinct : id ≠ node := by
          rintro rfl
          exact same (shape.unique query path id found reached)
        simp [binAt_modify_value index inRange, distinct]

end FastSocket.Poptrie
