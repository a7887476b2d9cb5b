import FastSocket.Poptrie.Compact
import FastSocket.Poptrie.Emit

/-!
# Correctness of the direct root and of `build`

The direct array is filled like the slots of one wide stride: an entry is a leaf
encoding, or the index of a node that is labelled with the branching trie node
reached there.  Together with the encoded nodes this describes every table that
`build` returns.
-/

namespace FastSocket.Poptrie

open Bits Lpm

universe u

variable {V : Type u} {w directBits : Nat}

/-- Every emitted node is filled and encodes a valid label. -/
structure AllEncoded (bin : List BinNode) (bound : Nat) (emitter : Emitter)
    (labels : List Label) : Prop where
  labelled : labels.length = emitter.nodes.length
  valid : ∀ label ∈ labels, label.Valid bin bound
  encoded : ∀ i < emitter.nodes.length,
    Encoded bin bound emitter.nodes emitter.leaves labels i

/-- A direct entry stands for a resolved slot. -/
def DirectEntry (strides : Nat) (labels : List Label) (entry : Option Nat) : Slot → Prop
  | .leaf value => entry = some (leafFlag ||| value)
  | .internal id value => ∃ root, entry = some root ∧ labels[root]? = some ⟨id, value, strides⟩

variable {labels : List Label}

theorem DirectEntry.mono {strides : Nat} {labels' : List Label} {entry : Option Nat} {slot : Slot}
    (stands : DirectEntry strides labels entry slot) (isPrefix : labels <+: labels') :
    DirectEntry strides labels' entry slot := by
  cases slot with
  | leaf value => exact stands
  | internal id value =>
    rcases stands with ⟨root, isRoot, found⟩
    obtain ⟨rest, rfl⟩ := isPrefix
    exact ⟨root, isRoot, by
      rw [List.getElem?_append_left (List.getElem?_eq_some_iff.mp found).1, found]⟩

section Emission

variable {bin : List BinNode} {bound strides : Nat}

/-- A fresh subtree is appended to the encoded nodes. -/
theorem buildSubtree_spec (inTable : ∀ id, (binAt bin id).value ≤ bound) {id inherited : Nat}
    {emitter : Emitter} (all : AllEncoded bin bound emitter labels)
    (valid : Label.Valid bin bound ⟨id, inherited, strides⟩) :
    ∃ result more, buildSubtree bin strides id inherited emitter =
        some (result, emitter.nodes.length) ∧
      AllEncoded bin bound result (labels ++ more) ∧
      (labels ++ more)[emitter.nodes.length]? = some ⟨id, inherited, strides⟩ := by
  have reserved : (labels ++ [⟨id, inherited, strides⟩])[emitter.nodes.length]? =
      some (⟨id, inherited, strides⟩ : Label) := by
    rw [← all.labelled]
    simp
  obtain ⟨result, more, run, filled⟩ := fill_spec inTable strides emitter.nodes.length id inherited
    { emitter with nodes := emitter.nodes ++ [Node.default] } (labels ++ [⟨id, inherited, strides⟩])
    valid (by simp [all.labelled]) reserved
  refine ⟨result, ⟨id, inherited, strides⟩ :: more, by rw [buildSubtree, run]; rfl, ?_, ?_⟩
  · have regroup : labels ++ ⟨id, inherited, strides⟩ :: more =
        labels ++ [⟨id, inherited, strides⟩] ++ more := by simp
    refine ⟨by rw [regroup]; exact filled.labelled, ?_, ?_⟩
    · intro label member
      rcases List.mem_append.mp member with old | new
      · exact all.valid label old
      · rcases List.mem_cons.mp new with rfl | deeper
        · exact valid
        · exact filled.valid label deeper
    · intro i inside
      rw [regroup]
      by_cases old : i < emitter.nodes.length
      · have kept := filled.kept i (by simp; omega) (by simp; omega)
        simp only [List.getElem?_append_left old] at kept
        refine (all.encoded i old).mono kept filled.leaves ?_
        rw [List.append_assoc]
        exact List.prefix_append _ _
      · apply filled.encoded
        by_cases isRoot : i = emitter.nodes.length
        · exact .inl (by simp [isRoot])
        · exact .inr ⟨by simp; omega, inside⟩
  · rw [← all.labelled]
    simp

/-- The direct entries below a pattern have been filled: each stands for what its
bits resolve to, and the others are as before. -/
structure DirectFilled (bin : List BinNode) (bound strides shift : Nat) (node : Option Nat)
    (inherited pattern : Nat) (labels : List Label) (before after : Emitter × List Nat) :
    Prop where
  all : AllEncoded bin bound after.1 labels
  length : after.2.length = before.2.length
  entry : ∀ i, i >>> shift = pattern →
    DirectEntry strides labels after.2[i]? (slotAt bin node inherited (bitsMsb shift i))
  kept : ∀ i, i >>> shift ≠ pattern → after.2[i]? = before.2[i]?

variable {shift : Nat} {node : Option Nat} {inherited pattern : Nat} {state : Emitter × List Nat}

/-- A region without longer prefixes is filled with one leaf encoding. -/
theorem fillDirect_flat (fits : PatternFits shift pattern state.2.length)
    (all : AllEncoded bin bound state.1 labels) (flat : node.any (hasChildren bin) = false) :
    ∃ result, fillDirect bin strides shift node inherited pattern state = some result ∧
      DirectFilled bin bound strides shift node inherited pattern labels state result := by
  obtain ⟨direct, filled, length, entries⟩ :=
    fillSlice_spec (leafFlag ||| effective bin node inherited) fits.range_le
  refine ⟨(state.1, direct), ?_, all, length, ?_, ?_⟩
  · rw [← fits.usizeShl_pattern, ← fits.usizeShl_one] at filled
    unfold fillDirect
    simp [flat, filled]
  · intro i range
    rw [slotAt_of_not_branches flat]
    change direct[i]? = _
    rw [entries, if_pos (shiftRight_eq_iff.mp range)]
  · intro i outside
    change direct[i]? = _
    rw [entries, if_neg (fun range => outside (shiftRight_eq_iff.mpr range))]

/-- A node that branches below the direct root is handed to a subtree. -/
theorem fillDirect_root (inTable : ∀ id, (binAt bin id).value ≤ bound)
    (fits : PatternFits 0 pattern state.2.length)
    (all : AllEncoded bin bound state.1 labels) (inheritedLe : inherited ≤ bound)
    (bounded : ∀ path, (nodeFrom bin node path).isSome → path.length ≤ 6 * strides)
    (branching : node.any (hasChildren bin) = true) :
    ∃ result more, fillDirect bin strides 0 node inherited pattern state = some result ∧
      DirectFilled bin bound strides 0 node inherited pattern (labels ++ more) state result := by
  cases node with
  | none => cases branching
  | some id =>
    have valid : Label.Valid bin bound ⟨id, effective bin (some id) inherited, strides⟩ :=
      ⟨branching, bounded, effective_le inTable (some id) inheritedLe⟩
    obtain ⟨emitter, more, run, allAfter, root⟩ := buildSubtree_spec inTable all valid
    obtain ⟨direct, written, length, entries⟩ :=
      storeAt_spec state.1.nodes.length fits.pattern_lt
    refine ⟨(emitter, direct), more, ?_, allAfter, length, ?_, ?_⟩
    · rw [Option.any_some] at branching
      simp [fillDirect, branching, run, written]
    · intro i range
      rw [bitsMsb_zero, slotAt_nil_of_hasChildren branching]
      refine ⟨state.1.nodes.length, ?_, root⟩
      change direct[i]? = _
      rw [entries, if_pos (show i = pattern from range)]
    · intro i outside
      change direct[i]? = _
      rw [entries, if_neg (show ¬ i = pattern from outside)]

/-- Filling both halves of a branching pattern fills the pattern. -/
theorem DirectFilled.join {middle result : Emitter × List Nat} {more last : List Label}
    (branching : node.any (hasChildren bin) = true)
    (zero : DirectFilled bin bound strides shift (childOf bin node false)
      (effective bin node inherited) (2 * pattern) more state middle)
    (one : DirectFilled bin bound strides shift (childOf bin node true)
      (effective bin node inherited) (2 * pattern + 1) last middle result)
    (isPrefix : more <+: last) :
    DirectFilled bin bound strides (shift + 1) node inherited pattern last state result := by
  refine ⟨one.all, one.length.trans zero.length, ?_, ?_⟩
  · intro i range
    rcases shiftRight_succ_eq_iff.mp range with even | odd
    · rw [bitsMsb_succ_of_shiftRight_eq false even,
        slotAt_cons_of_branches branching, one.kept i (by omega)]
      exact (zero.entry i even).mono isPrefix
    · rw [bitsMsb_succ_of_shiftRight_eq true odd, slotAt_cons_of_branches branching]
      exact one.entry i odd
  · intro i outside
    rw [ne_eq, shiftRight_succ_eq_iff, not_or] at outside
    rw [one.kept i outside.2, zero.kept i outside.1]

/-- Every direct entry below a pattern stands for what its bits resolve to. -/
theorem fillDirect_spec (inTable : ∀ id, (binAt bin id).value ≤ bound) (shift : Nat)
    (state : Emitter × List Nat) (labels : List Label)
    (fits : PatternFits shift pattern state.2.length)
    (all : AllEncoded bin bound state.1 labels) (inheritedLe : inherited ≤ bound)
    (bounded : ∀ path, (nodeFrom bin node path).isSome → path.length ≤ shift + 6 * strides) :
    ∃ result more, fillDirect bin strides shift node inherited pattern state = some result ∧
      DirectFilled bin bound strides shift node inherited pattern (labels ++ more)
        state result := by
  induction shift generalizing node inherited pattern state labels with
  | zero =>
    cases branching : node.any (hasChildren bin) with
    | false =>
      obtain ⟨result, run, filled⟩ := fillDirect_flat fits all branching
      exact ⟨result, [], run, by rwa [List.append_nil]⟩
    | true =>
      exact fillDirect_root inTable fits all inheritedLe
        (fun path found => by simpa using bounded path found) branching
  | succ shift ih =>
    cases branching : node.any (hasChildren bin) with
    | false =>
      obtain ⟨result, run, filled⟩ := fillDirect_flat fits all branching
      exact ⟨result, [], run, by rwa [List.append_nil]⟩
    | true =>
      have childBounded : ∀ branch path,
          (nodeFrom bin (childOf bin node branch) path).isSome →
            path.length ≤ shift + 6 * strides := by
        intro branch path found
        have whole := bounded (branch :: path) found
        rw [List.length_cons] at whole
        omega
      have valueLe := effective_le inTable node inheritedLe
      obtain ⟨middle, more, firstRun, first⟩ :=
        ih state labels (fits.child false) all valueLe (childBounded false)
      obtain ⟨result, last, secondRun, second⟩ :=
        ih middle (labels ++ more) (first.length ▸ fits.child true) first.all valueLe
          (childBounded true)
      simp only [Bool.toNat_false, Nat.add_zero] at firstRun first
      simp only [Bool.toNat_true] at secondRun second
      refine ⟨result, more ++ last, ?_, ?_⟩
      · rw [fillDirect]
        simp [branching, fits.usizeShl_pattern_one, two_mul_or_one, firstRun, secondRun]
      · rw [← List.append_assoc]
        exact first.join branching second (List.prefix_append _ _)

end Emission

/-! ## Built tables -/

/-- A table encodes a binary trie: the direct root and the labelled nodes resolve
every stride, and the sizes stay within the payload of an entry. -/
structure TableEncodes (bin : List BinNode) (labels : List Label)
    (table : Poptrie w directBits V) : Prop where
  inTable : ∀ id, (binAt bin id).value ≤ table.values.length
  directLength : table.direct.length = 2 ^ directBits
  direct : ∀ i < 2 ^ directBits, DirectEntry (maxStrides w directBits) labels table.direct[i]?
    (slotAt bin (some 0) 0 (bitsMsb directBits i))
  nodes : AllEncoded bin table.values.length ⟨table.nodes, table.leaves⟩ labels
  fewValues : table.values.length < valueMask
  fewNodes : table.nodes.length < leafFlag

/-- The direct widths that the assertions of `build` accept. -/
structure DirectBitsAccepted (w directBits : Nat) : Prop where
  pos : 1 ≤ directBits
  lt : directBits < w
  tiles : (w - directBits) % stride = 0

theorem DirectBitsAccepted.add_strides (accepted : DirectBitsAccepted w directBits) :
    directBits + 6 * maxStrides w directBits = w := by
  have tiles := accepted.tiles
  have less := accepted.lt
  rw [stride] at tiles
  rw [maxStrides, stride]
  omega

section Build

variable {builder : PoptrieBuilder V} {routes : List (List Bool × V)}

/-- Emission from a represented trie succeeds, and its result encodes the trie. -/
theorem emission_spec {bin : List BinNode} {values : List V}
    (represents : TrieRepresents w bin values routes)
    (accepted : DirectBitsAccepted w directBits) (small : directBits < 64) :
    ∃ emitter direct labels,
      fillDirect bin (maxStrides w directBits) directBits (some 0) 0 0
        ({ nodes := [], leaves := [] }, List.replicate (usizeShl 1 directBits) 0) =
          some (emitter, direct) ∧
      (values.length < valueMask → emitter.nodes.length < leafFlag →
        TableEncodes bin labels
          ({ direct := direct, nodes := emitter.nodes, leaves := emitter.leaves,
             values := values } : Poptrie w directBits V)) := by
  have shifted : usizeShl 1 directBits = 2 ^ directBits := by
    have power : 2 ^ directBits < 2 ^ 64 := Nat.pow_lt_pow_right (by decide) small
    rw [usizeShl_eq small (by rwa [Nat.one_mul]), Nat.one_mul]
  have fits : PatternFits directBits 0 (List.replicate (usizeShl 1 directBits) 0).length := by
    refine ⟨small, ?_, ?_⟩
    · rw [List.length_replicate, shifted, Nat.zero_add, Nat.one_mul]
    · rw [List.length_replicate, shifted]
      exact Nat.pow_lt_pow_right (by decide) small
  have bounded : ∀ path, (nodeFrom bin (some 0) path).isSome →
      path.length ≤ directBits + 6 * maxStrides w directBits := by
    intro path found
    rw [accepted.add_strides]
    obtain ⟨id, reached⟩ := Option.isSome_iff_exists.mp found
    exact represents.shape.depth path id reached
  obtain ⟨⟨emitter, direct⟩, labels, run, filled⟩ :=
    fillDirect_spec represents.inTable directBits ({ nodes := [], leaves := [] }, _) [] fits
      ⟨rfl, by simp, by simp⟩ (Nat.zero_le _) bounded
  rw [List.nil_append] at filled
  refine ⟨emitter, direct, labels, run, fun fewValues fewNodes => ?_⟩
  refine ⟨represents.inTable, ?_, ?_, filled.all, fewValues, fewNodes⟩
  · rw [← shifted]
    simpa using filled.length
  · intro i less
    apply filled.entry
    rw [Nat.shiftRight_eq_div_pow]
    exact Nat.div_eq_of_lt less

variable {table : Poptrie w directBits V}

/-- What `build` has checked and emitted when it returns a table. -/
theorem PoptrieBuilder.of_build (built : builder.build directBits = .ok table) :
    DirectBitsAccepted w directBits ∧
      table.values = (Poptrie.compactLiveValues builder.bin builder.values).2 ∧
      table.values.length < valueMask ∧ table.nodes.length < leafFlag ∧
      fillDirect (Poptrie.compactLiveValues builder.bin builder.values).1 (maxStrides w directBits)
        directBits (some 0) 0 0
        ({ nodes := [], leaves := [] }, List.replicate (usizeShl 1 directBits) 0) =
          some ({ nodes := table.nodes, leaves := table.leaves }, table.direct) := by
  rw [build] at built
  split at built
  · cases built
  · rename_i range
    split at built
    · cases built
    · rename_i tiles
      dsimp only at built
      split at built
      · cases built
      · rename_i fewValues
        split at built
        · cases built
        · rename_i emitter direct filled
          split at built
          · cases built
          · rename_i fewNodes
            cases built
            obtain ⟨pos, lt⟩ := not_not.mp range
            exact ⟨⟨pos, lt, not_not.mp tiles⟩, rfl, not_not.mp fewValues, not_not.mp fewNodes,
              filled⟩

/-- A table that `build` returns encodes a trie of the inserted routes. -/
theorem PoptrieBuilder.build_spec (represents : TrieRepresents w builder.bin builder.values routes)
    (small : directBits < 64) (built : builder.build directBits = .ok table) :
    DirectBitsAccepted w directBits ∧ ∃ bin labels, TableEncodes bin labels table ∧
      TrieRepresents w bin table.values routes := by
  obtain ⟨accepted, values, fewValues, fewNodes, filled⟩ := of_build built
  have compacted := represents.compactLiveValues
  rw [← values] at compacted
  obtain ⟨emitter, direct, labels, run, encodes⟩ := emission_spec compacted accepted small
  cases run.symm.trans filled
  exact ⟨accepted, _, labels, encodes fewValues fewNodes, compacted⟩

/-- The two size assertions of `build`. -/
def BuildError.IsSizeLimit (error : BuildError) : Prop :=
  error = .panic "too many distinct route values for a Poptrie" ∨
    error = .panic "too many Poptrie nodes to index with 31 bits"

/-- With an accepted direct width below 64 bits, `build` stops only at its two
size assertions: it never indexes out of a slice and needs no more recursion
than the strides of the key. -/
theorem PoptrieBuilder.build_error {error : BuildError}
    (represents : TrieRepresents w builder.bin builder.values routes)
    (accepted : DirectBitsAccepted w directBits) (small : directBits < 64)
    (failed : (builder.build directBits : Except BuildError (Poptrie w directBits V)) =
      .error error) : error.IsSizeLimit := by
  obtain ⟨emitter, direct, labels, run, _⟩ :=
    emission_spec represents.compactLiveValues accepted small
  rw [build] at failed
  simp only [accepted.pos, accepted.lt, accepted.tiles, run, and_self, not_true_eq_false,
    if_false] at failed
  split at failed
  · cases failed
    exact .inl rfl
  · split at failed
    · cases failed
      exact .inr rfl
    · cases failed

end Build

end FastSocket.Poptrie
