import FastSocket.Poptrie.Trie

/-!
# Correctness of route insertion

After any sequence of insertions the binary trie, read through the interned
value table, is the prefix map of the inserted routes: the last value for each
masked prefix.  Bits of an address below its prefix length play no part.
-/

namespace FastSocket.Poptrie

open Bits Lpm

universe u

variable {V : Type u} {w : Nat}

/-! ## Insertions as words -/

/-- The arguments of one `insert` call. -/
structure Insertion (w : Nat) (V : Type u) where
  address : BitVec w
  prefixLen : Nat
  value : V
deriving DecidableEq, Repr

/-- The netmask of a prefix length. -/
def prefixMask (w prefixLen : Nat) : BitVec w :=
  BitVec.allOnes w <<< (w - prefixLen)

namespace Insertion

/-- The inserted address with the bits below the prefix length cleared. -/
def masked (insertion : Insertion w V) : BitVec w :=
  insertion.address &&& prefixMask w insertion.prefixLen

/-- The inserted prefix covers a key. -/
def Matches (insertion : Insertion w V) (key : BitVec w) : Prop :=
  key &&& prefixMask w insertion.prefixLen = insertion.masked

instance (insertion : Insertion w V) (key : BitVec w) : Decidable (insertion.Matches key) :=
  inferInstanceAs (Decidable (_ = _))

/-- The branch bits of the inserted prefix. -/
def path (insertion : Insertion w V) : List Bool :=
  (IpKey.bits insertion.address).take insertion.prefixLen

end Insertion

variable {prefixLen : Nat}

theorem getLsbD_prefixMask {i : Nat} (bound : i < w) :
    (prefixMask w prefixLen).getLsbD i = decide (w - prefixLen ≤ i) := by
  rw [prefixMask, BitVec.getLsbD_shiftLeft, BitVec.getLsbD_allOnes]
  by_cases low : i < w - prefixLen
  · simp [low, Nat.not_le_of_lt low]
  · simp [bound, low, Nat.le_of_not_lt low]
    omega

/-- Two addresses agree under the netmask of a prefix length exactly when their
leading bits agree. -/
theorem and_prefixMask_eq_iff (first second : BitVec w) (le : prefixLen ≤ w) :
    first &&& prefixMask w prefixLen = second &&& prefixMask w prefixLen ↔
      (IpKey.bits first).take prefixLen = (IpKey.bits second).take prefixLen := by
  constructor
  · intro equal
    rw [IpKey.bits, IpKey.bits, take_bitsMsb _ le, take_bitsMsb _ le]
    apply bitsMsb_congr
    intro i bound
    have inside : w - prefixLen + i < w := by omega
    have bit := congrArg (fun word => BitVec.getLsbD word (w - prefixLen + i)) equal
    simp only [BitVec.getLsbD_and, getLsbD_prefixMask inside] at bit
    rw [Nat.testBit_shiftRight, Nat.testBit_shiftRight]
    simpa [BitVec.getLsbD] using bit
  · intro equal
    apply BitVec.eq_of_getLsbD_eq
    intro i bound
    rw [BitVec.getLsbD_and, BitVec.getLsbD_and, getLsbD_prefixMask bound]
    by_cases high : w - prefixLen ≤ i
    · have position := congrArg (fun bits => bits[w - 1 - i]?) equal
      have inside : w - 1 - i < prefixLen := by omega
      have index : w - 1 - (w - 1 - i) = i := by omega
      simp only [List.getElem?_take, if_pos inside, IpKey.bits,
        getElem?_bitsMsb _ (show w - 1 - i < w by omega), index, Option.some.injEq] at position
      rw [BitVec.getLsbD, BitVec.getLsbD, position]
    · simp [high]

namespace Insertion

variable {insertion : Insertion w V}

theorem length_path (le : insertion.prefixLen ≤ w) :
    insertion.path.length = insertion.prefixLen := by
  rw [path, List.length_take, IpKey.bits, length_bitsMsb, Nat.min_eq_left le]

/-- Covering a key is being a prefix of its bits. -/
theorem matches_iff_path_prefix (le : insertion.prefixLen ≤ w) (key : BitVec w) :
    insertion.Matches key ↔ insertion.path <+: IpKey.bits key := by
  rw [Matches, masked, and_prefixMask_eq_iff key insertion.address le, eq_comm,
    List.prefix_iff_eq_take, length_path le]
  rfl

/-- Equal words are equal masked prefixes of equal length. -/
theorem path_eq_iff (insertion other : Insertion w V) (le : insertion.prefixLen ≤ w)
    (otherLe : other.prefixLen ≤ w) :
    insertion.path = other.path ↔
      insertion.prefixLen = other.prefixLen ∧ insertion.masked = other.masked := by
  constructor
  · intro equal
    have lengths := congrArg List.length equal
    rw [length_path le, length_path otherLe] at lengths
    refine ⟨lengths, ?_⟩
    rw [masked, masked, ← lengths, and_prefixMask_eq_iff _ _ le]
    simpa only [path, ← lengths] using equal
  · rintro ⟨lengths, equal⟩
    rw [masked, masked, ← lengths, and_prefixMask_eq_iff _ _ le] at equal
    rw [path, path, ← lengths, equal]

end Insertion

/-! ## Inserting -/

/-- A binary trie with a value table represents the prefix map of a list of
entries. -/
structure TrieRepresents (w : Nat) (bin : List BinNode) (values : List V)
    (routes : List (List Bool × V)) : Prop where
  shape : TrieShape w bin
  inTable : ∀ id, (binAt bin id).value ≤ values.length
  decoded : ∀ path, (stored bin (some 0) path).map (fun index => values[index - 1]?) =
    (latest routes path).map some

namespace PoptrieBuilder

variable [DecidableEq V]

/-- Runs the `insert` calls of a list on an empty builder. -/
def insertAll (insertions : List (Insertion w V)) : Except BuildError (PoptrieBuilder V) :=
  insertions.foldlM
    (fun builder insertion =>
      builder.insert insertion.address insertion.prefixLen insertion.value) new

/-- The entries a list of insertions makes in the prefix map of routes. -/
def entries (insertions : List (Insertion w V)) : List (List Bool × V) :=
  insertions.map fun insertion => (insertion.path, insertion.value)

/-- The builder represents the prefix map of a list of entries. -/
structure Represents (w : Nat) (builder : PoptrieBuilder V) (routes : List (List Bool × V)) :
    Prop extends TrieRepresents w builder.bin builder.values routes where
  interned : ∀ value index, builder.valueIndex.lookup value = some index →
    index ≠ 0 ∧ builder.values[index - 1]? = some value

theorem represents_new : Represents w (new : PoptrieBuilder V) [] := by
  have storedEq : ∀ path, stored (new : PoptrieBuilder V).bin (some 0) path = none := by
    intro path
    cases path with
    | nil => rfl
    | cons branch path =>
      have missing : childOf [BinNode.empty] (some 0) branch = none := by
        cases branch <;> rfl
      rw [stored, nodeFrom_cons]
      change (nodeFrom [BinNode.empty] (childOf [BinNode.empty] (some 0) branch) path).bind _ = _
      rw [missing, nodeFrom_none]
      rfl
  refine ⟨⟨trieShape_new, ?_, ?_⟩, ?_⟩
  · intro id
    cases id <;> exact Nat.le_refl 0
  · intro path
    rw [storedEq]
    rfl
  · intro value index found
    cases found

omit [DecidableEq V] in
/-- The bits that the insertion loop reads are the word of the prefix. -/
theorem map_bit_range (address : BitVec w) (le : prefixLen ≤ w) :
    (List.range prefixLen).map (IpKey.bit address) = (IpKey.bits address).take prefixLen := by
  apply List.ext_getElem?
  intro i
  rw [List.getElem?_map, List.getElem?_take]
  by_cases bound : i < prefixLen
  · rw [if_pos bound, List.getElem?_range bound, Option.map_some, IpKey.bits,
      getElem?_bitsMsb _ (by omega), IpKey.bit_eq_testBit _ (by omega)]
  · rw [if_neg bound, List.getElem?_eq_none (by simpa using bound), Option.map_none]

omit [DecidableEq V] in
theorem foldl_descend_eq_walk (bin : List BinNode) (address : BitVec w) (le : prefixLen ≤ w) :
    (List.range prefixLen).foldl
      (fun (state : List BinNode × Nat) i => descend state.1 state.2 (IpKey.bit address i))
      (bin, 0) = walk bin 0 ((IpKey.bits address).take prefixLen) := by
  rw [walk, ← map_bit_range address le, List.foldl_map]

/-- An accepted insertion interns the value, walks the prefix and writes the index. -/
theorem insert_eq_ok (builder : PoptrieBuilder V) (insertion : Insertion w V)
    (le : insertion.prefixLen ≤ w) :
    builder.insert insertion.address insertion.prefixLen insertion.value =
      .ok { (builder.intern insertion.value).1 with
        bin := (walk (builder.intern insertion.value).1.bin 0 insertion.path).1.modify
          (walk (builder.intern insertion.value).1.bin 0 insertion.path).2
          fun node => { node with value := (builder.intern insertion.value).2 } } := by
  rw [insert, if_pos le, Insertion.path, ← foldl_descend_eq_walk _ _ le]

variable {builder : PoptrieBuilder V} {routes : List (List Bool × V)}

/-- Interning returns an index that decodes to the value and keeps older ones. -/
theorem intern_spec (represents : Represents w builder routes) (value : V) :
    Represents w (builder.intern value).1 routes ∧
      (builder.intern value).2 ≠ 0 ∧
      (builder.intern value).1.values[(builder.intern value).2 - 1]? = some value := by
  rw [intern]
  cases found : builder.valueIndex.lookup value with
  | some index => exact ⟨represents, represents.interned value index found⟩
  | none =>
    refine ⟨⟨⟨represents.shape, ?_, ?_⟩, ?_⟩, by simp, by simp⟩
    · intro id
      have := represents.inTable id
      simp only [List.length_append, List.length_singleton]
      omega
    · intro path
      have decoded := represents.decoded path
      cases here : stored builder.bin (some 0) path with
      | none => rwa [here] at decoded
      | some index =>
        rw [here, Option.map_some] at decoded
        rw [← decoded, Option.map_some]
        cases assigned : latest routes path with
        | none => simp [assigned] at decoded
        | some assignedValue =>
          rw [assigned, Option.map_some] at decoded
          have inside := (List.getElem?_eq_some_iff.mp (Option.some.inj decoded)).1
          rw [List.getElem?_append_left inside]
    · intro other index located
      simp only [List.lookup_cons] at located
      by_cases same : other = value
      · subst same
        simp at located
        subst located
        simp
      · rw [beq_eq_false_iff_ne.mpr same] at located
        rcases represents.interned other index located with ⟨nonzero, decoded⟩
        refine ⟨nonzero, ?_⟩
        rw [List.getElem?_append_left, decoded]
        exact (List.getElem?_eq_some_iff.mp decoded).1

/-- One insertion appends one entry to the prefix map. -/
theorem insert_spec (represents : Represents w builder routes) (insertion : Insertion w V)
    (le : insertion.prefixLen ≤ w) :
    ∃ next, builder.insert insertion.address insertion.prefixLen insertion.value = .ok next ∧
      Represents w next (routes ++ [(insertion.path, insertion.value)]) := by
  obtain ⟨internRepresents, nonzero, decodes⟩ := intern_spec represents insertion.value
  obtain ⟨walkShape, reached, walkStored, walkValues, _⟩ :=
    walk_spec [] insertion.path internRepresents.shape rfl
      (by rw [Insertion.length_path le]; simpa using le)
  rw [List.nil_append] at reached
  obtain ⟨shape, storedEq⟩ := stored_modify_value walkShape reached nonzero
  refine ⟨_, insert_eq_ok builder insertion le, ?_⟩
  refine ⟨⟨shape, ?_, ?_⟩, internRepresents.interned⟩
  · intro id
    have inside := (List.getElem?_eq_some_iff.mp decodes).1
    have old := internRepresents.inTable id
    rw [← walkValues id] at old
    simp only [binAt, List.getD_eq_getElem?_getD, List.getElem?_modify] at old ⊢
    cases present : (walk (builder.intern insertion.value).1.bin 0 insertion.path).1[id]? with
    | none => exact Nat.zero_le _
    | some node =>
      rw [present] at old
      change (Option.getD (some (if _ then _ else node)) BinNode.empty).value ≤ _
      rw [Option.getD_some]
      split
      · change (builder.intern insertion.value).2 ≤ _
        omega
      · exact old
  · intro path
    rw [latest_append_singleton]
    change (stored ((walk (builder.intern insertion.value).1.bin 0 insertion.path).1.modify _ _)
      (some 0) path).map _ = _
    rw [storedEq]
    by_cases same : path = insertion.path
    · rw [if_pos same, if_pos same, Option.map_some, Option.map_some, decodes]
    · rw [if_neg same, if_neg same, walkStored]
      exact internRepresents.decoded path

/-- Any sequence of insertions within the key width represents its entries. -/
theorem insertAll_spec (insertions : List (Insertion w V))
    (valid : ∀ insertion ∈ insertions, insertion.prefixLen ≤ w) :
    ∃ builder, insertAll insertions = .ok builder ∧
      Represents w builder (entries insertions) := by
  induction insertions using List.reverseRecOn with
  | nil => exact ⟨new, rfl, represents_new⟩
  | append_singleton insertions insertion ih =>
    obtain ⟨builder, inserted, represents⟩ :=
      ih fun other member => valid other (List.mem_append_left _ member)
    obtain ⟨next, step, nextRepresents⟩ :=
      insert_spec represents insertion (valid insertion (by simp))
    refine ⟨next, ?_, ?_⟩
    · rw [insertAll] at inserted ⊢
      rw [List.foldlM_append, inserted]
      exact (congrArg (· >>= pure) step : _)
    · simpa [entries] using nextRepresents

end PoptrieBuilder

end FastSocket.Poptrie
