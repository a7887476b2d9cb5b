import FastSocket.Poptrie.Lookup
import Mathlib.Data.Finset.Card

/-!
# The stored values

A built table stores each value of the final prefix map once and no other value.  The
builder interns a value once, every trie node with a value is on a path, and compaction
keeps a value at the first node that refers to it.
-/

namespace FastSocket.Poptrie

open Lpm

universe u

variable {V : Type u} {w : Nat}

/-- The number of distinct route values stored. -/
def valueCount {directBits : Nat} (table : Poptrie w directBits V) : Nat :=
  table.values.length

/-! ## The final map -/

/-- Two insertions are for the same masked prefix and length. -/
def Insertion.SamePrefix (first second : Insertion w V) : Prop :=
  first.masked = second.masked ∧ first.prefixLen = second.prefixLen

instance (first second : Insertion w V) : Decidable (first.SamePrefix second) :=
  instDecidableAnd

/-- The values of the map from masked prefix and length to the last inserted value. -/
def finalValues : List (Insertion w V) → List V
  | [] => []
  | insertion :: rest =>
    if ∃ other ∈ rest, other.SamePrefix insertion then finalValues rest
    else insertion.value :: finalValues rest

variable {insertions : List (Insertion w V)} {value : V} {routes : List (List Bool × V)}
  {values live : List V} {remap : List Nat} {bin : List BinNode}

theorem mem_finalValues :
    value ∈ finalValues insertions ↔
      ∃ before insertion after, insertions = before ++ insertion :: after ∧
        insertion.value = value ∧ ∀ other ∈ after, ¬ other.SamePrefix insertion := by
  induction insertions with
  | nil => simp [finalValues]
  | cons insertion rest ih =>
    have later : (∃ before last after, insertion :: rest = before ++ last :: after ∧
        last.value = value ∧ ∀ other ∈ after, ¬ other.SamePrefix last) ↔
          (insertion.value = value ∧ ∀ other ∈ rest, ¬ other.SamePrefix insertion) ∨
            value ∈ finalValues rest := by
      rw [ih]
      constructor
      · rintro ⟨before, last, after, split, isValue, unreplaced⟩
        cases before with
        | nil =>
          cases split
          exact .inl ⟨isValue, unreplaced⟩
        | cons _ before =>
          cases split
          exact .inr ⟨before, last, after, rfl, isValue, unreplaced⟩
      · rintro (⟨isValue, unreplaced⟩ | ⟨before, last, after, rfl, isValue, unreplaced⟩)
        · exact ⟨[], insertion, rest, rfl, isValue, unreplaced⟩
        · exact ⟨insertion :: before, last, after, rfl, isValue, unreplaced⟩
    rw [later, finalValues]
    split
    · rename_i replaced
      obtain ⟨other, member, same⟩ := replaced
      exact ⟨.inr, fun either => either.resolve_left fun first => first.2 other member same⟩
    · rename_i unreplaced
      rw [List.mem_cons, eq_comm]
      simp_all

/-- The final map in terms of the words of the prefixes. -/
theorem exists_latest_iff (valid : ∀ insertion ∈ insertions, insertion.prefixLen ≤ w) :
    (∃ path, latest (PoptrieBuilder.entries insertions) path = some value) ↔
      value ∈ finalValues insertions := by
  have samePath : ∀ first ∈ insertions, ∀ second ∈ insertions,
      first.path = second.path ↔ first.SamePrefix second := by
    intro first isFirst second isSecond
    rw [Insertion.path_eq_iff _ _ (valid first isFirst) (valid second isSecond), and_comm]
    rfl
  rw [mem_finalValues]
  simp only [latest_eq_some_iff, PoptrieBuilder.entries]
  constructor
  · rintro ⟨path, before, after, split, unreplaced⟩
    obtain ⟨early, rest, rfl, rfl, isRest⟩ := List.map_eq_append_iff.mp split
    obtain ⟨insertion, late, rfl, isEntry, rfl⟩ := List.map_eq_cons_iff.mp isRest
    cases isEntry
    refine ⟨early, insertion, late, rfl, rfl, fun other member same => ?_⟩
    refine unreplaced _ (List.mem_map_of_mem member) ((samePath other ?_ insertion ?_).mpr same)
    · simp [member]
    · simp
  · rintro ⟨before, insertion, after, rfl, rfl, unreplaced⟩
    refine ⟨insertion.path, _, _, List.map_append, fun entry member same => ?_⟩
    obtain ⟨other, isOther, rfl⟩ := List.mem_map.mp member
    refine unreplaced other isOther ((samePath other ?_ insertion ?_).mp same)
    · simp [isOther]
    · simp

/-! ## Interned values -/

namespace PoptrieBuilder

variable [DecidableEq V]

/-- Values are interned once, and every node with a value is on a path. -/
structure Interned (builder : PoptrieBuilder V) : Prop where
  nodup : builder.values.Nodup
  known : ∀ value ∈ builder.values, builder.valueIndex.lookup value ≠ none
  reached : ∀ id, (binAt builder.bin id).value ≠ 0 →
    ∃ path, nodeFrom builder.bin (some 0) path = some id

theorem interned_new : (new : PoptrieBuilder V).Interned where
  nodup := List.nodup_nil
  known _ member := by cases member
  reached id := by
    intro nonzero
    cases id <;> exact absurd rfl nonzero

variable {builder : PoptrieBuilder V}

theorem Interned.intern (interned : builder.Interned) (value : V) :
    (builder.intern value).1.Interned := by
  rw [PoptrieBuilder.intern]
  cases found : builder.valueIndex.lookup value with
  | some index => exact interned
  | none =>
    have fresh : value ∉ builder.values := fun member => interned.known value member found
    refine ⟨?_, ?_, interned.reached⟩
    · exact List.nodup_append_comm.mp (List.nodup_cons.mpr ⟨fresh, interned.nodup⟩)
    · intro other member
      rw [List.lookup_cons]
      by_cases same : other = value
      · simp [same]
      · rw [beq_eq_false_iff_ne.mpr same]
        rcases List.mem_append.mp member with old | new
        · exact interned.known other old
        · exact absurd (List.mem_singleton.mp new) same

theorem Interned.insert {next : PoptrieBuilder V} (interned : builder.Interned)
    (represents : Represents w builder routes) (insertion : Insertion w V)
    (le : insertion.prefixLen ≤ w)
    (inserted : builder.insert insertion.address insertion.prefixLen insertion.value = .ok next) :
    next.Interned := by
  rw [insert_eq_ok builder insertion le] at inserted
  cases inserted
  have internInterned := interned.intern insertion.value
  obtain ⟨walkShape, reached, -, walkValues, walkPaths⟩ :=
    walk_spec [] insertion.path (intern_spec represents insertion.value).1.shape rfl
      (by rw [Insertion.length_path le]; simpa using le)
  have inRange := walkShape.inRange _ _ reached
  refine ⟨internInterned.nodup, internInterned.known, ?_⟩
  intro id nonzero
  rw [nodeFrom_modify_value _ inRange]
  rw [binAt_modify_value _ inRange] at nonzero
  split at nonzero
  · rename_i same
    exact ⟨_, same ▸ reached⟩
  · rw [walkValues] at nonzero
    obtain ⟨path, found⟩ := internInterned.reached id nonzero
    exact ⟨path, walkPaths path id found⟩

theorem interned_insertAll (insertions : List (Insertion w V))
    (valid : ∀ insertion ∈ insertions, insertion.prefixLen ≤ w)
    (inserted : insertAll insertions = .ok builder) : builder.Interned := by
  induction insertions using List.reverseRecOn generalizing builder with
  | nil =>
    cases inserted
    exact interned_new
  | append_singleton insertions insertion ih =>
    have validBefore : ∀ other ∈ insertions, other.prefixLen ≤ w :=
      fun other member => valid other (List.mem_append_left _ member)
    obtain ⟨before, insertedBefore, represents⟩ := insertAll_spec insertions validBefore
    refine (ih validBefore insertedBefore).insert represents insertion (valid insertion (by simp)) ?_
    rw [insertAll] at inserted insertedBefore
    rw [List.foldlM_append, insertedBefore] at inserted
    simp only [List.foldlM_cons, List.foldlM_nil, bind_pure] at inserted
    exact inserted

end PoptrieBuilder

/-! ## Live values -/

/-- A value index is recorded exactly when its value is kept. -/
def Records (values : List V) (remap : List Nat) (live : List V) : Prop :=
  remap.length = values.length + 1 ∧
    ∀ old value, old ≠ 0 → values[old - 1]? = some value → (remap.getD old 0 = 0 ↔ value ∉ live)

theorem Records.push {old : Nat} (records : Records values remap live) (distinct : values.Nodup)
    (nonzero : old ≠ 0) (found : values[old - 1]? = some value) :
    Records values (remap.set old (live.length + 1)) (live ++ [value]) := by
  obtain ⟨sized, recorded⟩ := records
  have inside := (List.getElem?_eq_some_iff.mp found).1
  refine ⟨List.length_set.trans sized, fun other otherValue otherNonzero isOther => ?_⟩
  rw [List.getD_eq_getElem?_getD]
  by_cases same : old = other
  · subst same
    rw [List.getElem?_set_self (by omega)]
    cases found.symm.trans isOther
    simp
  · have differs : otherValue ≠ value := by
      rintro rfl
      have := (List.getElem?_inj inside distinct).mp (found.trans isOther.symm)
      omega
    rw [List.getElem?_set_ne same, ← List.getD_eq_getElem?_getD, recorded other _ otherNonzero isOther]
    simp [differs]

/-- The compaction loop keeps the values of the nodes, each once. -/
theorem compactNodes_live (distinct : values.Nodup) (nodes : List BinNode)
    (records : Records values remap live) (nodup : live.Nodup)
    (inTable : ∀ node ∈ nodes, node.value ≤ values.length) :
    (compactNodes values nodes remap live).2.Nodup ∧
      ∀ value, value ∈ (compactNodes values nodes remap live).2 ↔
        value ∈ live ∨ ∃ node ∈ nodes, node.value ≠ 0 ∧ values[node.value - 1]? = some value := by
  induction nodes generalizing remap live with
  | nil => exact ⟨nodup, by simp [compactNodes]⟩
  | cons node rest ih =>
    have restInTable : ∀ node ∈ rest, node.value ≤ values.length :=
      fun other member => inTable other (List.mem_cons_of_mem node member)
    have bound := inTable node List.mem_cons_self
    rw [compactNodes]
    by_cases unset : node.value = 0
    · rw [if_pos unset]
      simpa [unset] using ih records nodup restInTable
    · have inside : node.value - 1 < values.length := by omega
      have found := List.getElem?_eq_getElem inside
      have isLive := records.2 node.value _ unset found
      rw [if_neg unset]
      by_cases fresh : remap.getD node.value 0 = 0
      · rw [if_pos fresh]
        have added : (live ++ [values[node.value - 1]]).Nodup :=
          List.nodup_append_comm.mp (List.nodup_cons.mpr ⟨isLive.mp fresh, nodup⟩)
        simp only [found, Option.toList_some]
        obtain ⟨restNodup, members⟩ := ih (records.push distinct unset found) added restInTable
        refine ⟨restNodup, fun value => ?_⟩
        rw [members]
        simp [unset, found, or_assoc, eq_comm]
      · rw [if_neg fresh]
        obtain ⟨restNodup, members⟩ := ih records nodup restInTable
        refine ⟨restNodup, fun value => ?_⟩
        have kept : values[node.value - 1] ∈ live := not_not.mp (mt isLive.mpr fresh)
        rw [members]
        simp only [List.mem_cons, exists_eq_or_imp, found]
        constructor
        · exact fun either => either.imp_right .inr
        · rintro (old | ⟨_, ⟨⟩⟩ | later)
          · exact .inl old
          · exact .inl kept
          · exact .inr later

theorem compactLiveValues_live (distinct : values.Nodup)
    (inTable : ∀ id, (binAt bin id).value ≤ values.length) :
    (compactLiveValues bin values).2.Nodup ∧
      ∀ value, value ∈ (compactLiveValues bin values).2 ↔
        ∃ id < bin.length, (binAt bin id).value ≠ 0 ∧
          values[(binAt bin id).value - 1]? = some value := by
  have nodeAt {node : BinNode} : node ∈ bin ↔ ∃ id < bin.length, binAt bin id = node := by
    rw [List.mem_iff_getElem]
    constructor
    · rintro ⟨id, bound, rfl⟩
      exact ⟨id, bound, List.getD_eq_getElem _ _ bound⟩
    · rintro ⟨id, bound, rfl⟩
      exact ⟨id, bound, (List.getD_eq_getElem _ _ bound).symm⟩
  have start : Records values (List.replicate (values.length + 1) 0) [] := by
    refine ⟨List.length_replicate, fun old value _ _ => ?_⟩
    simp only [List.getD_eq_getElem?_getD, List.getElem?_replicate, List.not_mem_nil,
      not_false_eq_true, iff_true]
    split <;> rfl
  obtain ⟨nodup, members⟩ := compactNodes_live distinct bin start List.nodup_nil (by
    intro node member
    obtain ⟨id, _, rfl⟩ := nodeAt.mp member
    exact inTable id)
  refine ⟨nodup, fun value => ?_⟩
  rw [compactLiveValues, members]
  simp only [List.not_mem_nil, false_or, nodeAt]
  constructor
  · rintro ⟨_, ⟨id, bound, rfl⟩, holds⟩
    exact ⟨id, bound, holds⟩
  · rintro ⟨id, bound, holds⟩
    exact ⟨_, ⟨id, bound, rfl⟩, holds⟩

/-- The nodes with a value are the words that the prefix map assigns one. -/
theorem exists_node_iff (represents : TrieRepresents w bin values routes)
    (reached : ∀ id, (binAt bin id).value ≠ 0 → ∃ path, nodeFrom bin (some 0) path = some id) :
    (∃ id < bin.length, (binAt bin id).value ≠ 0 ∧
      values[(binAt bin id).value - 1]? = some value) ↔
        ∃ path, latest routes path = some value := by
  constructor
  · rintro ⟨id, _, nonzero, isValue⟩
    obtain ⟨path, found⟩ := reached id nonzero
    have decoded := represents.decoded path
    rw [stored, found, Option.bind_some, if_neg nonzero, Option.map_some, isValue] at decoded
    obtain ⟨assigned, isAssigned, same⟩ := Option.map_eq_some_iff.mp decoded.symm
    cases same
    exact ⟨path, isAssigned⟩
  · rintro ⟨path, assigned⟩
    have decoded := represents.decoded path
    rw [assigned, Option.map_some] at decoded
    obtain ⟨index, isStored, isValue⟩ := Option.map_eq_some_iff.mp decoded
    obtain ⟨id, found, isIndex⟩ := Option.bind_eq_some_iff.mp isStored
    obtain ⟨nonzero, ⟨⟩⟩ := Option.ite_none_left_eq_some.mp isIndex
    exact ⟨id, represents.shape.inRange path id found, nonzero, isValue⟩

/-! ## Built tables -/

variable {directBits : Nat}

/-- With an accepted direct width below 64 bits, any sequence of insertions leads to one of
the two size assertions or to a table that stores each value of the final map from masked
prefix and length to the last inserted value once, and no other value. -/
theorem stores_live_values [DecidableEq V] (accepted : DirectBitsAccepted w directBits)
    (small : directBits < 64) (insertions : List (Insertion w V))
    (valid : ∀ insertion ∈ insertions, insertion.prefixLen ≤ w) :
    (∀ error, (buildTable directBits insertions : Except BuildError (Poptrie w directBits V)) =
      .error error → error.IsSizeLimit) ∧
    ∀ table : Poptrie w directBits V, buildTable directBits insertions = .ok table →
      table.valueCount = (finalValues insertions).toFinset.card ∧ table.values.Nodup ∧
        ∀ value, value ∈ table.values ↔ value ∈ finalValues insertions := by
  refine ⟨fun error => buildTable_error valid accepted small, ?_⟩
  intro table built
  obtain ⟨builder, inserted, represents⟩ := PoptrieBuilder.insertAll_spec insertions valid
  have interned := PoptrieBuilder.interned_insertAll insertions valid inserted
  rw [buildTable, inserted] at built
  obtain ⟨nodup, members⟩ := compactLiveValues_live interned.nodup represents.inTable
  rw [← (PoptrieBuilder.of_build built).2.1] at nodup members
  have stored (value : V) : value ∈ table.values ↔ value ∈ finalValues insertions := by
    rw [members, exists_node_iff represents.toTrieRepresents interned.reached,
      exists_latest_iff valid]
  refine ⟨?_, nodup, stored⟩
  rw [valueCount, ← List.toFinset_card_of_nodup nodup]
  congr 1
  ext value
  rw [List.mem_toFinset, List.mem_toFinset, stored]

/-- The value that both later insertions replace is not stored. -/
theorem stores_live_values_sample :
    buildTable 2 sampleInsertions = .ok sampleTable ∧
      sampleTable.valueCount = (finalValues sampleInsertions).toFinset.card := by
  have built : buildTable 2 sampleInsertions = .ok sampleTable := by decide +kernel
  have stores := @stores_live_values Nat 32 2 _ ⟨by decide, by decide, by decide⟩ (by decide)
    sampleInsertions (by decide)
  exact ⟨built, (stores.2 sampleTable built).1⟩

end FastSocket.Poptrie
