import FastSocket.Poptrie.Lookup

/-!
# The size of the direct array

The array is made with a shift that takes its amount modulo the width of a machine word,
and the emitter never changes its length.
-/

namespace FastSocket.Poptrie

universe u

variable {V : Type u} {w : Nat}

theorem usizeShl_one (shift : Nat) : usizeShl 1 shift = 2 ^ (shift % 64) := by
  rw [usizeShl, Nat.one_shiftLeft]
  exact Nat.mod_eq_of_lt (Nat.pow_lt_pow_right (by decide) (Nat.mod_lt _ (by decide)))

variable {α : Type*} {slice : List α} {item : α}

theorem length_fillSlice {filled : List α} {start len : Nat}
    (fills : fillSlice slice start len item = some filled) : filled.length = slice.length := by
  obtain ⟨inside, ⟨⟩⟩ := Option.ite_none_right_eq_some.mp fills
  simp only [List.length_append, List.length_take, List.length_replicate, List.length_drop]
  omega

theorem length_storeAt {stored : List α} {index : Nat}
    (stores : storeAt slice index item = some stored) : stored.length = slice.length := by
  obtain ⟨_, ⟨⟩⟩ := Option.ite_none_right_eq_some.mp stores
  exact List.length_set

theorem length_fillDirect {bin : List BinNode} {strides shift : Nat} {node : Option Nat}
    {inherited pattern : Nat} {state filled : Emitter × List Nat}
    (fills : fillDirect bin strides shift node inherited pattern state = some filled) :
    filled.2.length = state.2.length := by
  induction shift generalizing node inherited pattern state filled with
  | zero =>
    rw [fillDirect] at fills
    split at fills
    · obtain ⟨direct, isDirect, rfl⟩ := Option.map_eq_some_iff.mp fills
      exact length_fillSlice isDirect
    · simp only [Option.bind_eq_bind, Option.bind_eq_some_iff] at fills
      obtain ⟨_, _, _, _, direct, stores, ⟨⟩⟩ := fills
      exact length_storeAt stores
  | succ shift ih =>
    rw [fillDirect] at fills
    split at fills
    · obtain ⟨direct, isDirect, rfl⟩ := Option.map_eq_some_iff.mp fills
      exact length_fillSlice isDirect
    · obtain ⟨middle, first, second⟩ := Option.bind_eq_some_iff.mp fills
      exact (ih second).trans (ih first)

variable {directBits : Nat} {table : Poptrie w directBits V}

/-- The direct array of a built table has an entry for every direct index exactly when the
direct width is below that of a machine word. -/
theorem direct_size_iff [DecidableEq V] {insertions : List (Insertion w V)}
    (built : buildTable directBits insertions = .ok table) :
    (table.direct.length = 2 ^ directBits ∧
      ∀ key : BitVec w, IpKey.direct key directBits < table.direct.length) ↔ directBits < 64 := by
  obtain ⟨builder, _, built⟩ : ∃ builder, PoptrieBuilder.insertAll insertions = .ok builder ∧
      builder.build directBits = .ok table := by
    cases inserted : PoptrieBuilder.insertAll insertions with
    | error error =>
      rw [buildTable, inserted] at built
      cases built
    | ok builder =>
      rw [buildTable, inserted] at built
      exact ⟨builder, rfl, built⟩
  obtain ⟨accepted, _, _, _, filled⟩ := PoptrieBuilder.of_build built
  have length : table.direct.length = 2 ^ (directBits % 64) := by
    rw [← usizeShl_one, ← @List.length_replicate _ (usizeShl 1 directBits) 0]
    exact length_fillDirect filled
  rw [length]
  constructor
  · rintro ⟨same, _⟩
    have := Nat.pow_right_injective (le_refl 2) same
    omega
  · intro small
    rw [Nat.mod_eq_of_lt small]
    exact ⟨rfl, fun key => IpKey.direct_lt key accepted.lt.le small⟩

theorem direct_size_two :
    ∃ table : Poptrie 32 2 Nat, buildTable 2 [⟨0#32, 1, 7⟩] = .ok table ∧
      ∀ key : BitVec 32, IpKey.direct key 2 < table.direct.length := by
  have builds : (buildTable 2 [⟨0#32, 1, 7⟩] :
      Except BuildError (Poptrie 32 2 Nat)).toOption.isSome := by decide +kernel
  cases built : (buildTable 2 [⟨0#32, 1, 7⟩] : Except BuildError (Poptrie 32 2 Nat)) with
  | error error =>
    rw [built] at builds
    cases builds
  | ok table => exact ⟨table, rfl, ((direct_size_iff built).mpr (by decide)).2⟩

/-- A width of 68 bits is accepted for addresses of 128 bits; the array has 16 entries, and
an unchecked read of `lookup` is past them. -/
theorem direct_size_wide :
    ∃ table : Poptrie 128 68 Nat, buildTable 68 [] = .ok table ∧ table.direct.length = 16 ∧
      ¬ IpKey.direct (BitVec.allOnes 128) 68 < table.direct.length := by
  refine ⟨⟨List.replicate 16 leafFlag, [], [], []⟩, ?_, rfl, ?_⟩
  · decide +kernel
  · decide +kernel

end FastSocket.Poptrie
