import Mathlib.Data.List.Basic
import Mathlib.Data.List.Infix

/-!
# Longest-prefix matching

A prefix map assigns values to some words.  Matching a key selects the value of
the longest assigned word that is a prefix of the key.  A list of entries gives
a prefix map in which a later entry for a word replaces an earlier one.

The alphabet and the values are arbitrary; a trie over address bits is one
instance.
-/

namespace FastSocket.Lpm

universe u v w

variable {σ : Type u} {α : Type v} {β : Type w}

/-- A partial assignment of values to words. -/
abbrev PrefixMap (σ : Type u) (α : Type v) :=
  List σ → Option α

/-- The part of a prefix map below one letter. -/
def PrefixMap.below (map : PrefixMap σ α) (letter : σ) : PrefixMap σ α :=
  fun word => map (letter :: word)

/-- The value of the longest assigned prefix of a key. -/
def longestMatch : PrefixMap σ α → List σ → Option α
  | map, [] => map []
  | map, letter :: rest => (longestMatch (map.below letter) rest).or (map [])

/-- No value is found exactly when no prefix of the key is assigned. -/
theorem longestMatch_eq_none_iff (map : PrefixMap σ α) (key : List σ) :
    longestMatch map key = none ↔ ∀ word, word <+: key → map word = none := by
  induction key generalizing map with
  | nil => simp [longestMatch]
  | cons letter rest ih =>
    rw [longestMatch, Option.or_eq_none_iff, ih]
    constructor
    · rintro ⟨below, root⟩ word isPrefix
      rcases List.prefix_cons_iff.mp isPrefix with rfl | ⟨tail, rfl, tailPrefix⟩
      · exact root
      · exact below tail tailPrefix
    · intro unassigned
      exact ⟨fun tail tailPrefix =>
        unassigned (letter :: tail) (List.prefix_cons_iff.mpr (.inr ⟨tail, rfl, tailPrefix⟩)),
        unassigned [] List.nil_prefix⟩

/-- A found value is assigned to a prefix of the key, and no assigned prefix of
the key is longer. -/
theorem longestMatch_eq_some_iff (map : PrefixMap σ α) (key : List σ) (value : α) :
    longestMatch map key = some value ↔
      ∃ word, word <+: key ∧ map word = some value ∧
        ∀ other, other <+: key → (map other).isSome → other.length ≤ word.length := by
  induction key generalizing map with
  | nil =>
    simp only [longestMatch, List.prefix_nil]
    constructor
    · intro assigned
      exact ⟨[], rfl, assigned, fun other isNil _ => by rw [isNil]⟩
    · rintro ⟨word, rfl, assigned, _⟩
      exact assigned
  | cons letter rest ih =>
    rw [longestMatch, Option.or_eq_some_iff]
    constructor
    · rintro (found | ⟨notFound, root⟩)
      · rcases (ih _).mp found with ⟨word, isPrefix, assigned, longest⟩
        refine ⟨letter :: word, List.prefix_cons_iff.mpr (.inr ⟨word, rfl, isPrefix⟩),
          assigned, ?_⟩
        intro other otherPrefix otherAssigned
        rcases List.prefix_cons_iff.mp otherPrefix with rfl | ⟨tail, rfl, tailPrefix⟩
        · exact Nat.zero_le _
        · exact Nat.succ_le_succ (longest tail tailPrefix otherAssigned)
      · refine ⟨[], List.nil_prefix, root, ?_⟩
        intro other otherPrefix otherAssigned
        rcases List.prefix_cons_iff.mp otherPrefix with rfl | ⟨tail, rfl, tailPrefix⟩
        · exact Nat.le_refl _
        · have unassigned := (longestMatch_eq_none_iff _ _).mp notFound tail tailPrefix
          simp [show map (letter :: tail) = none from unassigned] at otherAssigned
    · rintro ⟨word, isPrefix, assigned, longest⟩
      rcases List.prefix_cons_iff.mp isPrefix with rfl | ⟨tail, rfl, tailPrefix⟩
      · refine .inr ⟨(longestMatch_eq_none_iff _ _).mpr ?_, assigned⟩
        intro other otherPrefix
        by_contra otherAssigned
        have shorter := longest (letter :: other)
          (List.prefix_cons_iff.mpr (.inr ⟨other, rfl, otherPrefix⟩))
          (Option.isSome_iff_ne_none.mpr otherAssigned)
        simp at shorter
      · refine .inl ((ih _).mpr ⟨tail, tailPrefix, assigned, ?_⟩)
        intro other otherPrefix otherAssigned
        exact Nat.le_of_succ_le_succ (longest (letter :: other)
          (List.prefix_cons_iff.mpr (.inr ⟨other, rfl, otherPrefix⟩)) otherAssigned)

/-- Matching commutes with renaming the values. -/
theorem longestMatch_map (map : PrefixMap σ α) (rename : α → β) (key : List σ) :
    longestMatch (fun word => (map word).map rename) key = (longestMatch map key).map rename := by
  induction key generalizing map with
  | nil => rfl
  | cons letter rest ih =>
    rw [longestMatch, longestMatch, Option.map_or, ← ih]
    rfl

/-! ## Prefix maps from lists of entries -/

section Entries

variable [DecidableEq σ]

/-- The value of the last entry for a word. -/
def latest (entries : List (List σ × α)) : PrefixMap σ α :=
  fun word => (entries.reverse.find? fun entry => entry.1 = word).map Prod.snd

/-- Appending an entry updates the map at its word only. -/
theorem latest_append_singleton (entries : List (List σ × α)) (entry : List σ × α)
    (word : List σ) :
    latest (entries ++ [entry]) word =
      if word = entry.1 then some entry.2 else latest entries word := by
  rw [latest, List.reverse_append, List.reverse_singleton, List.singleton_append,
    List.find?_cons]
  by_cases same : word = entry.1
  · simp [same]
  · rw [if_neg same]
    have differs : decide (entry.1 = word) = false := by simpa using fun h => same h.symm
    rw [differs]
    rfl

/-- The map value of a word is the value of an entry that no later entry replaces. -/
theorem latest_eq_some_iff (entries : List (List σ × α)) (word : List σ) (value : α) :
    latest entries word = some value ↔
      ∃ before after, entries = before ++ (word, value) :: after ∧
        ∀ entry ∈ after, entry.1 ≠ word := by
  rw [latest, Option.map_eq_some_iff]
  constructor
  · rintro ⟨⟨found, foundValue⟩, located, rfl⟩
    rw [List.find?_eq_some_iff_append] at located
    rcases located with ⟨isWord, later, earlier, reversed, skipped⟩
    have foundEq : found = word := by simpa using isWord
    subst foundEq
    refine ⟨earlier.reverse, later.reverse, ?_, ?_⟩
    · have forward := congrArg List.reverse reversed
      simpa using forward
    · intro entry member
      simpa using skipped entry (List.mem_reverse.mp member)
  · rintro ⟨before, after, rfl, unreplaced⟩
    refine ⟨(word, value), ?_, rfl⟩
    rw [List.find?_eq_some_iff_append]
    refine ⟨by simp, after.reverse, before.reverse, by simp, ?_⟩
    intro entry member
    simpa using unreplaced entry (List.mem_reverse.mp member)

theorem latest_isSome_iff (entries : List (List σ × α)) (word : List σ) :
    (latest entries word).isSome ↔ ∃ entry ∈ entries, entry.1 = word := by
  rw [latest, Option.isSome_map, List.find?_isSome]
  simp

end Entries

end FastSocket.Lpm
