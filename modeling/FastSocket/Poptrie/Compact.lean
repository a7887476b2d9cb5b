import FastSocket.Poptrie.Insert
import Mathlib.Data.List.Forall2

/-!
# Correctness of value compaction

`compactLiveValues` renumbers the value indices of the trie nodes and drops the
values that no node refers to.  The trie keeps its shape, and every stored index
decodes to the same value as before.
-/

namespace FastSocket.Poptrie

open Bits Lpm

universe u

variable {V : Type u} {w : Nat}

/-- The renumbering table refers into the values kept so far. -/
def RemapInto (values : List V) (remap : List Nat) (live : List V) : Prop :=
  ∀ old, old ≠ 0 → remap.getD old 0 ≠ 0 →
    remap.getD old 0 ≤ live.length ∧ live[remap.getD old 0 - 1]? = values[old - 1]?

/-- A trie node after renumbering: the same children, and a value index that
decodes to the same value. -/
structure Renumbered (values live : List V) (before after : BinNode) : Prop where
  zero : after.zero = before.zero
  one : after.one = before.one
  unset : before.value = 0 → after.value = 0
  nonzero : before.value ≠ 0 → after.value ≠ 0
  inTable : after.value ≤ live.length
  decoded : before.value ≠ 0 → live[after.value - 1]? = values[before.value - 1]?

private theorem getElem?_of_isPrefix {first second : List V} (isPrefix : first <+: second)
    {i : Nat} (bound : i < first.length) : second[i]? = first[i]? := by
  obtain ⟨rest, rfl⟩ := isPrefix
  exact List.getElem?_append_left bound

variable {values live : List V} {routes : List (List Bool × V)}

theorem Renumbered.mono {more : List V} {before after : BinNode}
    (renumbered : Renumbered values live before after) (isPrefix : live <+: more) :
    Renumbered values more before after where
  zero := renumbered.zero
  one := renumbered.one
  unset := renumbered.unset
  nonzero := renumbered.nonzero
  inTable := Nat.le_trans renumbered.inTable isPrefix.length_le
  decoded nonzero := by
    rw [← renumbered.decoded nonzero]
    apply getElem?_of_isPrefix isPrefix
    have positive := renumbered.nonzero nonzero
    have bound := renumbered.inTable
    omega

/-- Recording a new value index extends the table. -/
theorem RemapInto.push {remap : List Nat} {old : Nat} {value : V}
    (into : RemapInto values remap live) (found : values[old - 1]? = some value) :
    RemapInto values (remap.set old (live.length + 1)) (live ++ [value]) := by
  intro other otherNonzero recorded
  by_cases same : old = other
  · subst same
    by_cases inside : old < remap.length
    · have entry : (remap.set old (live.length + 1)).getD old 0 = live.length + 1 := by
        simp [List.getD_eq_getElem?_getD, inside]
      rw [entry]
      simp [found]
    · rw [List.set_eq_of_length_le (Nat.le_of_not_lt inside)] at recorded
      rw [List.getD_eq_getElem?_getD, List.getElem?_eq_none (Nat.le_of_not_lt inside)] at recorded
      exact absurd rfl recorded
  · have entry : (remap.set old (live.length + 1)).getD other 0 = remap.getD other 0 := by
      simp [List.getD_eq_getElem?_getD, List.getElem?_set_ne same]
    rw [entry] at recorded ⊢
    rcases into other otherNonzero recorded with ⟨bound, decoded⟩
    refine ⟨by simp only [List.length_append, List.length_singleton]; omega, ?_⟩
    rw [List.getElem?_append_left (by omega), decoded]

/-- The compaction loop renumbers every node into the final table. -/
theorem compactNodes_spec (values : List V) (nodes : List BinNode) (remap : List Nat)
    (live : List V) (into : RemapInto values remap live)
    (inTable : ∀ node ∈ nodes, node.value ≤ values.length) :
    List.Forall₂ (Renumbered values (compactNodes values nodes remap live).2) nodes
        (compactNodes values nodes remap live).1 ∧
      live <+: (compactNodes values nodes remap live).2 := by
  induction nodes generalizing remap live with
  | nil => exact ⟨.nil, List.prefix_refl live⟩
  | cons node rest ih =>
    have restInTable : ∀ node ∈ rest, node.value ≤ values.length :=
      fun other member => inTable other (List.mem_cons_of_mem node member)
    have bound := inTable node List.mem_cons_self
    rw [compactNodes]
    by_cases unset : node.value = 0
    · rw [if_pos unset]
      rcases ih remap live into restInTable with ⟨renumbered, isPrefix⟩
      refine ⟨.cons ⟨rfl, rfl, fun _ => unset, fun nonzero => nonzero, ?_, ?_⟩ renumbered,
        isPrefix⟩
      · exact unset ▸ Nat.zero_le _
      · exact fun nonzero => absurd unset nonzero
    · rw [if_neg unset]
      by_cases fresh : remap.getD node.value 0 = 0
      · rw [if_pos fresh]
        have inside : node.value - 1 < values.length := by omega
        obtain ⟨value, found⟩ : ∃ value, values[node.value - 1]? = some value :=
          ⟨_, List.getElem?_eq_getElem inside⟩
        simp only [found, Option.toList_some]
        rcases ih _ _ (into.push found) restInTable with ⟨renumbered, isPrefix⟩
        refine ⟨.cons (Renumbered.mono ⟨rfl, rfl, fun zero => absurd zero unset,
          fun _ => Nat.succ_ne_zero _, by simp, fun _ => by simp [found]⟩ isPrefix) renumbered,
          (List.prefix_append live [value]).trans isPrefix⟩
      · rw [if_neg fresh]
        rcases ih remap live into restInTable with ⟨renumbered, isPrefix⟩
        rcases into node.value unset fresh with ⟨recorded, decoded⟩
        exact ⟨.cons (Renumbered.mono ⟨rfl, rfl, fun zero => absurd zero unset, fun _ => fresh,
          recorded, fun _ => decoded⟩ isPrefix) renumbered, isPrefix⟩

section Renumbered

variable {bin after : List BinNode} (renumbered : List.Forall₂ (Renumbered values live) bin after)

include renumbered

theorem renumbered_binAt (id : Nat) : Renumbered values live (binAt bin id) (binAt after id) := by
  induction renumbered generalizing id with
  | nil => exact ⟨rfl, rfl, fun _ => rfl, fun nonzero => nonzero, Nat.zero_le _,
      fun nonzero => absurd rfl nonzero⟩
  | cons head _ ih =>
    cases id with
    | zero => exact head
    | succ id => exact ih id

theorem nodeFrom_renumbered : nodeFrom after = nodeFrom bin := by
  have childEq : childOf after = childOf bin := by
    funext node branch
    cases node with
    | none => rfl
    | some id =>
      have node := renumbered_binAt renumbered id
      cases branch
      · exact node.zero
      · exact node.one
  funext node path
  rw [nodeFrom, nodeFrom, childEq]

/-- Renumbering keeps the represented prefix map. -/
theorem TrieRepresents.renumber (represents : TrieRepresents w bin values routes) :
    TrieRepresents w after live routes := by
  have paths := nodeFrom_renumbered renumbered
  refine ⟨⟨?_, ?_, ?_⟩, ?_, ?_⟩
  · simpa only [paths, renumbered.length_eq] using represents.shape.inRange
  · simpa only [paths] using represents.shape.unique
  · simpa only [paths] using represents.shape.depth
  · exact fun id => (renumbered_binAt renumbered id).inTable
  · intro path
    rw [← represents.decoded path, stored, stored, paths]
    cases nodeFrom bin (some 0) path with
    | none => rfl
    | some id =>
      have node := renumbered_binAt renumbered id
      by_cases unset : (binAt bin id).value = 0
      · simp [unset, node.unset unset]
      · simp [unset, node.nonzero unset, node.decoded unset]

end Renumbered

/-- Compaction keeps the represented prefix map. -/
theorem TrieRepresents.compactLiveValues {bin : List BinNode}
    (represents : TrieRepresents w bin values routes) :
    TrieRepresents w (compactLiveValues bin values).1 (compactLiveValues bin values).2 routes := by
  refine TrieRepresents.renumber (compactNodes_spec values bin _ [] ?_ ?_).1 represents
  · intro old _ recorded
    exact absurd (by simp [List.getD_eq_getElem?_getD, List.getElem?_replicate]; split <;> rfl)
      recorded
  · intro node member
    obtain ⟨id, bound, rfl⟩ := List.mem_iff_getElem.mp member
    simpa [binAt, List.getD_eq_getElem?_getD, List.getElem?_eq_getElem bound] using
      represents.inTable id

end FastSocket.Poptrie
