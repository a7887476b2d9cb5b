import FastSocket.Poptrie.Resolve

/-!
# The slot scan of one node

The scan over the 64 resolved slots builds the two bitmaps of a node, collects
its children and appends its leaf runs.  Children are found again by the rank of
their slot in `vector`, leaves by the rank of the slot after theirs in `leafvec`.
-/

namespace FastSocket.Poptrie

open Bits

namespace Slot

def isInternal : Slot → Bool
  | .internal _ _ => true
  | .leaf _ => false

/-- The child that an internal slot asks for. -/
def asChild : Slot → Option (Nat × Nat)
  | .internal node inherited => some (node, inherited)
  | .leaf _ => none

def asLeaf : Slot → Option Nat
  | .internal _ _ => none
  | .leaf value => some value

end Slot

/-- The scan state after the slots `done`, starting from the leaf array `base`. -/
structure Scanned (done : List Slot) (base : List Nat) (scan : Scan) : Prop where
  vector : ∀ j, scan.vector.getLsbD j = (done[j]?).any Slot.isInternal
  leafvec : ∀ j, scan.leafvec.getLsbD j = true → ∃ value, done[j]? = some (.leaf value)
  children : scan.children = done.filterMap Slot.asChild
  childCount : scan.children.length = rank scan.vector done.length
  childRank : ∀ j node inherited, done[j]? = some (.internal node inherited) →
    scan.children[rank scan.vector j]? = some (node, inherited)
  runs : ∃ runs, scan.leaves = base ++ runs ∧ runs.length = rank scan.leafvec done.length ∧
    ∀ value ∈ runs, .leaf value ∈ done
  leafRank : ∀ j value, done[j]? = some (.leaf value) → 1 ≤ rank scan.leafvec (j + 1) ∧
    scan.leaves[base.length + rank scan.leafvec (j + 1) - 1]? = some value
  covered : ∀ j value, done[j]? = some (.leaf value) → scan.leafvec.getLsbD j = false →
    0 < j ∧ ∃ previous, done[j - 1]? = some (.leaf previous)
  currentRun : scan.currentRun = done.getLast?.bind Slot.asLeaf

theorem scanned_nil (base : List Nat) : Scanned [] base (Scan.start base) where
  vector j := by simp [Scan.start]
  leafvec j member := by simp [Scan.start] at member
  children := rfl
  childCount := rfl
  childRank j node inherited found := by cases found
  runs := ⟨[], (List.append_nil base).symm, rfl, fun _ member => nomatch member⟩
  leafRank j value found := by cases found
  covered j value found := by cases found
  currentRun := rfl

private theorem getElem?_concat (done : List Slot) (slot : Slot) (j : Nat) :
    (done ++ [slot])[j]? = if j = done.length then some slot else done[j]? := by
  by_cases last : j = done.length
  · simp [last]
  · rw [if_neg last]
    rcases Nat.lt_or_gt_of_ne last with less | greater
    · exact List.getElem?_append_left less
    · rw [List.getElem?_eq_none (by simpa using Nat.succ_le_of_lt greater),
        List.getElem?_eq_none (Nat.le_of_lt greater)]

variable {done : List Slot}

private theorem lt_length_of_getElem? {slot : Slot} {j : Nat} (found : done[j]? = some slot) :
    j < done.length :=
  (List.getElem?_eq_some_iff.mp found).1

section Step

variable {base : List Nat} {scan : Scan}

private theorem rank_push (word : BitVec 64) {i : Nat} (bound : i < 64) :
    rank (word ||| singleBit 64 i) (i + 1) = rank word i + 1 := by
  rw [rank_succ, rank_or_singleBit word bound (Nat.le_refl i), getLsbD_or_singleBit word bound]
  simp

theorem Scanned.leafvec_clear (scanned : Scanned done base scan) :
    scan.leafvec.getLsbD done.length = false := by
  by_contra set
  rcases scanned.leafvec done.length (by simpa using set) with ⟨_, found⟩
  simp at found

/-- An internal slot is marked in `vector` and ends the current run. -/
theorem Scanned.internal (scanned : Scanned done base scan) (bound : done.length < 64)
    (node inherited : Nat) :
    Scanned (done ++ [.internal node inherited]) base
      (scanSlot scan done.length (.internal node inherited)) := by
  have leafClear := scanned.leafvec_clear
  refine ⟨?_, ?_, ?_, ?_, ?_, ?_, ?_, ?_, ?_⟩
  · intro j
    simp only [scanSlot, getLsbD_or_singleBit scan.vector bound, getElem?_concat, scanned.vector]
    by_cases last : j = done.length <;> simp [last, Slot.isInternal]
  · intro j member
    rcases scanned.leafvec j member with ⟨value, found⟩
    have less := lt_length_of_getElem? found
    exact ⟨value, by rw [getElem?_concat, if_neg (Nat.ne_of_lt less), found]⟩
  · simp [scanSlot, scanned.children, Slot.asChild]
  · simp only [scanSlot, List.length_append, List.length_singleton, scanned.childCount,
      rank_push scan.vector bound]
  · intro j child childInherited found
    rw [getElem?_concat] at found
    split at found
    · rename_i last
      cases found
      simp [scanSlot, last, rank_or_singleBit scan.vector bound (Nat.le_refl _),
        scanned.childCount]
    · have less := lt_length_of_getElem? found
      simp only [scanSlot, rank_or_singleBit scan.vector bound (Nat.le_of_lt less)]
      have earlier := scanned.childRank j child childInherited found
      rw [List.getElem?_append_left (List.getElem?_eq_some_iff.mp earlier).1, earlier]
  · rcases scanned.runs with ⟨runs, leaves, count, members⟩
    refine ⟨runs, leaves, ?_, fun value member => List.mem_append_left _ (members value member)⟩
    simp only [scanSlot, List.length_append, List.length_singleton, rank_succ, leafClear, count]
    rfl
  · intro j value found
    rw [getElem?_concat] at found
    split at found
    · cases found
    · exact scanned.leafRank j value found
  · intro j value found start
    rw [getElem?_concat] at found
    split at found
    · cases found
    · rcases scanned.covered j value found start with ⟨positive, previous, located⟩
      have less := lt_length_of_getElem? located
      exact ⟨positive, previous, by rw [getElem?_concat, if_neg (Nat.ne_of_lt less), located]⟩
  · simp [scanSlot, Slot.asLeaf]

/-- A leaf that continues the current run leaves the scan as it is. -/
theorem Scanned.continueRun (scanned : Scanned done base scan) {value : Nat}
    (same : scan.currentRun = some value) : Scanned (done ++ [.leaf value]) base scan := by
  have last : done.getLast? = some (.leaf value) := by
    have run := scanned.currentRun
    rw [same] at run
    cases final : done.getLast? with
    | none => simp [final] at run
    | some slot =>
      cases slot with
      | internal node inherited => simp [final, Slot.asLeaf] at run
      | leaf other => simpa [final, Slot.asLeaf, eq_comm] using run
  have nonempty : 0 < done.length := by
    cases done with
    | nil => cases last
    | cons _ _ => exact Nat.succ_pos _
  have lastFound : done[done.length - 1]? = some (.leaf value) := by
    rw [← List.getLast?_eq_getElem?, last]
  have leafClear := scanned.leafvec_clear
  have clear : scan.vector.getLsbD done.length = false := by simp [scanned.vector]
  have sameRank : rank scan.leafvec (done.length + 1) = rank scan.leafvec done.length := by
    rw [rank_succ, leafClear]
    rfl
  refine ⟨?_, ?_, ?_, ?_, ?_, ?_, ?_, ?_, ?_⟩
  · intro j
    rw [getElem?_concat, scanned.vector]
    by_cases here : j = done.length <;> simp [here, Slot.isInternal]
  · intro j member
    rcases scanned.leafvec j member with ⟨other, found⟩
    have less := lt_length_of_getElem? found
    exact ⟨other, by rw [getElem?_concat, if_neg (Nat.ne_of_lt less), found]⟩
  · simp [scanned.children, Slot.asChild]
  · rw [List.length_append, List.length_singleton, rank_succ, clear, scanned.childCount]
    rfl
  · intro j child inherited found
    rw [getElem?_concat] at found
    split at found
    · cases found
    · exact scanned.childRank j child inherited found
  · rcases scanned.runs with ⟨runs, leaves, count, members⟩
    refine ⟨runs, leaves, ?_, fun other member => List.mem_append_left _ (members other member)⟩
    rw [List.length_append, List.length_singleton, sameRank, count]
  · intro j other found
    rw [getElem?_concat] at found
    split at found
    · rename_i here
      cases found
      rw [here, sameRank]
      simpa [Nat.sub_add_cancel nonempty] using scanned.leafRank (done.length - 1) value lastFound
    · exact scanned.leafRank j other found
  · intro j other found start
    rw [getElem?_concat] at found
    have inside : done.length - 1 ≠ done.length := by omega
    split at found
    · rename_i here
      rw [here]
      exact ⟨nonempty, value, by rw [getElem?_concat, if_neg inside, lastFound]⟩
    · rcases scanned.covered j other found start with ⟨positive, previous, located⟩
      have less := lt_length_of_getElem? located
      exact ⟨positive, previous, by rw [getElem?_concat, if_neg (Nat.ne_of_lt less), located]⟩
  · simp [same, Slot.asLeaf]

/-- A leaf that starts a run is stored and marked. -/
theorem Scanned.startRun (scanned : Scanned done base scan) (bound : done.length < 64)
    (value : Nat) :
    Scanned (done ++ [.leaf value]) base
      { scan with
        leafvec := scan.leafvec ||| singleBit 64 done.length
        leaves := scan.leaves ++ [value]
        currentRun := some value } := by
  have clear : scan.vector.getLsbD done.length = false := by simp [scanned.vector]
  have pushed := rank_push scan.leafvec bound
  rcases scanned.runs with ⟨runs, leaves, count, members⟩
  have leavesLength : scan.leaves.length = base.length + rank scan.leafvec done.length := by
    rw [leaves, List.length_append, count]
  refine ⟨?_, ?_, ?_, ?_, ?_, ?_, ?_, ?_, ?_⟩
  · intro j
    rw [getElem?_concat, scanned.vector]
    by_cases here : j = done.length <;> simp [here, Slot.isInternal]
  · intro j member
    rw [getLsbD_or_singleBit scan.leafvec bound, Bool.or_eq_true, decide_eq_true_eq] at member
    rcases member with old | here
    · rcases scanned.leafvec j old with ⟨other, found⟩
      have less := lt_length_of_getElem? found
      exact ⟨other, by rw [getElem?_concat, if_neg (Nat.ne_of_lt less), found]⟩
    · exact ⟨value, by rw [getElem?_concat, if_pos here]⟩
  · simp [scanned.children, Slot.asChild]
  · rw [List.length_append, List.length_singleton, rank_succ, clear, scanned.childCount]
    rfl
  · intro j child inherited found
    rw [getElem?_concat] at found
    split at found
    · cases found
    · exact scanned.childRank j child inherited found
  · refine ⟨runs ++ [value], by rw [leaves, List.append_assoc], ?_, ?_⟩
    · rw [List.length_append, List.length_append, List.length_singleton, List.length_singleton,
        pushed, count]
    · intro other member
      rcases List.mem_append.mp member with old | new
      · exact List.mem_append_left _ (members other old)
      · rw [List.mem_singleton.mp new]
        exact List.mem_append_right _ (List.mem_singleton_self _)
  · intro j other found
    rw [getElem?_concat] at found
    split at found
    · rename_i here
      cases found
      rw [here, pushed]
      refine ⟨by omega, ?_⟩
      rw [Nat.add_sub_assoc (by omega), Nat.add_sub_cancel, ← leavesLength]
      simp
    · have less := lt_length_of_getElem? found
      rcases scanned.leafRank j other found with ⟨positive, located⟩
      rw [rank_or_singleBit scan.leafvec bound less]
      refine ⟨positive, ?_⟩
      rw [List.getElem?_append_left (List.getElem?_eq_some_iff.mp located).1, located]
  · intro j other found start
    rw [getLsbD_or_singleBit scan.leafvec bound, Bool.or_eq_false_iff] at start
    rw [getElem?_concat] at found
    split at found
    · rename_i here
      simp [here] at start
    · rcases scanned.covered j other found start.1 with ⟨positive, previous, located⟩
      have less := lt_length_of_getElem? located
      exact ⟨positive, previous, by rw [getElem?_concat, if_neg (Nat.ne_of_lt less), located]⟩
  · simp [Slot.asLeaf]

theorem Scanned.step (scanned : Scanned done base scan) (bound : done.length < 64)
    (slot : Slot) : Scanned (done ++ [slot]) base (scanSlot scan done.length slot) := by
  cases slot with
  | internal node inherited => exact scanned.internal bound node inherited
  | leaf value =>
    rw [scanSlot]
    split
    · exact scanned.startRun bound value
    · rename_i same
      exact scanned.continueRun (not_not.mp same)

end Step

/-- The scan over all slots of a node. -/
theorem scanSlots_spec {base : List Nat} (slots : List Slot) {scan : Scan}
    (scanned : Scanned done base scan) (bound : done.length + slots.length ≤ 64) :
    Scanned (done ++ slots) base (scanSlots done.length slots scan) := by
  induction slots generalizing done scan with
  | nil => simpa [scanSlots] using scanned
  | cons slot rest ih =>
    rw [List.length_cons] at bound
    have next := ih (scanned.step (by omega) slot)
      (by rw [List.length_append, List.length_singleton]; omega)
    rwa [List.length_append, List.length_singleton, List.append_assoc,
      List.singleton_append] at next

end FastSocket.Poptrie
