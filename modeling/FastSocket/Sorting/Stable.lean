import Mathlib.Data.List.Sort

/-!
# Stable sorting by a total preorder

A sort is stable when it keeps the order of tied elements.  A sorted list is
determined by its tied elements in order, so stable sorting may be repeated in
between without changing the result.  Among the elements with some property, the
first one of a sorted list is a least one, and the same one in every sorted list
of the same elements when there is no tie between least ones.
-/

namespace FastSocket.Sorting

universe u

variable {α : Type u} (le : α → α → Bool)

/-- The elements that are tied with an element. -/
def tied (element : α) : α → Bool :=
  fun other => le element other && le other element

/-- The least elements with a property. -/
def Least (property : α → Bool) (list : List α) (element : α) : Prop :=
  element ∈ list ∧ property element = true ∧
    ∀ other ∈ list, property other = true → le element other = true

variable {le} (trans : ∀ a b c, le a b = true → le b c = true → le a c = true)
  (total : ∀ a b, (le a b || le b a) = true) {first second list : List α} {element : α}

section Ties

include total

theorem tied_self (element : α) : tied le element element = true := by
  have self := total element element
  rw [Bool.or_self] at self
  rw [tied, self]
  rfl

include trans in
/-- Sorting keeps the order of tied elements. -/
theorem filter_tied_mergeSort (list : List α) (element : α) :
    (list.mergeSort le).filter (tied le element) = list.filter (tied le element) := by
  have ordered : (list.filter (tied le element)).Pairwise fun a b => le a b = true := by
    apply List.pairwise_of_forall_mem_list
    intro first isFirst second isSecond
    have before := (Bool.and_eq_true_iff.mp (List.mem_filter.mp isFirst).2).2
    have after := (Bool.and_eq_true_iff.mp (List.mem_filter.mp isSecond).2).1
    exact trans _ _ _ before after
  have kept := List.sublist_mergeSort trans total ordered List.filter_sublist
  have again := kept.filter (tied le element)
  rw [List.filter_filter] at again
  simp only [Bool.and_self] at again
  apply (again.eq_of_length _).symm
  exact ((List.mergeSort_perm list le).filter _).length_eq.symm

theorem le_of_mem_filter_tied {first second : α} {firstRest secondRest : List α}
    (ordered : (second :: secondRest).Pairwise fun a b => le a b = true)
    (same : (first :: firstRest).filter (tied le first) =
      (second :: secondRest).filter (tied le first)) : le second first = true := by
  have kept : first ∈ (first :: firstRest).filter (tied le first) :=
    List.mem_filter.mpr ⟨List.mem_cons_self, tied_self total first⟩
  rw [same] at kept
  rcases List.mem_cons.mp (List.mem_filter.mp kept).1 with rfl | later
  · exact (Bool.and_eq_true_iff.mp (tied_self total first)).1
  · exact (List.pairwise_cons.mp ordered).1 first later

/-- Sorted lists with the same tied elements in the same order are equal. -/
theorem eq_of_filter_tied_eq (firstOrdered : first.Pairwise fun a b => le a b = true)
    (secondOrdered : second.Pairwise fun a b => le a b = true)
    (same : ∀ element, first.filter (tied le element) = second.filter (tied le element)) :
    first = second := by
  induction first generalizing second with
  | nil =>
    cases second with
    | nil => rfl
    | cons head tail =>
      have absent := same head
      rw [List.filter_cons_of_pos (tied_self total head)] at absent
      cases absent
  | cons head tail ih =>
    cases second with
    | nil =>
      have absent := same head
      rw [List.filter_cons_of_pos (tied_self total head)] at absent
      cases absent
    | cons other rest =>
      have before := le_of_mem_filter_tied total secondOrdered (same head)
      have after := le_of_mem_filter_tied total firstOrdered (same other).symm
      have isTied : tied le head other = true := Bool.and_eq_true_iff.mpr ⟨after, before⟩
      have heads := same head
      rw [List.filter_cons_of_pos (tied_self total head), List.filter_cons_of_pos isTied,
        List.cons.injEq] at heads
      obtain ⟨rfl, _⟩ := heads
      rw [ih (List.pairwise_cons.mp firstOrdered).2 (List.pairwise_cons.mp secondOrdered).2]
      intro element
      have tails := same element
      cases kept : tied le element head with
      | false =>
        rw [List.filter_cons_of_neg (by simp [kept]),
          List.filter_cons_of_neg (by simp [kept])] at tails
        exact tails
      | true =>
        rw [List.filter_cons_of_pos kept, List.filter_cons_of_pos kept] at tails
        exact (List.cons.inj tails).2

include trans

/-- Sorting in between does not change the result of a later sort. -/
theorem mergeSort_mergeSort_append (list added : List α) :
    (list.mergeSort le ++ added).mergeSort le = (list ++ added).mergeSort le := by
  apply eq_of_filter_tied_eq total (List.pairwise_mergeSort trans total _)
    (List.pairwise_mergeSort trans total _)
  intro element
  rw [filter_tied_mergeSort trans total, filter_tied_mergeSort trans total, List.filter_append,
    List.filter_append, filter_tied_mergeSort trans total]

theorem mergeSort_mergeSort (list : List α) :
    (list.mergeSort le).mergeSort le = list.mergeSort le :=
  List.mergeSort_of_pairwise (List.pairwise_mergeSort trans total list)

/-- The first element of a sorted list with a property is the first one of the list among
those that are tied with it. -/
theorem find?_of_find?_mergeSort {property : α → Bool}
    (found : (list.mergeSort le).find? property = some element) :
    list.find? (fun other => tied le element other = true ∧ property other = true) =
      some element := by
  obtain ⟨holds, before, after, split, earlier⟩ := List.find?_eq_some_iff_append.mp found
  rw [← List.find?_filter, ← filter_tied_mergeSort trans total, List.find?_filter,
    List.find?_eq_some_iff_append]
  refine ⟨decide_eq_true ⟨tied_self total element, holds⟩, before, after, split, ?_⟩
  intro other isOther
  have fails := earlier other isOther
  simp only [Bool.not_eq_true'] at fails
  simp [fails]

end Ties

section Least

variable {property : α → Bool}

include total in
/-- The first element with a property in a sorted list is a least one. -/
theorem least_of_find? (ordered : list.Pairwise fun a b => le a b = true)
    (found : list.find? property = some element) : Least le property list element := by
  obtain ⟨holds, before, after, rfl, earlier⟩ := List.find?_eq_some_iff_append.mp found
  refine ⟨List.mem_append_right _ List.mem_cons_self, holds, ?_⟩
  intro other isOther otherHolds
  rcases List.mem_append.mp isOther with inBefore | inAfter
  · have fails := earlier other inBefore
    rw [otherHolds] at fails
    cases fails
  · rcases List.mem_cons.mp inAfter with rfl | later
    · exact (Bool.and_eq_true_iff.mp (tied_self total other)).1
    · exact (List.pairwise_cons.mp (List.pairwise_append.mp ordered).2.1).1 other later

theorem Least.perm (same : first.Perm second) (least : Least le property first element) :
    Least le property second element := by
  refine ⟨same.mem_iff.mp least.1, least.2.1, ?_⟩
  intro other isOther
  exact least.2.2 other (same.mem_iff.mpr isOther)

include total in
/-- Sorted lists of the same elements have the same first element with a property,
unless least ones are tied. -/
theorem find?_eq_of_perm (firstOrdered : first.Pairwise fun a b => le a b = true)
    (secondOrdered : second.Pairwise fun a b => le a b = true) (same : first.Perm second)
    (unique : ∀ left right, Least le property first left → Least le property first right →
      left = right) : first.find? property = second.find? property := by
  cases found : second.find? property with
  | none =>
    rw [List.find?_eq_none] at found ⊢
    intro element isElement
    exact found element (same.mem_iff.mp isElement)
  | some right =>
    have rightLeast := (least_of_find? total secondOrdered found).perm same.symm
    cases other : first.find? property with
    | none =>
      have fails := List.find?_eq_none.mp other right rightLeast.1
      exact absurd rightLeast.2.1 fails
    | some left => rw [unique left right (least_of_find? total firstOrdered other) rightLeast]

end Least

end FastSocket.Sorting
