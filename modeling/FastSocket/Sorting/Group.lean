import Mathlib.Data.List.Nodup
import Mathlib.Data.List.Perm.Basic
import Mathlib.Order.Lattice

/-!
# Groups and blocks

Items are collected into groups by a key, with the groups in the order of their keys,
and a list is cut into blocks of one size.  Both only rearrange the items: every item
stays, once, in the group of its key and in one block.
-/

namespace FastSocket.Sorting

universe u v

/-! ## Groups -/

section Groups

variable {κ : Type u} {α : Type v} [LinearOrder κ]

/-- Adds an item behind the others of its group. -/
def insertGroup (key : κ) (item : α) : List (κ × List α) → List (κ × List α)
  | [] => [(key, [item])]
  | (other, items) :: rest =>
    if key < other then
      (key, [item]) :: (other, items) :: rest
    else if key = other then
      (other, items ++ [item]) :: rest
    else
      (other, items) :: insertGroup key item rest

/-- Groups of items by keys that the items may have. -/
structure Grouped (keyed : α → κ → Prop) (groups : List (κ × List α)) (items : List α) :
    Prop where
  perm : (groups.flatMap Prod.snd).Perm items
  ordered : groups.Pairwise fun first second => first.1 < second.1
  nonempty : ∀ group ∈ groups, group.2 ≠ []
  keys : ∀ group ∈ groups, ∀ item ∈ group.2, keyed item group.1

variable {keyed : α → κ → Prop} {groups : List (κ × List α)} {items : List α} {key : κ}
  {item : α}

theorem Grouped.nil : Grouped keyed ([] : List (κ × List α)) [] :=
  ⟨.refl _, .nil, nofun, nofun⟩

theorem flatMap_insertGroup (key : κ) (item : α) (groups : List (κ × List α)) :
    ((insertGroup key item groups).flatMap Prod.snd).Perm (item :: groups.flatMap Prod.snd) := by
  induction groups with
  | nil => exact .refl _
  | cons group rest ih =>
    obtain ⟨other, items⟩ := group
    rw [insertGroup]
    split
    · exact .refl _
    · split
      · change (items ++ [item] ++ rest.flatMap Prod.snd).Perm
          (item :: (items ++ rest.flatMap Prod.snd))
        rw [List.append_assoc]
        exact List.perm_middle
      · change (items ++ (insertGroup key item rest).flatMap Prod.snd).Perm
          (item :: (items ++ rest.flatMap Prod.snd))
        exact (ih.append_left items).trans List.perm_middle

/-- A group after an insertion is an old one, perhaps with the new item. -/
theorem mem_insertGroup {group : κ × List α} (member : group ∈ insertGroup key item groups) :
    group.1 = key ∧ (∀ other ∈ group.2, other = item ∨ ∃ old ∈ groups, old.1 = key ∧ other ∈ old.2) ∧
        group.2 ≠ [] ∨
      group ∈ groups := by
  induction groups with
  | nil =>
    cases List.mem_singleton.mp member
    exact .inl ⟨rfl, fun other isItem => .inl (List.mem_singleton.mp isItem),
      List.cons_ne_nil _ _⟩
  | cons head rest ih =>
    obtain ⟨other, items⟩ := head
    rw [insertGroup] at member
    split at member
    · rcases List.mem_cons.mp member with rfl | old
      · exact .inl ⟨rfl, fun other isItem => .inl (List.mem_singleton.mp isItem),
          List.cons_ne_nil _ _⟩
      · exact .inr old
    · split at member
      case isTrue same =>
        subst same
        rcases List.mem_cons.mp member with rfl | old
        · refine .inl ⟨rfl, ?_, List.append_ne_nil_of_right_ne_nil _ (List.cons_ne_nil _ _)⟩
          intro other isItem
          rcases List.mem_append.mp isItem with old | new
          · exact .inr ⟨_, List.mem_cons_self, rfl, old⟩
          · exact .inl (List.mem_singleton.mp new)
        · exact .inr (List.mem_cons_of_mem _ old)
      case isFalse =>
        rcases List.mem_cons.mp member with rfl | inRest
        · exact .inr List.mem_cons_self
        · rcases ih inRest with ⟨isKey, origin, nonempty⟩ | old
          · refine .inl ⟨isKey, ?_, nonempty⟩
            intro other isItem
            refine (origin other isItem).imp_right ?_
            rintro ⟨old, member, isKey, inOld⟩
            exact ⟨old, List.mem_cons_of_mem _ member, isKey, inOld⟩
          · exact .inr (List.mem_cons_of_mem _ old)

theorem ordered_insertGroup (ordered : groups.Pairwise fun first second => first.1 < second.1)
    (key : κ) (item : α) :
    (insertGroup key item groups).Pairwise fun first second => first.1 < second.1 := by
  induction groups with
  | nil => exact List.pairwise_singleton _ _
  | cons head rest ih =>
    obtain ⟨other, items⟩ := head
    obtain ⟨before, restOrdered⟩ := List.pairwise_cons.mp ordered
    rw [insertGroup]
    split
    case isTrue less =>
      refine List.pairwise_cons.mpr ⟨?_, ordered⟩
      intro group member
      rcases List.mem_cons.mp member with rfl | inRest
      · exact less
      · exact less.trans (before group inRest)
    case isFalse notLess =>
      split
      case isTrue => exact List.pairwise_cons.mpr ⟨before, restOrdered⟩
      case isFalse differs =>
        refine List.pairwise_cons.mpr ⟨?_, ih restOrdered⟩
        intro group member
        rcases mem_insertGroup member with ⟨isKey, _⟩ | old
        · rw [isKey]
          exact lt_of_le_of_ne (not_lt.mp notLess) (Ne.symm differs)
        · exact before group old

theorem Grouped.insert (grouped : Grouped keyed groups items) (isKey : keyed item key) :
    Grouped keyed (insertGroup key item groups) (items ++ [item]) := by
  constructor
  · exact ((flatMap_insertGroup key item groups).trans (grouped.perm.cons item)).trans
      (List.perm_append_singleton item items).symm
  · exact ordered_insertGroup grouped.ordered key item
  · intro group member
    rcases mem_insertGroup member with ⟨_, _, nonempty⟩ | old
    · exact nonempty
    · exact grouped.nonempty group old
  · intro group member other isItem
    rcases mem_insertGroup member with ⟨same, origin, _⟩ | old
    · rw [same]
      rcases origin other isItem with rfl | ⟨old, inGroups, rfl, inOld⟩
      · exact isKey
      · exact grouped.keys old inGroups other inOld
    · exact grouped.keys group old other isItem

/-- A key has one group. -/
theorem Grouped.eq_of_key_eq (grouped : Grouped keyed groups items) {first second : κ × List α}
    (isFirst : first ∈ groups) (isSecond : second ∈ groups) (same : first.1 = second.1) :
    first = second := by
  have distinct : (groups.map Prod.fst).Nodup :=
    List.pairwise_map.mpr (grouped.ordered.imp fun less => less.ne)
  exact List.inj_on_of_nodup_map distinct isFirst isSecond same

end Groups

/-! ## Blocks -/

section Blocks

variable {α : Type v} {size count : Nat} {list : List α}

/-- Cuts a list into blocks of a size; the last one may be shorter. -/
def chunks (size : Nat) (list : List α) : List (List α) :=
  (List.range ((list.length + size - 1) / size)).map fun index =>
    (list.drop (index * size)).take size

theorem chunks_of_length_eq (positive : 0 < size) (length : list.length = count * size) :
    chunks size list =
      (List.range count).map fun index => (list.drop (index * size)).take size := by
  have rounds : (list.length + size - 1) / size = count := by
    rw [length, Nat.add_sub_assoc positive, Nat.mul_comm, Nat.mul_add_div positive,
      Nat.div_eq_of_lt (Nat.sub_lt positive Nat.one_pos), Nat.add_zero]
  rw [chunks, rounds]

theorem flatten_range_blocks (list : List α) (size count : Nat) :
    ((List.range count).map fun index => (list.drop (index * size)).take size).flatten =
      list.take (count * size) := by
  induction count with
  | zero => simp
  | succ count ih =>
    rw [List.range_succ, List.map_append, List.flatten_append, ih, Nat.succ_mul, List.take_add]
    simp

/-- A list of as many items as fill a number of blocks is cut into these blocks. -/
theorem chunks_spec (positive : 0 < size) (length : list.length = count * size) :
    (chunks size list).length = count ∧ (chunks size list).flatten = list ∧
      ∀ block ∈ chunks size list, block.length = size := by
  rw [chunks_of_length_eq positive length]
  refine ⟨?_, ?_, ?_⟩
  · rw [List.length_map, List.length_range]
  · rw [flatten_range_blocks, ← length, List.take_length]
  · intro block member
    obtain ⟨index, inRange, rfl⟩ := List.mem_map.mp member
    have full : (index + 1) * size ≤ list.length := by
      rw [length]
      exact Nat.mul_le_mul_right size (List.mem_range.mp inRange)
    rw [List.length_take, List.length_drop, Nat.min_eq_left]
    rw [Nat.succ_mul] at full
    exact Nat.le_sub_of_add_le' full

end Blocks

end FastSocket.Sorting
