import Mathlib.Algebra.BigOperators.Fin
import Mathlib.Algebra.Order.BigOperators.Group.Finset
import Mathlib.Algebra.Order.Group.Multiset

/-!
# Systems of parties

A system is a list of parties, and a step changes one of them.  What the parties
hold together changes by what that party holds.  Items without duplicates that the
places of a system hold together are each in one place.
-/

namespace FastSocket.Transition

universe u v

variable {σ : Type u} {M : Type v} [AddCommMonoid M]

/-- What all parties hold together. -/
def total (hold : σ → M) (parties : List σ) : M :=
  (parties.map hold).sum

variable {parties : List σ}

/-- The other parties keep what they hold when one party changes. -/
theorem total_set (hold : σ → M) {index : Nat} {old : σ} (found : parties[index]? = some old) :
    ∃ others, total hold parties = hold old + others ∧
      ∀ new, total hold (parties.set index new) = hold new + others := by
  induction parties generalizing index with
  | nil => cases found
  | cons party rest ih =>
    cases index with
    | zero =>
      cases found
      exact ⟨total hold rest, List.sum_cons, fun _ => List.sum_cons⟩
    | succ index =>
      obtain ⟨others, before, after⟩ := ih found
      refine ⟨hold party + others, ?_, ?_⟩
      · change hold party + total hold rest = _
        rw [before, add_left_comm]
      · intro new
        change hold party + total hold (rest.set index new) = _
        rw [after, add_left_comm]

theorem forall_set {P : σ → Prop} (all : ∀ party ∈ parties, P party) {new : σ} (holds : P new)
    (index : Nat) : ∀ party ∈ parties.set index new, P party := by
  intro party member
  rcases List.mem_or_eq_of_mem_set member with old | rfl
  · exact all party old
  · exact holds

theorem sum_getElem (hold : σ → M) (parties : List σ) :
    ∑ index : Fin parties.length, hold parties[index.1] = total hold parties :=
  Fin.sum_univ_fun_getElem parties hold

/-! ## Places -/

section Places

variable {ι : Type u} {γ : Type v} {hold : ι → Multiset γ} {items : List γ}

/-- Each item is in one place, once, and the places hold nothing else. -/
structure Partitions (hold : ι → Multiset γ) (items : List γ) : Prop where
  once : ∀ item ∈ items, ∃! place, item ∈ hold place
  nodup : ∀ place, (hold place).Nodup
  only : ∀ place, ∀ item ∈ hold place, item ∈ items

theorem partitions_of_sum [Fintype ι] (nodup : items.Nodup) (sum : ∑ place, hold place = ↑items) :
    Partitions hold items := by
  classical
  have member : ∀ item, item ∈ items ↔ ∃ place, item ∈ hold place := by
    intro item
    rw [← Multiset.mem_coe, ← sum, Multiset.mem_sum]
    simp only [Finset.mem_univ, true_and]
  have single : ∀ item, ∑ place, (hold place).count item ≤ 1 := by
    intro item
    rw [← Multiset.count_sum', sum]
    exact Multiset.nodup_iff_count_le_one.mp (Multiset.coe_nodup.mpr nodup) item
  refine ⟨?_, ?_, fun place item held => (member item).mpr ⟨place, held⟩⟩
  · intro item isItem
    obtain ⟨place, held⟩ := (member item).mp isItem
    refine ⟨place, held, ?_⟩
    intro other otherHeld
    exact (Finset.sum_le_one_iff.mp (single item) other place (Finset.mem_univ _)
      (Finset.mem_univ _) (Multiset.count_ne_zero.mpr otherHeld)
      (Multiset.count_ne_zero.mpr held)).1
  · intro place
    rw [Multiset.nodup_iff_count_le_one]
    intro item
    exact le_trans (Finset.single_le_sum (fun other _ => Nat.zero_le ((hold other).count item))
      (Finset.mem_univ place)) (single item)

end Places

end FastSocket.Transition
