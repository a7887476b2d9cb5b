import Mathlib.Data.List.Forall2

/-!
# Computations that can stop

A computation returns a value, returns an error to its caller, or stops the program.
What a loop keeps and that it does not stop the program are shown by one step of it.
-/

namespace FastSocket.Transition

universe u v w

/-- Why a computation gives no value. -/
inductive Stop (ε : Type u) where
  | failed (error : ε)
  | panicked
deriving DecidableEq, Repr

/-- Goes on only if a condition holds. -/
def ensure {ε : Type u} (condition : Prop) [Decidable condition] (stop : ε) : Except ε Unit :=
  if condition then .ok () else .error stop

variable {ε : Type u} {condition : Prop} {stop error : ε}

theorem ensure_eq_ok [Decidable condition] {passed : Unit} :
    ensure condition stop = .ok passed ↔ condition := by
  rw [ensure]
  split
  case isTrue holds => exact iff_of_true rfl holds
  case isFalse fails => exact iff_of_false nofun fails

theorem ensure_eq_error [Decidable condition] :
    ensure condition stop = .error error ↔ ¬ condition ∧ stop = error := by
  rw [ensure]
  split
  case isTrue holds => exact iff_of_false nofun fun fails => fails.1 holds
  case isFalse fails => rw [Except.error.injEq, and_iff_right fails]

section Bind

variable {α β : Type v} {computation : Except ε α} {rest step : α → Except ε β}
  {items : List α} {result source : β} {results : List β}

theorem bind_eq_ok_iff :
    (computation >>= rest) = .ok result ↔
      ∃ value, computation = .ok value ∧ rest value = .ok result := by
  cases computation with
  | error error => exact ⟨nofun, fun ⟨_, isOk, _⟩ => nomatch isOk⟩
  | ok value =>
    constructor
    · exact fun done => ⟨value, rfl, done⟩
    · rintro ⟨_, ⟨⟩, done⟩
      exact done

theorem bind_eq_error_iff :
    (computation >>= rest) = .error error ↔
      computation = .error error ∨ ∃ value, computation = .ok value ∧ rest value = .error error := by
  cases computation with
  | error first =>
    constructor
    · rintro ⟨⟩
      exact .inl rfl
    · rintro (⟨⟨⟩⟩ | ⟨_, ⟨⟩, _⟩)
      rfl
  | ok value =>
    constructor
    · exact fun fails => .inr ⟨value, rfl, fails⟩
    · rintro (⟨⟨⟩⟩ | ⟨_, ⟨⟩, fails⟩)
      exact fails

theorem exists_of_mem_forall₂ {relation : α → β → Prop}
    (related : List.Forall₂ relation items results) (member : result ∈ results) :
    ∃ item ∈ items, relation item result := by
  induction related with
  | nil => cases member
  | cons first _ ih =>
    rcases List.mem_cons.mp member with rfl | later
    · exact ⟨_, List.mem_cons_self, first⟩
    · obtain ⟨item, isItem, holds⟩ := ih later
      exact ⟨item, List.mem_cons_of_mem _ isItem, holds⟩

/-- A traversal that returns has a result for each item. -/
theorem mapM_eq_ok (done : items.mapM step = .ok results) :
    List.Forall₂ (fun item result => step item = .ok result) items results := by
  induction items generalizing results with
  | nil =>
    cases done
    exact .nil
  | cons item rest ih =>
    rw [List.mapM_cons] at done
    obtain ⟨first, isFirst, done⟩ := bind_eq_ok_iff.mp done
    obtain ⟨others, areOthers, done⟩ := bind_eq_ok_iff.mp done
    cases done
    exact .cons isFirst (ih areOthers)

/-- A traversal returns exactly when each of its steps does. -/
theorem exists_mapM_eq_ok :
    (∃ results, items.mapM step = .ok results) ↔
      ∀ item ∈ items, ∃ result, step item = .ok result := by
  induction items with
  | nil => exact iff_of_true ⟨[], rfl⟩ nofun
  | cons item rest ih =>
    rw [List.mapM_cons, List.forall_mem_cons, ← ih]
    constructor
    · rintro ⟨results, done⟩
      obtain ⟨first, isFirst, done⟩ := bind_eq_ok_iff.mp done
      obtain ⟨others, areOthers, _⟩ := bind_eq_ok_iff.mp done
      exact ⟨⟨first, isFirst⟩, others, areOthers⟩
    · rintro ⟨⟨first, isFirst⟩, others, areOthers⟩
      rw [isFirst, areOthers]
      exact ⟨first :: others, rfl⟩

/-- A traversal ends with the error of the first step that has one. -/
theorem mapM_eq_error :
    items.mapM step = .error error ↔
      ∃ before item after, items = before ++ item :: after ∧
        (∀ earlier ∈ before, ∃ result, step earlier = .ok result) ∧ step item = .error error := by
  induction items with
  | nil =>
    refine iff_of_false nofun ?_
    rintro ⟨before, item, after, split, _⟩
    exact (List.append_ne_nil_of_right_ne_nil before (List.cons_ne_nil item after)) split.symm
  | cons item rest ih =>
    rw [List.mapM_cons, bind_eq_error_iff]
    constructor
    · rintro (isError | ⟨first, isFirst, fails⟩)
      · exact ⟨[], item, rest, rfl, nofun, isError⟩
      · rcases bind_eq_error_iff.mp fails with isError | ⟨_, _, ⟨⟩⟩
        obtain ⟨before, failing, after, rfl, returned, isError⟩ := ih.mp isError
        exact ⟨item :: before, failing, after, rfl,
          List.forall_mem_cons.mpr ⟨⟨first, isFirst⟩, returned⟩, isError⟩
    · rintro ⟨before, failing, after, split, returned, isError⟩
      cases before with
      | nil =>
        cases split
        exact .inl isError
      | cons earlier before =>
        cases split
        obtain ⟨⟨first, isFirst⟩, returned⟩ := List.forall_mem_cons.mp returned
        have fails := ih.mpr ⟨before, failing, after, rfl, returned, isError⟩
        exact .inr ⟨first, isFirst, bind_eq_error_iff.mpr (.inl fails)⟩

/-- What every step of a loop keeps holds when the loop returns. -/
theorem foldlM_eq_ok {step : β → α → Except ε β} (invariant : β → List α → Prop)
    (preserved : ∀ state done item next, invariant state done → step state item = .ok next →
      invariant next (done ++ [item])) {target : β} {before : List α}
    (holds : invariant source before) (reached : items.foldlM step source = .ok target) :
    invariant target (before ++ items) := by
  induction items generalizing source before with
  | nil =>
    cases reached
    rwa [List.append_nil]
  | cons item rest ih =>
    rw [List.foldlM_cons] at reached
    obtain ⟨next, taken, reached⟩ := bind_eq_ok_iff.mp reached
    have after := ih (preserved source before item next holds taken) reached
    rwa [List.append_assoc] at after

/-- A loop whose steps can only fail for their items returns exactly when none of them
does. -/
theorem exists_foldlM_eq_ok {step : β → α → Except ε β} {check : α → Prop}
    (each : ∀ state item, (∃ next, step state item = .ok next) ↔ check item) :
    (∃ target, items.foldlM step source = .ok target) ↔ ∀ item ∈ items, check item := by
  induction items generalizing source with
  | nil => exact iff_of_true ⟨source, rfl⟩ nofun
  | cons item rest ih =>
    rw [List.foldlM_cons, List.forall_mem_cons, ← each source]
    constructor
    · rintro ⟨target, reached⟩
      obtain ⟨next, taken, reached⟩ := bind_eq_ok_iff.mp reached
      exact ⟨⟨next, taken⟩, ih.mp ⟨target, reached⟩⟩
    · rintro ⟨⟨next, taken⟩, others⟩
      obtain ⟨target, reached⟩ := ih.mpr others
      exact ⟨target, bind_eq_ok_iff.mpr ⟨next, taken, reached⟩⟩

end Bind

/-! ## Not stopping the program -/

section Panics

variable {α β : Type v}

/-- A computation that does not stop the program. -/
def NoPanic (computation : Except (Stop ε) α) : Prop :=
  computation ≠ .error .panicked

theorem NoPanic.ok (value : α) : NoPanic (.ok value : Except (Stop ε) α) :=
  nofun

theorem NoPanic.failed (error : ε) : NoPanic (.error (.failed error) : Except (Stop ε) α) :=
  nofun

/-- A check that returns an error. -/
theorem NoPanic.check (condition : Prop) [Decidable condition] (error : ε) :
    NoPanic (ensure condition (Stop.failed error)) := by
  rw [ensure]
  split
  · exact .ok ()
  · exact .failed error

/-- An assertion that holds. -/
theorem NoPanic.assert [Decidable condition] (holds : condition) (stop : Stop ε) :
    NoPanic (ensure condition stop) := by
  rw [ensure, if_pos holds]
  exact .ok ()

variable {computation : Except (Stop ε) α}

theorem NoPanic.bind {rest : α → Except (Stop ε) β} (first : NoPanic computation)
    (second : ∀ value, computation = .ok value → NoPanic (rest value)) :
    NoPanic (computation >>= rest) := by
  cases computation with
  | error error =>
    intro panics
    cases panics
    exact first rfl
  | ok value => exact second value rfl

theorem NoPanic.mapM {step : α → Except (Stop ε) β} {items : List α}
    (each : ∀ item ∈ items, NoPanic (step item)) : NoPanic (items.mapM step) := by
  induction items with
  | nil => exact .ok []
  | cons item rest ih =>
    obtain ⟨first, others⟩ := List.forall_mem_cons.mp each
    rw [List.mapM_cons]
    exact first.bind fun _ _ => (ih others).bind fun _ _ => .ok _

theorem NoPanic.foldlM {step : β → α → Except (Stop ε) β}
    (each : ∀ state item, NoPanic (step state item)) (items : List α) (source : β) :
    NoPanic (items.foldlM step source) := by
  induction items generalizing source with
  | nil => exact .ok source
  | cons item rest ih =>
    rw [List.foldlM_cons]
    exact (each source item).bind fun next _ => ih next

/-- A computation that does not stop the program fails exactly when it returns nothing. -/
theorem NoPanic.failed_iff (noPanic : NoPanic computation) :
    (∃ error, computation = .error (.failed error)) ↔ ¬ ∃ value, computation = .ok value := by
  cases computation with
  | ok value => exact iff_of_false nofun fun none => none ⟨value, rfl⟩
  | error stop =>
    cases stop with
    | failed error => exact iff_of_true ⟨error, rfl⟩ nofun
    | panicked => exact absurd rfl noPanic

end Panics

end FastSocket.Transition
