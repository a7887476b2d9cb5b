import Mathlib.Data.List.Basic

/-!
# Runs of labelled transition systems

A system is a partial transition function on states and actions; all
nondeterminism is in the choice of actions.  A run is a list of actions.  Safety
properties are proved from what one step preserves.
-/

namespace FastSocket.Transition

universe u v

variable {σ : Type u} {α : Type v}

/-- A partial transition function: `none` when the action is not enabled. -/
abbrev Step (σ : Type u) (α : Type v) :=
  σ → α → Option σ

/-- The state after a list of actions. -/
def run (next : Step σ α) : σ → List α → Option σ
  | state, [] => some state
  | state, action :: rest => (next state action).bind (run next · rest)

/-- Every step of a run meets a condition on its action and the state before it. -/
def StepsMeet (next : Step σ α) (allowed : σ → α → Prop) : σ → List α → Prop
  | _, [] => True
  | state, action :: rest =>
    allowed state action ∧
      ∀ target ∈ next state action, StepsMeet next allowed target rest

instance StepsMeet.decidable (next : Step σ α) (allowed : σ → α → Prop)
    [∀ state action, Decidable (allowed state action)] :
    (state : σ) → (actions : List α) → Decidable (StepsMeet next allowed state actions)
  | _, [] => inferInstanceAs (Decidable True)
  | state, action :: rest =>
    match taken : next state action with
    | none => decidable_of_iff (allowed state action) (by simp [StepsMeet, taken])
    | some target =>
      have := StepsMeet.decidable next allowed target rest
      decidable_of_iff (allowed state action ∧ StepsMeet next allowed target rest)
        (by simp [StepsMeet, taken])

variable {next : Step σ α}

/-- A condition on the actions alone. -/
theorem StepsMeet.of_forall {allowed : σ → α → Prop} {source : σ} {actions : List α}
    (all : ∀ action ∈ actions, ∀ state, allowed state action) :
    StepsMeet next allowed source actions := by
  induction actions generalizing source with
  | nil => trivial
  | cons action rest ih =>
    obtain ⟨first, others⟩ := List.forall_mem_cons.mp all
    exact ⟨first source, fun _ _ => ih others⟩

theorem StepsMeet.and {first second : σ → α → Prop} {source : σ} {actions : List α}
    (meetsFirst : StepsMeet next first source actions)
    (meetsSecond : StepsMeet next second source actions) :
    StepsMeet next (fun state action => first state action ∧ second state action) source
      actions := by
  induction actions generalizing source with
  | nil => trivial
  | cons action rest ih =>
    refine ⟨⟨meetsFirst.1, meetsSecond.1⟩, ?_⟩
    exact fun target taken => ih (meetsFirst.2 target taken) (meetsSecond.2 target taken)

theorem run_cons_eq_some_iff {source target : σ} {action : α} {rest : List α} :
    run next source (action :: rest) = some target ↔
      ∃ middle, next source action = some middle ∧ run next middle rest = some target :=
  Option.bind_eq_some_iff

/-- An invariant that every allowed step preserves holds after every run of
allowed steps. -/
theorem run_invariant {allowed : σ → α → Prop} {invariant : σ → Prop}
    (preserved : ∀ source action target, invariant source → allowed source action →
      next source action = some target → invariant target) {source target : σ} {actions : List α}
    (holds : invariant source) (reached : run next source actions = some target)
    (meets : StepsMeet next allowed source actions) : invariant target := by
  induction actions generalizing source with
  | nil =>
    cases reached
    exact holds
  | cons action rest ih =>
    obtain ⟨middle, taken, restReached⟩ := run_cons_eq_some_iff.mp reached
    exact ih (preserved source action middle holds meets.1 taken) restReached
      (meets.2 middle taken)

/-- A measure that every allowed step keeps or lowers, and that the counted actions
lower, bounds their number in a run of allowed steps. -/
theorem measure_add_countP_le {allowed : σ → α → Prop} {invariant : σ → Prop} {measure : σ → Nat}
    {counted : α → Bool}
    (preserved : ∀ source action target, invariant source → allowed source action →
      next source action = some target →
        invariant target ∧ measure target + [action].countP counted ≤ measure source)
    {source target : σ} {actions : List α} (holds : invariant source)
    (reached : run next source actions = some target)
    (meets : StepsMeet next allowed source actions) :
    measure target + actions.countP counted ≤ measure source := by
  induction actions generalizing source with
  | nil =>
    cases reached
    exact Nat.le_refl _
  | cons action rest ih =>
    obtain ⟨middle, taken, restReached⟩ := run_cons_eq_some_iff.mp reached
    obtain ⟨middleHolds, lower⟩ := preserved source action middle holds meets.1 taken
    have bound := ih middleHolds restReached (meets.2 middle taken)
    have split : (action :: rest).countP counted =
        [action].countP counted + rest.countP counted :=
      @List.countP_append _ counted [action] rest
    omega

/-- An invariant that every step preserves holds after every run. -/
theorem run_invariant_of_step {invariant : σ → Prop}
    (preserved : ∀ source action target, invariant source →
      next source action = some target → invariant target) {source target : σ} {actions : List α}
    (holds : invariant source) (reached : run next source actions = some target) :
    invariant target := by
  have meets : StepsMeet next (fun _ _ => True) source actions := .of_forall fun _ _ _ => trivial
  exact run_invariant (fun source action target holds _ => preserved source action target holds)
    holds reached meets

/-- Where the first step that is not allowed leads to a bad state, and none leaves one, a
run ends well exactly when all its steps are allowed. -/
theorem not_bad_iff_stepsMeet {allowed : σ → α → Prop} {invariant bad : σ → Prop}
    (preserved : ∀ source action target, invariant source →
      next source action = some target → invariant target)
    (stays : ∀ source action target, invariant source → bad source →
      next source action = some target → bad target)
    (turns : ∀ source action target, invariant source → ¬ bad source →
      next source action = some target → (¬ bad target ↔ allowed source action)) {source target : σ}
    {actions : List α} (holds : invariant source) (good : ¬ bad source)
    (reached : run next source actions = some target) :
    ¬ bad target ↔ StepsMeet next allowed source actions := by
  induction actions generalizing source with
  | nil =>
    cases reached
    exact iff_of_true good trivial
  | cons action rest ih =>
    obtain ⟨middle, taken, restReached⟩ := run_cons_eq_some_iff.mp reached
    have step := turns source action middle holds good taken
    by_cases spoiled : bad middle
    · have ends : invariant target ∧ bad target := by
        refine @run_invariant_of_step σ α next (fun state => invariant state ∧ bad state) ?_
          middle target rest ⟨preserved source action middle holds taken, spoiled⟩ restReached
        rintro source action target ⟨before, badBefore⟩ taken
        exact ⟨preserved source action target before taken,
          stays source action target before badBefore taken⟩
      exact iff_of_false (fun fine => fine ends.2) fun meets => step.mpr meets.1 spoiled
    · rw [ih (preserved source action middle holds taken) spoiled restReached]
      constructor
      · intro meets
        refine ⟨step.mp spoiled, ?_⟩
        intro other isOther
        cases isOther.symm.trans taken
        exact meets
      · exact fun meets => meets.2 middle taken

end FastSocket.Transition
