import FastSocket.Transition.Run

/-!
# Simulation of calls

A call changes a state and returns a result, or is not enabled.  One call simulates
another when, from related states, both have the same outcome.  Lists of calls then
simulate each other.
-/

namespace FastSocket.Transition

universe u v

variable {σ τ ρ π : Type u} {α : Type v} {related : σ → τ → Prop}

/-- One step of a system as a call without a result. -/
def perform (next : Step σ α) (action : α) : StateT σ Option PUnit :=
  fun state => (next state action).map (Prod.mk ⟨⟩)

section Perform

variable {next : Step σ α} {action : α} {source target : σ}

theorem run_perform_bind (taken : next source action = some target)
    (rest : PUnit → StateT σ Option ρ) :
    (perform next action >>= rest).run source = (rest ⟨⟩).run target := by
  rw [StateT.run_bind, StateT.run, perform, taken]
  rfl

theorem run_perform_bind_of_none (refused : next source action = none)
    (rest : PUnit → StateT σ Option ρ) : (perform next action >>= rest).run source = none := by
  rw [StateT.run_bind, StateT.run, perform, refused]
  rfl

end Perform

/-- Two calls are both disabled, or return the same result in related states. -/
def SameOutcome (related : σ → τ → Prop) : Option (ρ × σ) → Option (ρ × τ) → Prop :=
  Option.Rel fun reached expected => reached.1 = expected.1 ∧ related reached.2 expected.2

/-- From related states the two calls have the same outcome. -/
def Simulates (related : σ → τ → Prop) (first : StateT σ Option ρ) (second : StateT τ Option ρ) :
    Prop :=
  ∀ source target, related source target →
    SameOutcome related (first.run source) (second.run target)

namespace Simulates

theorem pure (result : ρ) : Simulates related (pure result) (pure result) :=
  fun _ _ holds => .some ⟨rfl, holds⟩

theorem bind {first : StateT σ Option ρ} {second : StateT τ Option ρ}
    {firstRest : ρ → StateT σ Option π} {secondRest : ρ → StateT τ Option π}
    (calls : Simulates related first second)
    (rests : ∀ result, Simulates related (firstRest result) (secondRest result)) :
    Simulates related (first >>= firstRest) (second >>= secondRest) := by
  intro source target holds
  have outcome := calls source target holds
  rw [StateT.run_bind, StateT.run_bind]
  generalize first.run source = reached at outcome
  generalize second.run target = expected at outcome
  cases outcome with
  | none => exact .none
  | @some reached expected both =>
    obtain ⟨result, state⟩ := reached
    obtain ⟨_, spec⟩ := expected
    obtain ⟨rfl, related⟩ := both
    exact rests result state spec related

/-- Lists of calls that simulate one another. -/
theorem mapM {first : α → StateT σ Option ρ} {second : α → StateT τ Option ρ}
    (each : ∀ call, Simulates related (first call) (second call)) (calls : List α) :
    Simulates related (calls.mapM first) (calls.mapM second) := by
  induction calls with
  | nil => exact pure []
  | cons call rest ih =>
    rw [List.mapM_cons, List.mapM_cons]
    exact (each call).bind fun result => ih.bind fun results => pure (result :: results)

end Simulates

end FastSocket.Transition
