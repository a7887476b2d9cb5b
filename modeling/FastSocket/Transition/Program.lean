import Mathlib.Order.Defs.Unbundled

/-!
# Rules for state programs

What a program does to the state is described by a preorder on states: a program
follows it when its final state is related to its initial one.  What a program
returns is described by a precondition and a postcondition.  The rules for
sequencing cover early returns, since an error exit is a branch like any other.
-/

namespace FastSocket.Transition

universe u v w

variable {σ : Type u} {α : Type u} {β : Type u} {R : σ → σ → Prop}

theorem run_bind (program : StateM σ α) (rest : α → StateM σ β) (state : σ) :
    (program >>= rest).run state = (rest (program.run state).1).run (program.run state).2 :=
  rfl

theorem run_modifyGet (change : σ → α × σ) (state : σ) :
    (modifyGet change : StateM σ α).run state = change state :=
  rfl

/-- Every run of the program ends in a state related to the one it starts in. -/
def Follows (R : σ → σ → Prop) (program : StateM σ α) : Prop :=
  ∀ state, R state (program.run state).2

variable {program : StateM σ α} {rest : α → StateM σ β} {condition : Prop}

namespace Follows

theorem pure [Std.Refl R] (value : α) : Follows R (pure value : StateM σ α) :=
  fun state => refl_of R state

theorem get [Std.Refl R] : Follows R (get : StateM σ σ) :=
  fun state => refl_of R state

theorem modify {change : σ → σ} (related : ∀ state, R state (change state)) :
    Follows R (modify change : StateM σ PUnit) :=
  related

theorem modifyGet {change : σ → α × σ} (related : ∀ state, R state (change state).2) :
    Follows R (modifyGet change : StateM σ α) :=
  related

theorem bind [IsTrans σ R] (first : Follows R program) (second : ∀ value, Follows R (rest value)) :
    Follows R (program >>= rest) :=
  fun state => trans_of R (first state) (second _ _)

theorem ite [Decidable condition] {yes no : StateM σ α} (whenTrue : Follows R yes)
    (whenFalse : Follows R no) : Follows R (if condition then yes else no) := by
  split
  · exact whenTrue
  · exact whenFalse

end Follows

/-- From every state that meets the precondition the result and the final state meet
the postcondition. -/
def Triple (before : σ → Prop) (program : StateM σ α) (after : α → σ → Prop) : Prop :=
  ∀ state, before state → after (program.run state).1 (program.run state).2

namespace Triple

variable {before : σ → Prop} {after : β → σ → Prop} {between : α → σ → Prop}

theorem pure {value : β} (implied : ∀ state, before state → after value state) :
    Triple before (pure value : StateM σ β) after :=
  implied

theorem get {after : σ → σ → Prop} (implied : ∀ state, before state → after state state) :
    Triple before (get : StateM σ σ) after :=
  implied

theorem modifyGet {change : σ → β × σ}
    (implied : ∀ state, before state → after (change state).1 (change state).2) :
    Triple before (modifyGet change : StateM σ β) after :=
  implied

theorem bind (first : Triple before program between)
    (second : ∀ value, Triple (between value) (rest value) after) :
    Triple before (program >>= rest) after :=
  fun state holds => second _ _ (first state holds)

/-- The rule for a program whose result and final state do not matter. -/
theorem skip (second : ∀ value, Triple (fun _ => True) (rest value) after) :
    Triple before (program >>= rest) after :=
  fun _ _ => second _ _ trivial

theorem ite [Decidable condition] {yes no : StateM σ β}
    (whenTrue : condition → Triple before yes after)
    (whenFalse : ¬ condition → Triple before no after) :
    Triple before (if condition then yes else no) after := by
  split
  · exact whenTrue ‹_›
  · exact whenFalse ‹_›

end Triple

end FastSocket.Transition
