import Mathlib.Order.Basic

/-!
# Loops over a buffer

A loop that reads a buffer from an offset on.  A step fails when it reads outside of the
buffer; otherwise it ends the loop or goes on at another offset.  When no step fails and
each one that goes on leaves some bytes behind it, the loop ends.
-/

namespace FastSocket.Transition

universe u v

/-- How a step ends: with the loop's result, or at another offset. -/
inductive CursorStep (σ : Type u) (ρ : Type v) where
  | done (result : ρ)
  | next (offset : Nat) (state : σ)
deriving DecidableEq, Repr

variable {σ : Type u} {ρ : Type v}

/-- Runs a loop for at most the given number of steps; `none` means that these are not
enough or that a step fails. -/
def runCursor (step : Nat → σ → Option (CursorStep σ ρ)) : (rounds : Nat) → Nat → σ → Option ρ
  | 0, _, _ => none
  | rounds + 1, offset, state =>
    match step offset state with
    | none => none
    | some (.done result) => some result
    | some (.next offset state) => runCursor step rounds offset state

/-- No step fails, and one that goes on has read at least `width` bytes of a buffer of the
given length and leaves them behind it. -/
def CursorAdvances (width length : Nat) (step : Nat → σ → Option (CursorStep σ ρ)) : Prop :=
  ∀ offset state, ∃ ended, step offset state = some ended ∧
    ∀ offset' state', ended = .next offset' state' →
      offset + width ≤ length ∧ offset + width ≤ offset'

section Advances

variable {width length : Nat} {step : Nat → σ → Option (CursorStep σ ρ)}

theorem CursorAdvances.isSome_runCursor_from (advances : CursorAdvances width length step)
    {rounds offset : Nat} (state : σ) (enough : length < offset + (rounds + 1) * width) :
    (runCursor step (rounds + 1) offset state).isSome := by
  induction rounds generalizing offset state with
  | zero =>
    obtain ⟨ended, taken, forward⟩ := advances offset state
    rw [runCursor, taken]
    cases ended with
    | done result => rfl
    | next offset' state' =>
      have inside := (forward offset' state' rfl).1
      omega
  | succ rounds ih =>
    obtain ⟨ended, taken, forward⟩ := advances offset state
    rw [runCursor, taken]
    cases ended with
    | done result => rfl
    | next offset' state' =>
      have behind := (forward offset' state' rfl).2
      apply ih
      rw [Nat.succ_mul (rounds + 1)] at enough
      omega

/-- As many steps as the buffer has room for `width` bytes, and one more, are enough. -/
theorem CursorAdvances.isSome_runCursor (advances : CursorAdvances width length step)
    (some : 0 < width) (state : σ) :
    (runCursor step (length / width + 1) 0 state).isSome := by
  apply advances.isSome_runCursor_from state
  rw [Nat.zero_add, Nat.mul_comm]
  exact Nat.lt_mul_div_succ length some

end Advances

end FastSocket.Transition
