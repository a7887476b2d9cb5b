import FastSocket.Transition.Run

/-!
# Waiting for lent buffers at shutdown

The actor ends by waiting until every lent buffer is back.  The waiter loads the
number of outstanding buffers, creates a `notified()` future and parks on it;
each lease is released by a decrement and, when the decrement reaches zero, a
call of `notify_waiters`.  That call completes the futures that exist and stores
no permit, so a call between the load and the creation of the future is lost.
-/

namespace FastSocket.Async

open Transition

/-- Where the waiter of `wait_for_buffers` is. -/
inductive Waiter where
  /-- About to load the number of outstanding buffers. -/
  | checking
  /-- The load returned a number other than zero; the future does not exist yet. -/
  | loaded
  /-- The future exists and has not been polled. -/
  | created
  /-- The future exists and was polled; the task sleeps until it is woken. -/
  | parked
  /-- A `notify_waiters` call has completed the future. -/
  | notified
  /-- `wait_for_buffers` has returned. -/
  | returned
deriving DecidableEq, Repr

/-- Where the release of a lease is. -/
inductive Lease where
  | held
  /-- The decrement reached zero and `notify_waiters` is still to be called. -/
  | notifying
  | released
deriving DecidableEq, Repr

structure ActorState where
  outstandingBuffers : Nat
  waiter : Waiter
  leases : List Lease
deriving DecidableEq, Repr

namespace ActorState

/-- The actor enters `wait_for_buffers` while `count` buffers are lent. -/
def start (count : Nat) : ActorState :=
  { outstandingBuffers := count, waiter := .checking, leases := List.replicate count .held }

end ActorState

/-- An atomic step of the waiter or of the thread that releases one lease. -/
inductive ShutdownStep where
  | load
  | createNotified
  | poll
  | fetchSub (lease : Nat)
  | notifyWaiters (lease : Nat)
deriving DecidableEq, Repr

/-- The effect of `notify_waiters` on the waiter: only an existing future is
completed. -/
def Waiter.notifyWaiters : Waiter → Waiter
  | .created => .notified
  | .parked => .notified
  | other => other

/-- The shutdown wait of the actor against the releases of the leases. -/
def shutdownStep : Step ActorState ShutdownStep
  | state, .load =>
    if state.waiter = .checking then
      some { state with waiter := if state.outstandingBuffers = 0 then .returned else .loaded }
    else
      none
  | state, .createNotified =>
    if state.waiter = .loaded then some { state with waiter := .created } else none
  | state, .poll =>
    match state.waiter with
    | .created => some { state with waiter := .parked }
    | .notified => some { state with waiter := .checking }
    | _ => none
  | state, .fetchSub lease =>
    if state.leases[lease]? = some .held then
      some { state with
        outstandingBuffers := state.outstandingBuffers - 1
        leases := state.leases.set lease
          (if state.outstandingBuffers = 1 then .notifying else .released) }
    else
      none
  | state, .notifyWaiters lease =>
    if state.leases[lease]? = some .notifying then
      some { state with
        waiter := state.waiter.notifyWaiters
        leases := state.leases.set lease .released }
    else
      none

/-- The waiter sleeps, no buffer is outstanding and no release step is left to
wake it. -/
def WakeupLost (state : ActorState) : Prop :=
  state.waiter = .parked ∧ state.outstandingBuffers = 0 ∧
    ∀ lease ∈ state.leases, lease = .released

instance (state : ActorState) : Decidable (WakeupLost state) :=
  inferInstanceAs (Decidable (_ ∧ _))

/-- No `notify_waiters` call between the load of the waiter and the creation of
its future. -/
def NotifyHeard (state : ActorState) (step : ShutdownStep) : Prop :=
  ∀ lease, step = .notifyWaiters lease → state.waiter ≠ .loaded

instance (state : ActorState) : (step : ShutdownStep) → Decidable (NotifyHeard state step)
  | .notifyWaiters lease =>
    decidable_of_iff (state.waiter ≠ .loaded) (by simp [NotifyHeard])
  | .load => isTrue (by simp [NotifyHeard])
  | .createNotified => isTrue (by simp [NotifyHeard])
  | .poll => isTrue (by simp [NotifyHeard])
  | .fetchSub lease => isTrue (by simp [NotifyHeard])

/-- While the waiter counts on a wake-up, a buffer is outstanding or the last
release has its notification still to come. -/
def WakeupComing (state : ActorState) : Prop :=
  state.waiter ∈ [.loaded, .created, .parked] →
    0 < state.outstandingBuffers ∨ .notifying ∈ state.leases

theorem wakeupComing_start (count : Nat) : WakeupComing (ActorState.start count) := by
  intro waiting
  simp [ActorState.start] at waiting

theorem WakeupComing.fetchSub {state : ActorState} (coming : WakeupComing state) {lease : Nat}
    (held : state.leases[lease]? = some .held) :
    WakeupComing { state with
      outstandingBuffers := state.outstandingBuffers - 1
      leases := state.leases.set lease
        (if state.outstandingBuffers = 1 then .notifying else .released) } := by
  intro waiting
  have inside := (List.getElem?_eq_some_iff.mp held).1
  rcases coming waiting with outstanding | notifying
  · by_cases last : state.outstandingBuffers = 1
    · right
      simp only [last, if_true]
      exact List.mem_set inside _
    · left
      change 0 < state.outstandingBuffers - 1
      omega
  · right
    obtain ⟨other, isOther⟩ := List.mem_iff_getElem?.mp notifying
    have differs : lease ≠ other := by
      rintro rfl
      rw [held] at isOther
      cases isOther
    apply List.mem_iff_getElem?.mpr
    exact ⟨other, by rwa [List.getElem?_set_ne differs]⟩

/-- A step that is heard keeps the wake-up coming. -/
theorem WakeupComing.step {source target : ActorState} {step : ShutdownStep}
    (coming : WakeupComing source) (heard : NotifyHeard source step)
    (taken : shutdownStep source step = some target) : WakeupComing target := by
  cases step with
  | load =>
    simp only [shutdownStep] at taken
    split at taken
    · cases taken
      intro waiting
      left
      by_cases none : source.outstandingBuffers = 0
      · simp [none] at waiting
      · exact Nat.pos_of_ne_zero none
    · cases taken
  | createNotified =>
    simp only [shutdownStep] at taken
    split at taken
    case isTrue isLoaded =>
      cases taken
      exact fun _ => coming (by simp [isLoaded])
    case isFalse => cases taken
  | poll =>
    simp only [shutdownStep] at taken
    split at taken
    case h_1 isCreated =>
      cases taken
      exact fun _ => coming (by simp [isCreated])
    case h_2 isNotified =>
      cases taken
      intro waiting
      simp at waiting
    case h_3 => cases taken
  | fetchSub lease =>
    simp only [shutdownStep] at taken
    split at taken
    case isTrue held =>
      cases taken
      exact coming.fetchSub held
    case isFalse => cases taken
  | notifyWaiters lease =>
    have notLoaded := heard lease rfl
    simp only [shutdownStep] at taken
    split at taken
    · cases taken
      intro waiting
      cases waiterEq : source.waiter <;> simp [waiterEq, Waiter.notifyWaiters] at waiting notLoaded
    · cases taken

/-- In every run in which each `notify_waiters` call is heard, no wake-up is lost
in any state that is reached. -/
theorem not_wakeupLost_of_heard (count : Nat) (steps : List ShutdownStep) (state : ActorState)
    (reached : run shutdownStep (ActorState.start count) steps = some state)
    (heard : StepsMeet shutdownStep NotifyHeard (ActorState.start count) steps) :
    ¬ WakeupLost state := by
  have coming : WakeupComing state :=
    run_invariant (fun _ _ _ => WakeupComing.step) (wakeupComing_start count) reached heard
  rintro ⟨parked, none, released⟩
  rcases coming (by simp [parked]) with outstanding | notifying
  · omega
  · cases released _ notifying

/-- Two leases are released while the waiter is parked. -/
def sampleSteps : List ShutdownStep :=
  [.load, .createNotified, .fetchSub 0, .poll, .fetchSub 1, .notifyWaiters 1]

theorem not_wakeupLost_sample :
    ∃ state, run shutdownStep (ActorState.start 2) sampleSteps = some state ∧
      ¬ WakeupLost state :=
  ⟨_, rfl, not_wakeupLost_of_heard 2 sampleSteps _ rfl (by decide)⟩

/-- The last lease is released and its notification sent between the load and the
creation of the future: the waiter parks for good. -/
theorem wakeupLost_between_load_and_notified :
    ∃ state, run shutdownStep (ActorState.start 1)
        [.load, .fetchSub 0, .notifyWaiters 0, .createNotified, .poll] = some state ∧
      WakeupLost state :=
  ⟨_, rfl, by decide⟩

end FastSocket.Async
