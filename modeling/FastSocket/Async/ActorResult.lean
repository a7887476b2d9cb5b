import FastSocket.Async.Moves

/-!
# The result of the actor task

What `run_actor_inner` has returned stays its result.  Calls that succeed do not make it
return an error, and a receive call does so unless there was nothing to receive.
-/

namespace FastSocket.Async

open Packet

universe u

/-- The calls of the actor other than receive calls succeed. -/
def ActorAction.Succeeds {β : Type u} : ActorAction β → Bool
  | .send _ (.error _) => false
  | .notifyTx (.error _) => false
  | .drainTxCompletions (.error _) => false
  | .readable (.error _) => false
  | .recv _ _ => false
  | _ => true

def SystemAction.Succeeds {β : Type u} : SystemAction β → Bool
  | .actor action => action.Succeeds
  | .client _ => true

namespace ActorSystem

section Result

variable {β : Type u} {system target : ActorSystem β} {result : Except AsyncUdpError Unit}

/-- The result of the actor stays. -/
theorem result?_of_taskMove (ended : system.actor.phase.result? = some result)
    (moved : TaskMove system target) : target.actor.phase.result? = some result := by
  cases moved with
  | localMove moved => cases moved.quiet.2.2.symm.trans ended
  | take _ moved _ => cases moved.quiet.2.2.symm.trans ended
  | close isPhase =>
    rw [isPhase] at ended
    exact ended
  | discard => exact ended
  | discarded isPhase =>
    rw [isPhase] at ended
    exact ended
  | wait => exact ended
  | returned isPhase =>
    rw [isPhase] at ended
    exact ended
  | _ isPhase =>
    rw [isPhase] at ended
    cases ended

/-- The phase in which an action leaves the actor is not one of an error. -/
def Unharmed (phase : Phase β) : Prop :=
  ∀ error, phase.result? ≠ some (.error error)

theorem unharmed_of_none {phase : Phase β} (running : phase.result? = none) : Unharmed phase :=
  fun _ failed => nomatch running.symm.trans failed

theorem Actor.unharmed_endRound (actor : Actor β) : Unharmed actor.endRound.phase := by
  rw [Actor.endRound]
  split
  · exact nofun
  · split
    · exact unharmed_of_none rfl
    · exact unharmed_of_none rfl

theorem Actor.unharmed_send (actor : Actor β) (second sent : Bool) (accepted : Nat) :
    Unharmed (actor.send second sent (.ok accepted)).phase := by
  cases accepted with
  | zero => exact unharmed_of_none rfl
  | succ accepted => exact unharmed_of_none rfl

theorem Actor.unharmed_notifyTx (actor : Actor β) (second sent : Bool) :
    Unharmed (actor.notifyTx second sent (.ok ())).phase := by
  apply unharmed_of_none
  cases sent <;> cases second <;> rfl

variable {actor : Actor β} {action : ActorAction β}

theorem Actor.unharmed_step {next : Actor β} {config : ActorConfig} (succeeds : action.Succeeds)
    (stepped : actor.step config action = some next) : Unharmed next.phase := by
  revert succeeds stepped
  fun_cases Actor.step actor config action
  all_goals rintro succeeds ⟨⟩
  case case3 front result _ _ _ _ =>
    cases result with
    | ok accepted => exact unharmed_send actor _ _ accepted
    | error error => cases succeeds
  case case7 result _ _ _ =>
    cases result with
    | ok => exact unharmed_notifyTx actor _ _
    | error error => cases succeeds
  case case8 result _ =>
    cases result with
    | ok drained => exact unharmed_of_none rfl
    | error error => cases succeeds
  case case13 => exact unharmed_endRound actor
  all_goals first
    | exact unharmed_of_none rfl
    | cases succeeds

theorem unharmed_receiveCommand (received : system.receiveCommand actor = some target) :
    Unharmed target.actor.phase := by
  rw [receiveCommand] at received
  split at received
  · cases received
  case h_2 command _ _ =>
    cases received
    cases command <;> exact unharmed_of_none rfl

/-- A step whose calls succeed does not make `run_actor_inner` return an error. -/
theorem unharmed_taskStep (running : Unharmed system.actor.phase) (succeeds : action.Succeeds)
    (stepped : system.taskStep action = some target) : Unharmed target.actor.phase := by
  revert succeeds stepped
  fun_cases taskStep system action
  all_goals intro succeeds stepped
  case case34 =>
    obtain ⟨actor, moved, rfl⟩ := Option.map_eq_some_iff.mp stepped
    exact Actor.unharmed_step succeeds moved
  all_goals rename system.actor.phase = _ => isPhase
  case case1 => exact unharmed_receiveCommand stepped
  case case17 => exact unharmed_receiveCommand stepped
  all_goals cases stepped
  all_goals first
    | exact unharmed_of_none rfl
    | exact running
    | rw [isPhase] at running; exact running

theorem unharmed_actorStep [DecidableEq β] (running : Unharmed system.actor.phase)
    (succeeds : action.Succeeds) (stepped : system.actorStep action = some target) :
    Unharmed target.actor.phase := by
  revert stepped
  fun_cases actorStep system action
  all_goals intro stepped
  case case1 =>
    cases stepped
    exact running
  case case3 => exact unharmed_taskStep running succeeds stepped
  all_goals cases stepped

theorem result?_of_actorStep [DecidableEq β] (ended : system.actor.phase.result? = some result)
    (stepped : system.actorStep action = some target) :
    target.actor.phase.result? = some result := by
  revert stepped
  fun_cases actorStep system action
  all_goals intro stepped
  case case1 =>
    cases stepped
    exact ended
  case case3 => exact result?_of_taskMove ended (taskMove_of_taskStep stepped)
  all_goals cases stepped

theorem result?_of_step [DecidableEq β] {action : SystemAction β}
    (ended : system.actor.phase.result? = some result)
    (stepped : system.step action = some target) :
    target.actor.phase.result? = some result := by
  cases action with
  | actor action => exact result?_of_actorStep ended stepped
  | client action =>
    rw [(actor_clientStep stepped).1]
    exact ended

theorem unharmed_step [DecidableEq β] {action : SystemAction β}
    (running : Unharmed system.actor.phase) (succeeds : action.Succeeds)
    (stepped : system.step action = some target) : Unharmed target.actor.phase := by
  cases action with
  | actor action => exact unharmed_actorStep running succeeds stepped
  | client action =>
    rw [(actor_clientStep stepped).1]
    exact running

/-- A receive call makes `run_actor_inner` return an error unless its result is a count or
there is nothing to receive. -/
theorem Actor.unharmed_recv_iff (actor : Actor β) (packets : List β) (result : Except Error Nat) :
    Unharmed (actor.recv packets result).phase ↔
      (∃ count, result = .ok count) ∨ result = .error .wouldBlock := by
  fun_cases Actor.recv actor packets result
  · exact iff_of_true (unharmed_of_none rfl) (.inl ⟨0, rfl⟩)
  case case2 count _ => exact iff_of_true (unharmed_of_none rfl) (.inl ⟨count, rfl⟩)
  · exact iff_of_true (unharmed_of_none rfl) (.inr rfl)
  case case4 error _ other =>
    refine iff_of_false (fun running => running _ rfl) ?_
    rintro (⟨_, ⟨⟩⟩ | ⟨⟨⟩⟩)
    exact other rfl

theorem actor_recv [DecidableEq β] {packets : List β} {result : Except Error Nat}
    (stepped : system.step (.actor (.recv packets result)) = some target) :
    target.actor = system.actor.recv packets result := by
  obtain ⟨_, taken⟩ := Option.ite_none_right_eq_some.mp stepped
  have isLocal : system.taskStep (.recv packets result) =
      (system.actor.step system.config (.recv packets result)).map
        fun actor => { system with actor := actor } := by
    rw [taskStep]
    all_goals nofun
  rw [isLocal] at taken
  obtain ⟨actor, moved, rfl⟩ := Option.map_eq_some_iff.mp taken
  unfold Actor.step at moved
  cases isPhase : system.actor.phase with
  | receiving =>
    simp only [isPhase, Option.ite_none_right_eq_some] at moved
    exact (Option.some.inj moved.2).symm
  | _ =>
    simp only [isPhase] at moved
    cases moved

end Result

end ActorSystem

end FastSocket.Async
