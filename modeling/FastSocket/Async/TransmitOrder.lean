import FastSocket.Async.Moves

/-!
# The order of transmission

The packets of the send commands pass through the pending slots of the actor and are
offered to the socket from the front.  At all times the accepted packets followed by the
pending ones are the packets of the handled commands, in order; `run_actor_inner`
succeeds only when nothing is pending.
-/

namespace FastSocket.Async

open Packet Transition

universe u

variable {β : Type u}

namespace Actor

/-- The packets of the commands that were handled. -/
def requested (actor : Actor β) : List (UdpTransmit β) :=
  actor.handled.flatMap ActorCommand.transmits

/-- The order of the packets, while `run_actor_inner` runs and after it has returned. -/
def Ordered (actor : Actor β) : Prop :=
  match actor.phase.result? with
  | none => actor.requested = actor.queued ++ actor.phase.unqueued
  | some (.ok _) => actor.accepted = actor.requested
  | some (.error _) => actor.accepted <+: actor.requested

variable {actor target : Actor β}

theorem Ordered.running (ordered : actor.Ordered) (running : actor.phase.result? = none) :
    actor.requested = actor.queued ++ actor.phase.unqueued := by
  rw [Ordered, running] at ordered
  exact ordered

theorem ordered_of_running (running : actor.phase.result? = none)
    (packets : actor.requested = actor.queued ++ actor.phase.unqueued) : actor.Ordered := by
  rw [Ordered, running]
  exact packets

theorem Ordered.accepted_prefix (ordered : actor.Ordered) :
    actor.accepted <+: actor.requested := by
  rw [Ordered] at ordered
  split at ordered
  · rw [ordered, queued, List.append_assoc]
    exact List.prefix_append _ _
  · rw [ordered]
  · exact ordered

theorem Ordered.accepted_eq (ordered : actor.Ordered)
    (succeeded : actor.phase.result? = some (.ok ())) : actor.accepted = actor.requested := by
  rw [Ordered, succeeded] at ordered
  exact ordered

theorem Ordered.localMove (ordered : actor.Ordered) (moved : actor.LocalMove target) :
    target.Ordered := by
  obtain ⟨⟨_, unqueued, running⟩, _, handled, outcome⟩ := moved
  have requested : target.requested = actor.queued := by
    rw [Actor.requested, handled]
    have packets := ordered.running running
    rwa [unqueued, List.append_nil] at packets
  rcases outcome with ⟨quiet, queued⟩ | ⟨result, isPhase, _, _, accepted, complete⟩
  · apply ordered_of_running quiet.2.2
    rw [quiet.2.1, List.append_nil, queued, requested]
  · rw [Ordered, isPhase]
    cases result with
    | ok _ =>
      change target.accepted = target.requested
      rw [complete rfl, requested]
    | error _ =>
      change target.accepted <+: target.requested
      rwa [requested]

/-- Handling a command adds its packets to those that are to be queued. -/
theorem Ordered.handleCommand (ordered : actor.Ordered) (running : actor.phase.result? = none)
    (unqueued : actor.phase.unqueued = []) (command : ActorCommand β) :
    (actor.handleCommand command).Ordered := by
  have packets := ordered.running running
  rw [unqueued, List.append_nil] at packets
  cases command <;>
    · apply ordered_of_running rfl
      change (actor.handled ++ [_]).flatMap _ = actor.queued ++ _
      rw [List.flatMap_append, List.flatMap_singleton]
      exact congrArg (· ++ _) packets

end Actor

namespace ActorSystem

variable {system target : ActorSystem β}

theorem ordered_taskMove (ordered : system.actor.Ordered) (moved : TaskMove system target) :
    target.actor.Ordered := by
  cases moved with
  | localMove moved => exact ordered.localMove moved
  | take _ moved quiet =>
    exact (ordered.localMove moved).handleCommand quiet.2.2 quiet.2.1 _
  | @unwrap transmit left isPhase =>
    have packets := ordered.running (isPhase ▸ rfl)
    rw [isPhase] at packets
    apply Actor.ordered_of_running rfl
    change system.actor.requested =
      system.actor.accepted ++ readyItems (system.actor.pendingTx ++ [.ready transmit]) ++ left
    rw [packets, readyItems, List.filterMap_append, ← List.append_assoc,
      List.append_assoc _ _ left]
    rfl
  | discard isPhase _ => exact ordered
  | wait isPhase => exact ordered
  | _ isPhase =>
    rw [Actor.Ordered, isPhase] at ordered
    exact ordered

variable [DecidableEq β]

theorem ordered_actorStep (ordered : system.actor.Ordered) {action : ActorAction β}
    (stepped : system.actorStep action = some target) : target.actor.Ordered := by
  rw [actorStep.eq_def] at stepped
  split at stepped
  · obtain ⟨_, ⟨⟩⟩ := Option.ite_none_right_eq_some.mp stepped
    exact ordered
  · obtain ⟨_, moved⟩ := Option.ite_none_right_eq_some.mp stepped
    exact ordered_taskMove ordered (taskMove_of_taskStep moved)

theorem ordered_step (ordered : system.actor.Ordered) {action : SystemAction β}
    (stepped : system.step action = some target) : target.actor.Ordered := by
  cases action with
  | actor action => exact ordered_actorStep ordered stepped
  | client action => exact (actor_clientStep stepped).1 ▸ ordered

/-- Two buffers are sent, and the socket accepts them one by one. -/
def sampleSend : List (SystemAction Nat) :=
  let info := ActorTxMeta.new (.v4 ⟨0, 9⟩)
  [.client (.allocTxBatch 2), .client (.reserve (.allocate 2 0)), .client (.push (.allocate 2 0)),
    .actor .takeCommand, .actor (.allocateTxBatch [7, 8] (.ok 2)), .actor .wrapNext,
    .actor .wrapNext, .actor .wrapNext, .actor .reply, .client (.takeReply 0 (.ok [7, 8])),
    .client (.sendTxBuffers [7, 8] info), .client (.reserve (.sendBuffers [7, 8] info)),
    .client (.push (.sendBuffers [7, 8] info)), .client .shutdown, .client (.reserve .shutdown),
    .client (.push .shutdown), .actor .takeCommand, .actor .unwrapNext, .actor .unwrapNext,
    .actor .unwrapNext, .actor .takeCommand, .actor .stopPolling, .actor (.send 2 (.ok 1)),
    .actor (.send 1 (.ok 0)), .actor (.notifyTx (.ok ())), .actor (.drainTxCompletions (.ok 1)),
    .actor (.send 1 (.ok 1)), .actor .stopFlushing, .actor (.notifyTx (.ok ())),
    .actor .skipRecv, .actor .decide]

end ActorSystem

end FastSocket.Async
