import FastSocket.Async.System

/-!
# The moves of the actor task

Everything that a step of the actor task can do, apart from drops.  The invariants of
the system are derived from this list.
-/

namespace FastSocket.Async

open Packet

universe u

variable {β : Type u}

namespace ActorSystem

/-- The moves of the actor task, each with what it finds. -/
inductive TaskMove (system : ActorSystem β) : ActorSystem β → Prop where
  | localMove {actor : Actor β} (moved : system.actor.LocalMove actor) :
      TaskMove system { system with actor := actor }
  | take {command : ActorCommand β} {rest : List (ActorCommand β)} {actor : Actor β}
      (isCommands : system.commands = command :: rest)
      (moved : system.actor.LocalMove actor) (quiet : actor.phase.Quiet) :
      TaskMove system { system with
        commands := rest
        commandsClosed := system.commandsClosed || command.isShutdown
        actor := actor.handleCommand command }
  | wrap {reply : Nat} {buffer : β} {left wrapped : List β}
      (isPhase : system.actor.phase = .wrapping reply (buffer :: left) wrapped) :
      TaskMove system { system with
        outstandingBuffers := system.outstandingBuffers + 1
        actor := { system.actor with phase := .wrapping reply left (wrapped ++ [buffer]) } }
  | wrapped {reply : Nat} {wrapped : List β}
      (isPhase : system.actor.phase = .wrapping reply [] wrapped) :
      TaskMove system { system with
        actor := { system.actor with phase := .replying reply (.ok wrapped) } }
  | reply {reply : Nat} {result : Except Error (List β)}
      (isPhase : system.actor.phase = .replying reply result) :
      TaskMove system { system with
        replies := (reply, result) ::ₘ system.replies
        actor := { system.actor with phase := .polling } }
  | dropReply {reply : Nat} {result : Except Error (List β)}
      (isPhase : system.actor.phase = .replying reply result) :
      TaskMove system { system with
        actor := { system.actor with phase := .polling, drops := system.actor.phase.wrapped } }
  | unwrap {transmit : UdpTransmit β} {left : List (UdpTransmit β)}
      (isPhase : system.actor.phase = .unwrapping (transmit :: left)) :
      TaskMove system { system with
        outstandingBuffers := system.outstandingBuffers - 1
        actor := { system.actor with
          phase := .unwrapping left
          pendingTx := system.actor.pendingTx ++ [.ready transmit] } }
  | unwrapped (isPhase : system.actor.phase = .unwrapping []) :
      TaskMove system { system with actor := { system.actor with phase := .polling } }
  | wrapRx {wrapped : List β} {packet : β} {rest : List β}
      (isPhase : system.actor.phase = .wrappingRx wrapped) :
      TaskMove system { system with
        outstandingBuffers := system.outstandingBuffers + 1
        actor := { system.actor with
          phase := .wrappingRx (wrapped ++ [packet])
          recvBatch := rest } }
  | wrappedRx {wrapped : List β} (isPhase : system.actor.phase = .wrappingRx wrapped) :
      TaskMove system { system with
        actor := { system.actor with phase := .delivering wrapped } }
  | deliver {batch : List β} (isPhase : system.actor.phase = .delivering batch) :
      TaskMove system { system with
        batches := system.batches ++ [batch]
        actor := { system.actor with phase := .deciding } }
  | dropBatch {batch : List β} (isPhase : system.actor.phase = .delivering batch) :
      TaskMove system { system with
        actor := { system.actor with
          phase := .deciding
          rxOpen := false
          drops := system.actor.phase.wrapped } }
  | close {result : Except AsyncUdpError Unit} (isPhase : system.actor.phase = .closing result) :
      TaskMove system { system with
        commandsClosed := true
        actor := { system.actor with phase := .discarding result } }
  | discard {result : Except AsyncUdpError Unit} {command : ActorCommand β}
      {rest : List (ActorCommand β)} (isPhase : system.actor.phase = .discarding result)
      (isCommands : system.commands = command :: rest) :
      TaskMove system { system with
        commands := rest
        actor := { system.actor with drops := command.wrapped } }
  | discarded {result : Except AsyncUdpError Unit}
      (isPhase : system.actor.phase = .discarding result) :
      TaskMove system { system with
        waiter := .checking
        actor := { system.actor with phase := .releasing result } }
  | wait {result : Except AsyncUdpError Unit} {waiter : Waiter}
      (isPhase : system.actor.phase = .releasing result) :
      TaskMove system { system with waiter := waiter }
  | returned {result : Except AsyncUdpError Unit}
      (isPhase : system.actor.phase = .releasing result)
      (released : system.outstandingBuffers = 0) :
      TaskMove system { system with
        waiter := .returned
        actor := { system.actor with phase := .returned result } }

variable {system target : ActorSystem β}

/-- Taking a command is a local move followed by the beginning of its handling. -/
theorem taskMove_receiveCommand {actor : Actor β} (moved : system.actor.LocalMove actor)
    (quiet : actor.phase.Quiet) (received : system.receiveCommand actor = some target) :
    TaskMove system target := by
  rw [receiveCommand] at received
  split at received
  · cases received
  · cases received
    exact .take ‹_› moved quiet

theorem taskMove_of_taskStep {action : ActorAction β}
    (stepped : system.taskStep action = some target) : TaskMove system target := by
  revert stepped
  fun_cases taskStep system action
  all_goals intro stepped
  case case34 =>
    obtain ⟨actor, moved, rfl⟩ := Option.map_eq_some_iff.mp stepped
    exact .localMove (Actor.localMove_step moved)
  all_goals rename system.actor.phase = _ => isPhase
  case case1 =>
    have quiet : system.actor.phase.Quiet := isPhase ▸ ⟨rfl, rfl, rfl⟩
    refine taskMove_receiveCommand (Actor.localMove_continue quiet ?_ ?_ ?_ ?_) ?_ stepped
    · exact quiet
    · rfl
    · rfl
    · rfl
    · exact quiet
  case case17 =>
    have quiet : system.actor.phase.Quiet := isPhase ▸ ⟨rfl, rfl, rfl⟩
    have moved : system.actor.LocalMove system.actor.nextRound :=
      Actor.localMove_continue quiet ⟨rfl, rfl, rfl⟩ rfl rfl rfl
    exact taskMove_receiveCommand moved ⟨rfl, rfl, rfl⟩ stepped
  all_goals cases stepped
  case case6 => exact .wrapped isPhase
  case case7 => exact .wrap isPhase
  case case8 => exact .reply isPhase
  case case9 => exact .dropReply isPhase
  case case10 => exact .unwrapped isPhase
  case case11 => exact .unwrap isPhase
  case case12 => exact .wrappedRx isPhase
  case case13 => exact .wrapRx isPhase
  case case14 => exact .deliver isPhase
  case case16 => exact .dropBatch isPhase
  case case21 => exact .close isPhase
  case case23 => exact .discard isPhase ‹_›
  case case24 => exact .discarded isPhase
  case case26 => exact .returned isPhase ‹_›
  case case27 => exact .wait isPhase
  case case29 => exact .wait isPhase
  case case31 => exact .wait isPhase
  case case32 => exact .wait isPhase
  -- The loop that takes commands ends, or the queue reports its end.
  all_goals
    have quiet : system.actor.phase.Quiet := isPhase ▸ ⟨rfl, rfl, rfl⟩
    exact .localMove (Actor.localMove_continue quiet ⟨rfl, rfl, rfl⟩ rfl rfl rfl)

end ActorSystem

end FastSocket.Async
