import FastSocket.Async.Moves

/-!
# The transmit backlog of the actor

The packets of a send command are queued until the socket accepts them.  The loop that
takes commands stops at the configured number of pending packets, but an actor that has
found nothing to do takes one more command while it waits.  Behind a socket that accepts
nothing, each round can then add a command to a backlog that is already full.
-/

namespace FastSocket.Async

open Packet Transition

universe u

variable {β : Type u} {config : ActorConfig} {action : ActorAction β}

namespace Actor

/-- The pending packets, with those of the current command that are still to be queued. -/
def backlog (actor : Actor β) : Nat :=
  actor.pendingTx.length + actor.phase.unqueued.length

variable {actor target : Actor β}

theorem length_pendingTx_le_backlog (actor : Actor β) : actor.pendingTx.length ≤ actor.backlog :=
  Nat.le_add_right _ _

theorem backlog_of_unqueued (unqueued : actor.phase.unqueued = []) :
    actor.backlog = actor.pendingTx.length := by
  rw [backlog, unqueued, List.length_nil, Nat.add_zero]

/-- A command adds its packets. -/
theorem backlog_handleCommand (actor : Actor β) (command : ActorCommand β) :
    (actor.handleCommand command).backlog =
      actor.pendingTx.length + command.transmits.length := by
  cases command <;> rfl

theorem LocalMove.unqueued_eq_nil (moved : actor.LocalMove target) :
    target.phase.unqueued = [] := by
  rcases moved.outcome with continues | ⟨result, ends⟩
  · exact continues.quiet.2.1
  · rw [ends.phase]
    rfl

theorem length_pendingTx_send (actor : Actor β) (second sent : Bool)
    (result : Except SendError Nat) :
    (actor.send second sent result).pendingTx.length ≤ actor.pendingTx.length := by
  have dropped (count : Nat) : (actor.pendingTx.drop count).length ≤ actor.pendingTx.length := by
    rw [List.length_drop]
    exact Nat.sub_le _ _
  fun_cases send actor second sent result
  · exact dropped _
  · exact dropped _
  · exact Nat.zero_le _

/-- A local step adds nothing to the pending packets. -/
theorem length_pendingTx_step (stepped : actor.step config action = some target) :
    target.pendingTx.length ≤ actor.pendingTx.length := by
  revert stepped
  fun_cases step actor config action
  all_goals rintro ⟨⟩
  case case3 => exact length_pendingTx_send actor _ _ _
  case case7 =>
    fun_cases notifyTx
    · exact Nat.zero_le _
    · exact le_rfl
  case case8 =>
    fun_cases drainTxCompletions
    · exact le_rfl
    · exact Nat.zero_le _
  case case9 =>
    fun_cases recv
    · exact le_rfl
    · exact le_rfl
    · exact le_rfl
    · exact Nat.zero_le _
  case case13 =>
    fun_cases endRound
    · exact Nat.zero_le _
    · exact le_rfl
    · exact le_rfl
  case case15 => exact Nat.zero_le _
  all_goals exact le_rfl

theorem backlog_step (stepped : actor.step config action = some target) :
    target.backlog ≤ actor.backlog := by
  rw [backlog_of_unqueued (localMove_step stepped).unqueued_eq_nil]
  exact (length_pendingTx_step stepped).trans actor.length_pendingTx_le_backlog

end Actor

namespace ActorSystem

variable {system target : ActorSystem β}

/-- Only a command that is taken adds to the backlog. -/
theorem backlog_taskStep (other : action ≠ .takeCommand)
    (stepped : system.taskStep action = some target) :
    target.actor.backlog ≤ system.actor.backlog := by
  revert stepped
  fun_cases taskStep system action
  all_goals intro stepped
  case case34 =>
    obtain ⟨actor, moved, rfl⟩ := Option.map_eq_some_iff.mp stepped
    exact Actor.backlog_step moved
  case case1 => exact absurd rfl other
  case case17 => exact absurd rfl other
  all_goals rename system.actor.phase = _ => isPhase
  all_goals cases stepped
  case case11 =>
    rw [Actor.backlog, Actor.backlog, isPhase]
    simp only [Phase.unqueued, List.length_append, List.length_cons, List.length_nil]
    omega
  all_goals first
    | exact le_rfl
    | exact Nat.add_le_add_left (Nat.zero_le _) _

/-- The actor takes commands below its limit, and while it waits. -/
theorem takeCommand_taskStep (stepped : system.taskStep .takeCommand = some target) :
    (system.actor.pendingTx.length < system.config.pendingTxCapacity ∨
      system.actor.phase = .waiting) ∧
      ∃ command rest, system.commands = command :: rest ∧ target.commands = rest ∧
        target.actor.backlog = system.actor.pendingTx.length + command.transmits.length := by
  have taken : ∀ {actor : Actor β}, system.receiveCommand actor = some target →
      actor.pendingTx = system.actor.pendingTx →
        ∃ command rest, system.commands = command :: rest ∧ target.commands = rest ∧
          target.actor.backlog = system.actor.pendingTx.length + command.transmits.length := by
    intro actor received same
    rw [receiveCommand] at received
    split at received
    · cases received
    next command rest isCommands =>
      cases received
      refine ⟨command, rest, isCommands, rfl, ?_⟩
      rw [← same]
      exact actor.backlog_handleCommand command
  cases isPhase : system.actor.phase with
  | polling =>
    rw [taskStep.eq_def, isPhase] at stepped
    obtain ⟨takes, received⟩ := Option.ite_none_right_eq_some.mp stepped
    have room := of_decide_eq_true (Bool.and_eq_true_iff.mp takes).2
    exact ⟨.inl room, taken received rfl⟩
  | waiting =>
    rw [taskStep.eq_def, isPhase] at stepped
    obtain ⟨_, received⟩ := Option.ite_none_right_eq_some.mp stepped
    exact ⟨.inr rfl, taken received rfl⟩
  | _ =>
    rw [taskStep.eq_def, isPhase] at stepped
    cases stepped

theorem commands_taskStep (stepped : system.taskStep action = some target) :
    target.config = system.config ∧ target.commands ⊆ system.commands ∧
      target.sends = system.sends := by
  cases taskMove_of_taskStep stepped with
  | take isCommands moved quiet =>
    rw [isCommands]
    exact ⟨rfl, List.subset_cons_self _ _, rfl⟩
  | discard isPhase isCommands =>
    rw [isCommands]
    exact ⟨rfl, List.subset_cons_self _ _, rfl⟩
  | _ => exact ⟨rfl, List.Subset.refl _, rfl⟩

end ActorSystem

/-- How many packets the action submits. -/
def SystemAction.submitted : SystemAction β → Nat
  | .client (.sendTxBuffers buffers _) => buffers.length
  | .client (.sendTxPackets packets) => packets.length
  | _ => 0

namespace ActorSystem

variable [DecidableEq β] {system target : ActorSystem β}

/-- The commands that are on their way carry at most so many packets. -/
structure Carries (most : Nat) (system : ActorSystem β) : Prop where
  commands : ∀ command ∈ system.commands, command.transmits.length ≤ most
  sends : ∀ sending ∈ system.sends, sending.command.transmits.length ≤ most

variable {most : Nat}

theorem Carries.startSend (carries : system.Carries most) {command : ActorCommand β}
    (small : command.transmits.length ≤ most) (started : system.startSend command = some target) :
    target.config = system.config ∧ target.Carries most := by
  obtain ⟨_, ⟨⟩⟩ := Option.ite_none_right_eq_some.mp started
  refine ⟨rfl, carries.commands, ?_⟩
  intro sending mem
  rcases Multiset.mem_cons.mp mem with rfl | mem
  · exact small
  · exact carries.sends sending mem

theorem Carries.clientStep (carries : system.Carries most) {action : ClientAction β}
    (small : SystemAction.submitted (.client action) ≤ most)
    (stepped : system.clientStep action = some target) :
    target.config = system.config ∧ target.Carries most := by
  have erased (sending : Sending β) : ∀ other ∈ system.sends.erase sending,
      other.command.transmits.length ≤ most :=
    fun other mem => carries.sends other (Multiset.mem_of_mem_erase mem)
  revert stepped
  fun_cases ActorSystem.clientStep system action
  case case2 =>
    have later : ({ system with
        nextReply := system.nextReply + 1
        awaiting := system.nextReply :: system.awaiting } : ActorSystem β).Carries most :=
      ⟨carries.commands, carries.sends⟩
    exact fun started => later.startSend (Nat.zero_le _) started
  case case4 => exact carries.startSend ((List.length_map _).trans_le small)
  case case6 => exact carries.startSend small
  case case7 => exact carries.startSend (Nat.zero_le _)
  all_goals rintro ⟨⟩
  case case8 command enabled =>
    refine ⟨rfl, carries.commands, ?_⟩
    intro sending mem
    rcases Multiset.mem_cons.mp mem with rfl | mem
    · exact carries.sends ⟨command, false⟩ enabled.1
    · exact erased _ sending mem
  case case10 command enabled =>
    refine ⟨rfl, ?_, erased _⟩
    intro other mem
    rcases List.mem_append.mp mem with mem | mem
    · exact carries.commands other mem
    · rw [List.mem_singleton.mp mem]
      exact carries.sends _ enabled
  case case12 => exact ⟨rfl, carries.commands, erased _⟩
  case case14 => exact ⟨rfl, carries.commands, erased _⟩
  all_goals exact ⟨rfl, carries.commands, carries.sends⟩

/-- A command that is taken while the actor waits finds fewer pending packets than the
configured number, or it carries none. -/
def RoomWhenIdle (system : ActorSystem β) (action : SystemAction β) : Prop :=
  action = .actor .takeCommand → system.actor.phase = .waiting →
    system.actor.pendingTx.length < system.config.pendingTxCapacity ∨
      ∀ command ∈ system.commands.head?, command.transmits = []

instance (system : ActorSystem β) (action : SystemAction β) :
    Decidable (system.RoomWhenIdle action) :=
  inferInstanceAs (Decidable (_ → _ → _ ∨ _))

/-- The backlog with the commands that can add to it. -/
structure Bounded (config : ActorConfig) (most : Nat) (system : ActorSystem β) : Prop where
  configured : system.config = config
  carries : system.Carries most
  backlog : system.actor.backlog ≤ config.pendingTxCapacity - 1 + most

omit [DecidableEq β] in
theorem bounded_spawn (config : ActorConfig) (most : Nat) :
    (spawn config : ActorSystem β).Bounded config.normalize most :=
  ⟨rfl, ⟨List.forall_mem_nil _, fun _ mem => absurd mem (Multiset.notMem_zero _)⟩, Nat.zero_le _⟩

theorem Bounded.actorStep (bounded : system.Bounded config most)
    (room : system.RoomWhenIdle (.actor action)) (stepped : system.actorStep action = some target) :
    target.Bounded config most := by
  rw [actorStep.eq_def] at stepped
  split at stepped
  · obtain ⟨_, ⟨⟩⟩ := Option.ite_none_right_eq_some.mp stepped
    exact ⟨bounded.configured, ⟨bounded.carries.commands, bounded.carries.sends⟩, bounded.backlog⟩
  · obtain ⟨_, moved⟩ := Option.ite_none_right_eq_some.mp stepped
    obtain ⟨sameConfig, fewer, sameSends⟩ := commands_taskStep moved
    refine ⟨sameConfig.trans bounded.configured, ⟨?_, ?_⟩, ?_⟩
    · exact fun command mem => bounded.carries.commands command (fewer mem)
    · exact sameSends ▸ bounded.carries.sends
    by_cases take : action = .takeCommand
    · subst take
      obtain ⟨guard, command, rest, isCommands, _, backlog⟩ := takeCommand_taskStep moved
      have small := bounded.carries.commands command (isCommands ▸ List.mem_cons_self)
      have pending := system.actor.length_pendingTx_le_backlog.trans bounded.backlog
      have free : system.actor.pendingTx.length < config.pendingTxCapacity ∨
          command.transmits = [] := by
        rw [← bounded.configured]
        rcases guard with free | waiting
        · exact .inl free
        · refine (room rfl waiting).imp_right fun none => none command ?_
          rw [isCommands]
          rfl
      rw [backlog]
      rcases free with free | none
      · omega
      · rwa [none]
    · exact (backlog_taskStep take moved).trans bounded.backlog

theorem Bounded.step (bounded : system.Bounded config most) {action : SystemAction β}
    (small : action.submitted ≤ most) (room : system.RoomWhenIdle action)
    (stepped : system.step action = some target) : target.Bounded config most := by
  cases action with
  | actor action => exact bounded.actorStep room stepped
  | client action =>
    obtain ⟨sameConfig, carries⟩ := bounded.carries.clientStep small stepped
    refine ⟨sameConfig.trans bounded.configured, carries, ?_⟩
    rw [(actor_clientStep stepped).1]
    exact bounded.backlog

/-- When commands are taken in the idle wait only below the limit, the backlog is bounded
by the limit and the largest command, whatever the socket accepts and however the actor
is scheduled. -/
theorem pending_tx_bounded {config : ActorConfig} (positive : 1 ≤ config.pendingTxCapacity)
    {most : Nat} {actions : List (SystemAction β)} {system : ActorSystem β}
    (small : ∀ action ∈ actions, action.submitted ≤ most)
    (room : StepsMeet step RoomWhenIdle (spawn config) actions)
    (reached : run step (spawn config) actions = some system) :
    system.actor.pendingTx.length ≤ config.pendingTxCapacity - 1 + most := by
  have meets := StepsMeet.and (.of_forall fun action mem _ => small action mem) room
  have bounded : system.Bounded config.normalize most :=
    run_invariant (fun _ _ _ bounded allowed stepped => bounded.step allowed.1 allowed.2 stepped)
      (bounded_spawn config most) reached meets
  have same : config.normalize.pendingTxCapacity = config.pendingTxCapacity :=
    Nat.max_eq_left positive
  rw [← same]
  exact system.actor.length_pendingTx_le_backlog.trans bounded.backlog

/-- A round behind a socket that accepts nothing, with one packet pending. -/
def blockedRound : List (SystemAction Nat) :=
  [.actor .stopPolling, .actor (.send 1 (.ok 0)), .actor (.notifyTx (.ok ())),
    .actor (.drainTxCompletions (.ok 0)), .actor (.send 1 (.ok 0)), .actor (.notifyTx (.ok ())),
    .actor (.recv [] (.ok 0)), .actor .decide]

/-- A client sends one buffer. -/
def sendOne (buffer : Nat) : List (SystemAction Nat) :=
  let info := ActorTxMeta.new (.v4 ⟨0, 9⟩)
  [.client (.sendTxBuffers [buffer] info), .client (.reserve (.sendBuffers [buffer] info)),
    .client (.push (.sendBuffers [buffer] info))]

/-- The second of two packets is taken while the actor waits with the first. -/
def blockedSends : List (SystemAction Nat) :=
  [.client (.allocTxBatch 2), .client (.reserve (.allocate 2 0)), .client (.push (.allocate 2 0)),
    .actor .takeCommand, .actor (.allocateTxBatch [7, 8] (.ok 2)), .actor .wrapNext,
    .actor .wrapNext, .actor .wrapNext, .actor .reply, .client (.takeReply 0 (.ok [7, 8]))] ++
  sendOne 7 ++ [.actor .takeCommand, .actor .unwrapNext, .actor .unwrapNext] ++
  blockedRound ++ blockedRound ++
  sendOne 8 ++ [.actor .takeCommand, .actor .unwrapNext]

/-- With room for two packets the second one may be taken. -/
theorem pending_tx_bounded_two :
    ∃ system, run step (spawn ⟨64, 1024, 1024, 2⟩) blockedSends = some system ∧
      system.actor.pendingTx.length ≤ 2 - 1 + 1 := by
  have finishes : (run step (spawn ⟨64, 1024, 1024, 2⟩) blockedSends).isSome = true := by
    decide +kernel
  obtain ⟨system, reached⟩ := Option.isSome_iff_exists.mp finishes
  have small : ∀ action ∈ blockedSends, action.submitted ≤ 1 := by decide +kernel
  have room : StepsMeet step RoomWhenIdle (spawn ⟨64, 1024, 1024, 2⟩) blockedSends := by
    decide +kernel
  exact ⟨system, reached, pending_tx_bounded (by decide) small room reached⟩

/-- With room for one packet, commands of one packet leave two packets pending. -/
theorem pending_tx_exceeds :
    (∀ action ∈ blockedSends, action.submitted ≤ 1) ∧
      ∃ system, run step (spawn ⟨64, 1024, 1024, 1⟩) blockedSends = some system ∧
        ¬ system.actor.pendingTx.length ≤ 1 - 1 + 1 := by
  have small : ∀ action ∈ blockedSends, action.submitted ≤ 1 := by decide +kernel
  have exceeds : (run step (spawn ⟨64, 1024, 1024, 1⟩) blockedSends).map
      (fun system => system.actor.pendingTx.length) = some 2 := by
    decide +kernel
  obtain ⟨system, reached, pending⟩ := Option.map_eq_some_iff.mp exceeds
  refine ⟨small, system, reached, ?_⟩
  rw [pending]
  decide

end ActorSystem

end FastSocket.Async
