import FastSocket.Async.Moves

/-!
# Leases of a socket actor

The counter of an actor is the number of wrapped buffers, wherever they are.  Only the
actor takes leases, so when it has seen the counter at zero after its last command, no
wrapped buffer exists any more and none will.
-/

namespace FastSocket.Async

open Packet Transition

universe u

variable {β : Type u}

theorem card_bind_erase {α γ : Type*} [DecidableEq α] (f : α → Multiset γ) {items : Multiset α}
    {item : α} (member : item ∈ items) :
    ((items.erase item).bind f).card + (f item).card = (items.bind f).card := by
  conv_rhs => rw [← Multiset.cons_erase member, Multiset.cons_bind, Multiset.card_add]
  exact Nat.add_comm _ _

theorem Actor.card_wrapped_handleCommand (actor : Actor β) (command : ActorCommand β) :
    (actor.handleCommand command).phase.wrapped.card = command.wrapped.card ∧
      (actor.handleCommand command).drops = actor.drops := by
  cases command <;> simp [Actor.handleCommand, Phase.wrapped, ActorCommand.wrapped]

theorem wrapped_replying (reply : Nat) (result : Except Error (List β)) :
    (Phase.replying reply result).wrapped = replyWrapped (reply, result) := by
  cases result <;> rfl

/-- When `run_actor_inner` has returned, its variables are gone. -/
def Actor.Emptied (actor : Actor β) : Prop :=
  actor.phase.result?.isSome → actor.pendingTx = [] ∧ actor.recvBatch = []

theorem Actor.LocalMove.emptied {actor target : Actor β} (moved : actor.LocalMove target) :
    target.Emptied := by
  intro ended
  rcases moved.outcome with continues | ⟨result, ends⟩
  · rw [continues.quiet.2.2] at ended
    cases ended
  · exact ⟨ends.pendingTx, ends.recvBatch⟩

namespace ActorSystem

/-- The wrapped buffers, in all places. -/
def lent (system : ActorSystem β) : Multiset (Wrapped β) :=
  system.held + system.drops + system.sends.bind (fun sending => sending.command.wrapped) +
    (↑system.commands : Multiset (ActorCommand β)).bind ActorCommand.wrapped +
    system.replies.bind replyWrapped +
    (↑system.batches : Multiset (List β)).bind batchWrapped +
    system.actor.phase.wrapped + system.actor.drops

/-- The counter agrees with the wrapped buffers. -/
def Counted (system : ActorSystem β) : Prop :=
  system.outstandingBuffers = system.lent.card

/-- When `run_actor` has returned, no lease is left. -/
def Released (system : ActorSystem β) : Prop :=
  ∀ result, system.actor.phase = .returned result → system.outstandingBuffers = 0

variable {system target : ActorSystem β}

theorem counted_taskMove (counted : system.Counted) (undropped : system.actor.drops = 0)
    (moved : TaskMove system target) : target.Counted := by
  cases moved with
  | localMove moved =>
    simp only [Counted, lent] at counted ⊢
    rw [counted, moved.wrapped_eq_zero, moved.quiet.1, moved.drops]
  | @take command rest actor isCommands moved quiet =>
    obtain ⟨wrapped, drops⟩ := actor.card_wrapped_handleCommand command
    simp only [Counted, lent, isCommands, moved.quiet.1, Multiset.card_add,
      ← Multiset.cons_coe, Multiset.cons_bind, Multiset.card_zero, wrapped, drops,
      moved.drops] at counted ⊢
    omega
  | wrap isPhase =>
    simp only [Counted, lent, isPhase, Phase.wrapped, Multiset.card_add, Multiset.coe_card,
      List.length_map, List.length_append, List.length_singleton] at counted ⊢
    omega
  | unwrap isPhase =>
    simp only [Counted, lent, isPhase, Phase.wrapped, Multiset.card_add, Multiset.coe_card,
      List.length_map, List.length_cons] at counted ⊢
    omega
  | wrapRx isPhase =>
    simp only [Counted, lent, isPhase, Phase.wrapped, Multiset.card_add, Multiset.coe_card,
      List.length_map, List.length_append, List.length_singleton] at counted ⊢
    omega
  | reply isPhase =>
    simp only [Counted, lent, isPhase, wrapped_replying, Multiset.card_add,
      Multiset.cons_bind] at counted ⊢
    rw [counted, show (Phase.polling : Phase β).wrapped = 0 from rfl, Multiset.card_zero]
    omega
  | deliver isPhase =>
    simp only [Counted, lent, isPhase, Phase.wrapped, ← Multiset.coe_add, Multiset.add_bind,
      Multiset.coe_singleton, Multiset.singleton_bind, batchWrapped, Multiset.card_add,
      Multiset.card_zero] at counted ⊢
    omega
  | dropReply isPhase =>
    simp only [Counted, lent, undropped, Phase.wrapped, Multiset.card_add,
      Multiset.card_zero] at counted ⊢
    omega
  | dropBatch isPhase =>
    simp only [Counted, lent, undropped, Phase.wrapped, Multiset.card_add,
      Multiset.card_zero] at counted ⊢
    omega
  | discard isPhase isCommands =>
    simp only [Counted, lent, isCommands, undropped, Multiset.card_add, ← Multiset.cons_coe,
      Multiset.cons_bind, Multiset.card_zero] at counted ⊢
    omega
  | wait isPhase => exact counted
  | _ isPhase =>
    -- The wrapped buffers only change their name.
    simp only [Counted, lent, isPhase] at counted
    exact counted

theorem emptied_taskMove (emptied : system.actor.Emptied) (moved : TaskMove system target) :
    target.actor.Emptied := by
  cases moved with
  | localMove moved => exact moved.emptied
  | @take command rest actor _ _ _ =>
    intro ended
    cases command <;> cases ended
  | close isPhase => exact fun _ => emptied (isPhase ▸ rfl)
  | discard isPhase _ => exact emptied
  | discarded isPhase => exact fun _ => emptied (isPhase ▸ rfl)
  | wait isPhase => exact emptied
  | returned isPhase _ => exact fun _ => emptied (isPhase ▸ rfl)
  | _ isPhase =>
    intro ended
    cases ended

theorem released_taskMove (moved : TaskMove system target) : target.Released := by
  intro result returned
  cases moved with
  | localMove moved =>
    rcases moved.outcome with continues | ⟨_, ends⟩
    · have running := continues.quiet.2.2
      rw [returned] at running
      cases running
    · rw [ends.phase] at returned
      cases returned
  | @take command rest actor _ _ _ => cases command <;> cases returned
  | discard isPhase _ =>
    rw [isPhase] at returned
    cases returned
  | wait isPhase =>
    rw [isPhase] at returned
    cases returned
  | returned isPhase released => exact released
  | _ isPhase => cases returned

variable [DecidableEq β] {action : ActorAction β} {command : ActorCommand β}

theorem counted_actorStep (counted : system.Counted)
    (stepped : system.actorStep action = some target) : target.Counted := by
  rw [actorStep.eq_def] at stepped
  split at stepped
  · obtain ⟨dropped, ⟨⟩⟩ := Option.ite_none_right_eq_some.mp stepped
    have removed := Multiset.card_erase_add_one dropped
    simp only [Counted, lent, Multiset.card_add] at counted ⊢
    omega
  · obtain ⟨undropped, moved⟩ := Option.ite_none_right_eq_some.mp stepped
    exact counted_taskMove counted undropped (taskMove_of_taskStep moved)

theorem card_sends_erase {permitted : Bool} (member : ⟨command, permitted⟩ ∈ system.sends) :
    ((system.sends.erase ⟨command, permitted⟩).bind fun sending => sending.command.wrapped).card +
        command.wrapped.card =
      (system.sends.bind fun sending => sending.command.wrapped).card :=
  card_bind_erase (fun sending : Sending β => sending.command.wrapped) member

theorem counted_startSend (counted : system.Counted)
    (started : system.startSend command = some target) : target.Counted := by
  obtain ⟨⟨_, held⟩, ⟨⟩⟩ := Option.ite_none_right_eq_some.mp started
  have removed := congrArg Multiset.card (tsub_add_cancel_of_le held)
  simp only [Counted, lent, Multiset.card_add, Multiset.cons_bind] at counted removed ⊢
  omega

theorem counted_clientStep (counted : system.Counted) {action : ClientAction β}
    (stepped : system.clientStep action = some target) : target.Counted := by
  cases action with
  | allocTxBatch max =>
    obtain ⟨_, started⟩ := Option.ite_none_left_eq_some.mp stepped
    refine counted_startSend ?_ started
    exact counted
  | sendTxBuffers buffers info =>
    obtain ⟨_, started⟩ := Option.ite_none_left_eq_some.mp stepped
    exact counted_startSend counted started
  | sendTxPackets packets =>
    obtain ⟨_, started⟩ := Option.ite_none_left_eq_some.mp stepped
    exact counted_startSend counted started
  | shutdown => exact counted_startSend counted stepped
  | reserve command =>
    obtain ⟨⟨waiting, _⟩, ⟨⟩⟩ := Option.ite_none_right_eq_some.mp stepped
    have removed := card_sends_erase waiting
    simp only [Counted, lent, Multiset.card_add, Multiset.cons_bind] at counted ⊢
    omega
  | push command =>
    obtain ⟨permitted, ⟨⟩⟩ := Option.ite_none_right_eq_some.mp stepped
    have removed := card_sends_erase permitted
    simp only [Counted, lent, Multiset.card_add, ← Multiset.coe_add, Multiset.add_bind,
      Multiset.coe_singleton, Multiset.singleton_bind] at counted ⊢
    omega
  | reject command =>
    obtain ⟨⟨waiting, _⟩, ⟨⟩⟩ := Option.ite_none_right_eq_some.mp stepped
    have removed := card_sends_erase waiting
    simp only [Counted, lent, Multiset.card_add] at counted ⊢
    omega
  | cancel command =>
    obtain ⟨waiting, ⟨⟩⟩ := Option.ite_none_right_eq_some.mp stepped
    have removed := card_sends_erase waiting
    simp only [Counted, lent, Multiset.card_add] at counted ⊢
    omega
  | takeReply reply result =>
    obtain ⟨replied, ⟨⟩⟩ := Option.ite_none_right_eq_some.mp stepped
    have removed := card_bind_erase replyWrapped replied
    simp only [Counted, lent, Multiset.card_add] at counted ⊢
    omega
  | dropReply reply =>
    obtain ⟨_, ⟨⟩⟩ := Option.ite_none_right_eq_some.mp stepped
    have split := congrArg (fun replies => (Multiset.bind replies replyWrapped).card)
      (Multiset.filter_add_not (fun entry => entry.1 = reply) system.replies)
    simp only [Multiset.add_bind, Multiset.card_add] at split
    simp only [Counted, lent, Multiset.card_add, ne_eq] at counted ⊢
    omega
  | freeze buffer destination =>
    obtain ⟨isHeld, ⟨⟩⟩ := Option.ite_none_right_eq_some.mp stepped
    have removed := Multiset.card_erase_add_one isHeld
    simp only [Counted, lent, Multiset.card_add, Multiset.card_cons] at counted ⊢
    omega
  | intoTransmit packet destination =>
    obtain ⟨isHeld, ⟨⟩⟩ := Option.ite_none_right_eq_some.mp stepped
    have removed := Multiset.card_erase_add_one isHeld
    simp only [Counted, lent, Multiset.card_add, Multiset.card_cons] at counted ⊢
    omega
  | recvBatch =>
    simp only [clientStep] at stepped
    split at stepped
    · rename_i batch rest _ isBatches
      cases stepped
      simp only [Counted, lent, isBatches, Multiset.card_add, ← Multiset.cons_coe,
        Multiset.cons_bind] at counted ⊢
      omega
    · cases stepped
  | dropRx =>
    obtain ⟨_, ⟨⟩⟩ := Option.ite_none_right_eq_some.mp stepped
    simp only [Counted, lent, Multiset.card_add, Multiset.coe_nil, Multiset.zero_bind,
      Multiset.card_zero] at counted ⊢
    omega
  | cloneHandle =>
    obtain ⟨_, ⟨⟩⟩ := Option.ite_none_right_eq_some.mp stepped
    exact counted
  | dropHandle =>
    obtain ⟨_, ⟨⟩⟩ := Option.ite_none_right_eq_some.mp stepped
    exact counted
  | drop wrapped =>
    obtain ⟨isHeld, ⟨⟩⟩ := Option.ite_none_right_eq_some.mp stepped
    have removed := Multiset.card_erase_add_one isHeld
    simp only [Counted, lent, Multiset.card_add, Multiset.card_cons] at counted ⊢
    omega
  | release wrapped =>
    obtain ⟨dropped, ⟨⟩⟩ := Option.ite_none_right_eq_some.mp stepped
    have removed := Multiset.card_erase_add_one dropped
    simp only [Counted, lent, Multiset.card_add] at counted ⊢
    omega
  | notifyWaiters =>
    obtain ⟨_, ⟨⟩⟩ := Option.ite_none_right_eq_some.mp stepped
    exact counted

/-- The invariant of the leases. -/
structure Leased (system : ActorSystem β) : Prop where
  counted : system.Counted
  emptied : system.actor.Emptied
  released : system.Released

omit [DecidableEq β] in
theorem leased_spawn (config : ActorConfig) : (spawn config : ActorSystem β).Leased :=
  ⟨rfl, nofun, nofun⟩

theorem Leased.actorStep (leased : system.Leased)
    (stepped : system.actorStep action = some target) : target.Leased := by
  have counted := counted_actorStep leased.counted stepped
  rw [ActorSystem.actorStep.eq_def] at stepped
  split at stepped
  · obtain ⟨dropped, ⟨⟩⟩ := Option.ite_none_right_eq_some.mp stepped
    refine ⟨counted, leased.emptied, ?_⟩
    intro result returned
    change system.outstandingBuffers - 1 = 0
    rw [leased.released result returned]
  · obtain ⟨_, moved⟩ := Option.ite_none_right_eq_some.mp stepped
    have move := taskMove_of_taskStep moved
    exact ⟨counted, emptied_taskMove leased.emptied move, released_taskMove move⟩

theorem Leased.step (leased : system.Leased) {action : SystemAction β}
    (stepped : system.step action = some target) : target.Leased := by
  cases action with
  | actor action => exact leased.actorStep stepped
  | client action =>
    obtain ⟨sameActor, notMore⟩ := actor_clientStep stepped
    refine ⟨counted_clientStep leased.counted stepped, sameActor ▸ leased.emptied, ?_⟩
    intro result returned
    rw [sameActor] at returned
    have none := leased.released result returned
    omega

/-- In every run, the counter of an actor is the number of wrapped buffers.  When
`run_actor` has returned, there is no wrapped buffer, and no buffer is left in the
pending slots or in the receive batch. -/
theorem outstandingBuffers_eq_card_lent (config : ActorConfig)
    (actions : List (SystemAction β)) (system : ActorSystem β)
    (reached : run step (spawn config) actions = some system) :
    system.outstandingBuffers = system.lent.card ∧
      ∀ result, system.actor.phase = .returned result →
        system.lent = 0 ∧ system.actor.pendingTx = [] ∧ system.actor.recvBatch = [] := by
  have leased : system.Leased :=
    run_invariant_of_step (fun _ _ _ leased stepped => leased.step stepped)
      (leased_spawn config) reached
  refine ⟨leased.counted, fun result returned => ⟨?_, leased.emptied ?_⟩⟩
  · rw [← Multiset.card_eq_zero, ← leased.counted]
    exact leased.released result returned
  · rw [returned]
    rfl

/-- A buffer is allocated and frozen, the actor is shut down and waits, and the packet
is dropped. -/
def sampleLoan : List (SystemAction Nat) :=
  let destination : SocketAddr := .v4 ⟨0, 9⟩
  [.client (.allocTxBatch 1), .client (.reserve (.allocate 1 0)), .client (.push (.allocate 1 0)),
    .actor .takeCommand, .actor (.allocateTxBatch [7] (.ok 1)), .actor .wrapNext,
    .actor .wrapNext, .actor .reply, .client (.takeReply 0 (.ok [7])),
    .client (.freeze 7 destination), .client .shutdown, .client (.reserve .shutdown),
    .client (.push .shutdown), .actor .takeCommand, .actor .stopPolling, .actor .stopFlushing,
    .actor (.notifyTx (.ok ())), .actor (.drainTxCompletions (.ok 0)), .actor .stopFlushing,
    .actor (.notifyTx (.ok ())), .actor .skipRecv, .actor .decide, .actor .closeCommands,
    .actor .stopDiscarding, .actor .load, .actor .createNotified, .actor .poll,
    .client (.drop (.txPacket ((ActorTxMeta.new destination).transmit 7))),
    .client (.release (.txPacket ((ActorTxMeta.new destination).transmit 7))),
    .client .notifyWaiters, .actor .poll, .actor .load]

theorem outstandingBuffers_eq_card_lent_sample :
    ∃ system, run step (spawn ⟨64, 1024, 1024, 1024⟩) sampleLoan = some system ∧
      system.actor.phase = .returned (.ok ()) ∧ system.lent = 0 := by
  have phase : (run step (spawn ⟨64, 1024, 1024, 1024⟩) sampleLoan).map
      (fun system => system.actor.phase) = some (.returned (.ok ())) := by
    decide +kernel
  obtain ⟨system, reached, returned⟩ := Option.map_eq_some_iff.mp phase
  have empty := (outstandingBuffers_eq_card_lent _ _ _ reached).2 _ returned
  exact ⟨system, reached, returned, empty.1⟩

end ActorSystem

end FastSocket.Async
