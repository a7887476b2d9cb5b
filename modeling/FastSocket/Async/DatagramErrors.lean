import FastSocket.Async.OsActor

/-!
# Datagrams that end an actor

A receive call makes `run_actor_inner` return an error exactly when the kernel has handed
over a datagram that is too long and none that is handed on.
-/

namespace FastSocket.Async

open Packet Buffer Os Transition

/-! ## Receive calls -/

namespace OsActor

/-- What every run keeps: all datagrams that were taken and can be handed on were. -/
structure Keeps (layout : BufferLayout) (maxBatch maxBuffers : Nat) (state : OsActor) : Prop where
  receiver : state.receiver.Keeps layout maxBatch maxBuffers
  received : state.received.map UdpReceive.content =
    (state.taken.filterMap (Incoming.content layout.payloadCapacity)).map (Prod.map .ok id)
  running : state.panicked = false

/-- The result of a receive call and the packets that it gives. -/
structure Outcome (capacity : Nat) (batch : List Incoming) (outcome : RecvOutcome) : Prop where
  packets : outcome.packets.map UdpReceive.content =
    (batch.filterMap (Incoming.content capacity)).map (Prod.map .ok id)
  result : (∃ count, outcome.result = .ok count) ∧ Spares capacity batch ∨
    outcome.result = .error (.failed .truncated) ∧ ¬ Spares capacity batch

variable {state target : OsActor} {layout : BufferLayout} {maxBatch maxBuffers : Nat}
  {contents : Os.Buffer → List Byte} {batch : List Incoming} {outcome : RecvOutcome}

theorem spares_nil (capacity : Nat) : Spares capacity [] :=
  fun ⟨_, member, _⟩ => nomatch member

variable {capacity : Nat} {action : OsActorAction}

theorem outcome_nil {count : Nat} (nothing : outcome.packets = [])
    (result : outcome.result = .ok count) : Outcome capacity [] outcome := by
  refine ⟨?_, .inl ⟨⟨count, result⟩, spares_nil capacity⟩⟩
  rw [nothing]
  rfl

theorem spares_iff (capacity : Nat) (batch : List Incoming) :
    Spares capacity batch ↔ ¬ ((batch.filterMap (Incoming.content capacity)).length = 0 ∧
      batch.any fun incoming => decide (capacity < incoming.payload.length)) := by
  have none : (batch.filterMap (Incoming.content capacity)).length = 0 ↔
      ¬ ∃ incoming ∈ batch, (incoming.content capacity).isSome := by
    rw [List.length_eq_zero_iff, List.filterMap_eq_nil_iff]
    constructor
    · rintro nothing ⟨incoming, member, some⟩
      rw [nothing incoming member] at some
      cases some
    · intro nothing incoming member
      apply Option.not_isSome_iff_eq_none.mp
      exact fun some => nothing ⟨incoming, member, some⟩
  rw [none, List.any_eq_true, Spares, not_and', not_not]
  simp only [decide_eq_true_eq]

/-- A batch that the kernel hands over gives its packets, and an error unless it is
spared. -/
theorem outcome_afterMessages {socket : OsUdpSocket} {posted : List RecvSlot}
    (wellFormed : socket.layout.WellFormed)
    (few : (batch.map (Incoming.message socket.layout.payloadCapacity)).length ≤ posted.length)
    (arrive : ∀ pair ∈ posted.zip (batch.map (Incoming.message socket.layout.payloadCapacity)),
      Arrives socket.layout pair) :
    Outcome socket.layout.payloadCapacity batch (socket.afterMessages posted
      (batch.map (Incoming.message socket.layout.payloadCapacity))) := by
  have packets := map_content_deliver? socket.localPort wellFormed arrive
  rw [List.map_snd_zip few, List.filterMap_map] at packets
  have contents : KernelMessage.content ∘ Incoming.message socket.layout.payloadCapacity =
      Incoming.content socket.layout.payloadCapacity :=
    funext (Incoming.content_message _)
  rw [contents] at packets
  refine ⟨packets, ?_⟩
  have lengths := congrArg List.length packets
  rw [List.length_map, List.length_map] at lengths
  rw [spares_iff]
  change (∃ count, receivedResult _ _ = .ok count) ∧ _ ∨ receivedResult _ _ = _ ∧ _
  have same : (batch.map (Incoming.message socket.layout.payloadCapacity)).any
      KernelMessage.truncated =
        batch.any fun incoming => decide (socket.layout.payloadCapacity < incoming.payload.length) :=
    List.any_map
  rw [receivedResult, lengths, same]
  split
  case isTrue lost => exact .inr ⟨rfl, fun spared => spared lost⟩
  case isFalse spared => exact .inl ⟨⟨_, rfl⟩, spared⟩

theorem Keeps.outcome_recvImpl (keeps : state.Keeps layout maxBatch maxBuffers)
    (wellFormed : layout.WellFormed) {remaining : Nat}
    (returned : state.receiver.socket.recvImpl contents (state.recvmmsgResults batch) remaining =
      some outcome)
    (handsOver : HandsOver outcome.requested state.waiting batch) :
    Outcome layout.payloadCapacity batch outcome := by
  cases keeps.receiver.accounted.receives returned with
  | without _ _ _ =>
    cases handsOver
    exact outcome_nil rfl rfl
  | @called next posted _ same posting _ _ _ answered =>
    have isLayout : next.layout = layout := same.layout.trans keeps.receiver.layout
    cases batch with
    | nil =>
      cases answered with
      | failed answered =>
        cases answered
        exact outcome_nil rfl rfl
      | messages answered _ _ => cases answered
    | cons first rest =>
      cases answered with
      | failed answered => cases answered
      | messages answered few arrive =>
        cases answered
        subst isLayout
        rw [keeps.receiver.layout] at few arrive ⊢
        exact outcome_afterMessages wellFormed few arrive

/-! ## Runs -/

/-- What the actor gets as the result of a receive call. -/
theorem Outcome.exists_result (effect : Outcome capacity batch outcome) :
    ∃ result : Except Error Nat, outcome.result = result.mapError .failed ∧
      ((∃ count, result = .ok count) ∨ result = .error .wouldBlock ↔ Spares capacity batch) := by
  rcases effect.result with ⟨⟨count, result⟩, spared⟩ | ⟨result, lost⟩
  · exact ⟨.ok count, result, iff_of_true (.inl ⟨count, rfl⟩) spared⟩
  · refine ⟨.error .truncated, result, iff_of_false ?_ lost⟩
    rintro (⟨_, ⟨⟩⟩ | ⟨⟨⟩⟩)

/-- What a receive call of the actor does to it. -/
theorem afterRecv_eq_some {result : Except Error Nat}
    (isResult : outcome.result = result.mapError .failed)
    (taken : state.afterRecv batch outcome = some target) :
    target.receiver = {
        socket := outcome.socket
        held := OsUdpSocket.vectors outcome.packets ++ state.receiver.held } ∧
      target.taken = state.taken ++ batch ∧
      target.received = state.received ++ outcome.packets ∧
      target.panicked = state.panicked ∧
      state.system.step (.actor (.recv (outcome.packets.map UdpReceive.packet) result)) =
        some target.system := by
  rw [afterRecv, isResult] at taken
  cases result with
  | ok count =>
    obtain ⟨system, stepped, rfl⟩ := Option.map_eq_some_iff.mp taken
    exact ⟨rfl, rfl, rfl, rfl, stepped⟩
  | error error =>
    obtain ⟨system, stepped, rfl⟩ := Option.map_eq_some_iff.mp taken
    exact ⟨rfl, rfl, rfl, rfl, stepped⟩

/-- What a receive call keeps, and when it ends the actor with an error. -/
theorem Keeps.recv (keeps : state.Keeps layout maxBatch maxBuffers)
    (wellFormed : layout.WellFormed)
    (taken : state.step (.recv contents batch) = some target) :
    target.Keeps layout maxBatch maxBuffers ∧
      (ActorSystem.Unharmed target.system.actor.phase ↔ Spares layout.payloadCapacity batch) ∧
      ∃ packets count, state.system.step (.actor (.recv packets count)) = some target.system := by
  rw [step] at taken
  split at taken
  · cases taken
  case h_2 outcome returned =>
    obtain ⟨handsOver, taken⟩ := Option.ite_none_right_eq_some.mp taken
    have effect := keeps.outcome_recvImpl wellFormed returned handsOver
    have packets : (state.received ++ outcome.packets).map UdpReceive.content =
        ((state.taken ++ batch).filterMap (Incoming.content layout.payloadCapacity)).map
          (Prod.map .ok id) := by
      rw [List.map_append, keeps.received, effect.packets, List.filterMap_append,
        List.map_append]
    have stepped : state.receiver.step (.recv contents (state.recvmmsgResults batch)
        state.system.config.recvBatchSize) = some {
          socket := outcome.socket
          held := OsUdpSocket.vectors outcome.packets ++ state.receiver.held } := by
      rw [ReceiveSystem.step, returned]
      rfl
    obtain ⟨result, isResult, spared⟩ := effect.exists_result
    obtain ⟨isReceiver, isTaken, isReceived, isPanicked, actorStep⟩ :=
      afterRecv_eq_some isResult taken
    refine ⟨⟨?_, ?_, isPanicked.trans keeps.running⟩, ?_, _, _, actorStep⟩
    · rw [isReceiver]
      exact keeps.receiver.step wellFormed stepped
    · rw [isTaken, isReceived, packets]
    · rw [ActorSystem.actor_recv actorStep, ActorSystem.Actor.unharmed_recv_iff, spared]

theorem Keeps.step (keeps : state.Keeps layout maxBatch maxBuffers) (wellFormed : layout.WellFormed)
    (taken : state.step action = some target) : target.Keeps layout maxBatch maxBuffers := by
  cases action with
  | arrive incoming =>
    obtain ⟨_, ⟨⟩⟩ := Option.ite_none_right_eq_some.mp taken
    exact ⟨keeps.receiver, keeps.received, keeps.running⟩
  | recv contents batch => exact (keeps.recv wellFormed taken).1
  | system action =>
    obtain ⟨_, taken⟩ := Option.ite_none_right_eq_some.mp taken
    obtain ⟨system, _, rfl⟩ := Option.map_eq_some_iff.mp taken
    exact ⟨keeps.receiver, keeps.received, keeps.running⟩
  | drop action =>
    obtain ⟨_, taken⟩ := Option.ite_none_right_eq_some.mp taken
    obtain ⟨receiver, stepped, rfl⟩ := Option.map_eq_some_iff.mp taken
    exact ⟨keeps.receiver.step wellFormed stepped, keeps.received, keeps.running⟩

theorem Keeps.failed_iff (keeps : state.Keeps layout maxBatch maxBuffers) :
    ¬ state.Failed ↔ ActorSystem.Unharmed state.system.actor.phase := by
  rw [Failed, keeps.running, ActorSystem.Unharmed]
  simp

/-- An error that `run_actor_inner` has returned stays. -/
theorem Keeps.failed_step (keeps : state.Keeps layout maxBatch maxBuffers)
    (wellFormed : layout.WellFormed) (failed : state.Failed)
    (taken : state.step action = some target) : target.Failed := by
  have running := keeps.running
  obtain ⟨error, ended⟩ := failed.resolve_right (Bool.eq_false_iff.mp running)
  refine .inl ⟨error, ?_⟩
  cases action with
  | arrive incoming =>
    obtain ⟨_, ⟨⟩⟩ := Option.ite_none_right_eq_some.mp taken
    exact ended
  | recv contents batch =>
    obtain ⟨_, _, _, _, stepped⟩ := keeps.recv wellFormed taken
    exact ActorSystem.result?_of_step ended stepped
  | system action =>
    obtain ⟨_, taken⟩ := Option.ite_none_right_eq_some.mp taken
    obtain ⟨system, stepped, rfl⟩ := Option.map_eq_some_iff.mp taken
    exact ActorSystem.result?_of_step ended stepped
  | drop action =>
    obtain ⟨_, taken⟩ := Option.ite_none_right_eq_some.mp taken
    obtain ⟨receiver, _, rfl⟩ := Option.map_eq_some_iff.mp taken
    exact ended

/-- A step makes `run_actor_inner` return an error exactly when it is a receive call whose
batch is not spared. -/
theorem Keeps.step_turns (keeps : state.Keeps layout maxBatch maxBuffers)
    (wellFormed : layout.WellFormed) (fine : ¬ state.Failed)
    (taken : state.step action = some target) :
    ¬ target.Failed ↔ action.Spares layout.payloadCapacity := by
  rw [(keeps.step wellFormed taken).failed_iff]
  have running := keeps.failed_iff.mp fine
  cases action with
  | arrive incoming =>
    obtain ⟨_, ⟨⟩⟩ := Option.ite_none_right_eq_some.mp taken
    exact iff_of_true running trivial
  | recv contents batch => exact (keeps.recv wellFormed taken).2.1
  | system action =>
    obtain ⟨succeeds, taken⟩ := Option.ite_none_right_eq_some.mp taken
    obtain ⟨system, stepped, rfl⟩ := Option.map_eq_some_iff.mp taken
    exact iff_of_true (ActorSystem.unharmed_step running succeeds stepped) trivial
  | drop action =>
    obtain ⟨_, taken⟩ := Option.ite_none_right_eq_some.mp taken
    obtain ⟨receiver, _, rfl⟩ := Option.map_eq_some_iff.mp taken
    exact iff_of_true running trivial

theorem keeps_spawn (config : ActorConfig) (layout : BufferLayout) (localPort : Word)
    (maxBatch maxBuffers : Nat) :
    (spawn config layout localPort maxBatch maxBuffers).Keeps layout maxBatch maxBuffers :=
  ⟨ReceiveSystem.keeps_new layout localPort maxBatch maxBuffers, rfl, rfl⟩

end OsActor

/-- In every run in which the other calls succeed, the actor returns no error and has
received exactly the datagrams that fit its buffers, of those that were taken from the
kernel, if and only if no receive call was handed a datagram that is too long without one
that is handed on. -/
theorem actor_survives_datagrams_iff (config : ActorConfig) {layout : BufferLayout}
    (constructed : layout.Constructed) (localPort : Word) (maxBatch rxPoolMaxBuffers : Nat)
    {actions : List OsActorAction} {state : OsActor}
    (reached : run OsActor.step (.spawn config layout localPort maxBatch rxPoolMaxBuffers)
      actions = some state) :
    ¬ state.Failed ∧ state.received.map UdpReceive.content =
        (state.taken.filterMap (Incoming.content layout.payloadCapacity)).map
          (Prod.map .ok id) ↔
      StepsMeet OsActor.step (fun _ action => action.Spares layout.payloadCapacity)
        (.spawn config layout localPort maxBatch rxPoolMaxBuffers) actions := by
  have initial := OsActor.keeps_spawn config layout localPort maxBatch rxPoolMaxBuffers
  have keeps : state.Keeps layout maxBatch rxPoolMaxBuffers := run_invariant_of_step
    (fun _ _ _ keeps taken => keeps.step constructed.wellFormed taken) initial reached
  have survives := not_bad_iff_stepsMeet
    (fun _ _ _ keeps taken => OsActor.Keeps.step keeps constructed.wellFormed taken)
    (fun _ _ _ keeps failed taken => keeps.failed_step constructed.wellFormed failed taken)
    (fun _ _ _ keeps fine taken => keeps.step_turns constructed.wellFormed fine taken)
    initial (initial.failed_iff.mpr nofun) reached
  rw [← survives]
  exact and_iff_left keeps.received

/-! ## One datagram that is too long -/

/-- A datagram with a payload, from 192.0.2.1. -/
def sampleIncoming (payload : List Byte) : Incoming :=
  { payload := payload, name := sampleMessage.name, control := [] }

/-- The first round of the actor up to its receive call. -/
def firstRound : List OsActorAction :=
  [.system (.actor .stopPolling), .system (.actor .stopFlushing),
    .system (.actor (.notifyTx (.ok ()))), .system (.actor (.drainTxCompletions (.ok 0))),
    .system (.actor .stopFlushing), .system (.actor (.notifyTx (.ok ())))]

def sampleActorConfig : ActorConfig :=
  { recvBatchSize := 2, commandQueueCapacity := 1, rxQueueCapacity := 1, pendingTxCapacity := 1 }

/-- A single datagram of five bytes ends an actor whose buffers hold four. -/
theorem actor_ends_after_long_datagram :
    ∃ state, run OsActor.step (.spawn sampleActorConfig sampleRxLayout 4433#16 2 8)
        (firstRound ++ [.arrive (sampleIncoming (List.replicate 5 7#8)),
          .recv (fun _ => []) [sampleIncoming (List.replicate 5 7#8)]]) = some state ∧
      state.system.actor.phase = .closing (.error (.socket .truncated)) ∧ state.Failed :=
  ⟨_, rfl, rfl, .inl ⟨.socket .truncated, rfl⟩⟩

/-- With a short datagram behind it in the same batch, the long one is dropped. -/
theorem actor_survives_spared_datagram :
    ∃ state, run OsActor.step (.spawn sampleActorConfig sampleRxLayout 4433#16 2 8)
        (firstRound ++ [.arrive (sampleIncoming (List.replicate 5 7#8)),
          .arrive (sampleIncoming [1#8]),
          .recv (fun _ => []) [sampleIncoming (List.replicate 5 7#8), sampleIncoming [1#8]]]) =
            some state ∧
      ¬ state.Failed ∧ state.received.map UdpReceive.content =
        (state.taken.filterMap (Incoming.content 4)).map (Prod.map .ok id) := by
  have constructed : sampleRxLayout.Constructed := @BufferLayout.Constructed.new 4 _ rfl
  refine ⟨_, rfl, ?_⟩
  refine (@actor_survives_datagrams_iff sampleActorConfig sampleRxLayout constructed 4433#16 2 8
    (firstRound ++ [.arrive (sampleIncoming (List.replicate 5 7#8)),
      .arrive (sampleIncoming [1#8]),
      .recv (fun _ => []) [sampleIncoming (List.replicate 5 7#8), sampleIncoming [1#8]]]) _
    rfl).mpr ?_
  have spared : Spares 4 [sampleIncoming (List.replicate 5 7#8), sampleIncoming [1#8]] :=
    fun _ => ⟨sampleIncoming [1#8], .tail _ (.head _), rfl⟩
  apply StepsMeet.of_forall
  intro action member _
  simp only [firstRound, List.cons_append, List.nil_append, List.mem_cons, List.not_mem_nil,
    or_false] at member
  rcases member with rfl | rfl | rfl | rfl | rfl | rfl | rfl | rfl | rfl
  all_goals first
    | exact spared
    | trivial

end FastSocket.Async
