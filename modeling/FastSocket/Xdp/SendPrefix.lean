import FastSocket.Xdp.SendBatch

/-!
# A send owns a prefix of its batch

Whatever stops a send, it has consumed exactly the leading slots that it reports
as accepted: their frames are in the TX ring, once each and in slot order, and the
other slots are the caller's as they were.
-/

namespace FastSocket.Xdp

open Packet Spsc Transition

variable {κ α ν : Type}

/-- A change that publishes no TX descriptor. -/
def KeepsCommitted (source target : XdpSocket) : Prop :=
  target.tx.committed = source.tx.committed

instance : Std.Refl KeepsCommitted :=
  ⟨fun _ => rfl⟩

instance : IsTrans XdpSocket KeepsCommitted :=
  ⟨fun _ _ _ first second => second.trans first⟩

namespace XdpSocket

variable {socket next : XdpSocket}

theorem keepsCommitted_environmentStep {action : EnvironmentAction}
    (taken : socket.environmentStep action = some next) : KeepsCommitted socket next := by
  cases action with
  | deliver index desc =>
    simp only [environmentStep, Option.bind_eq_bind, Option.bind_eq_some_iff] at taken
    obtain ⟨_, _, _, _, taken⟩ := taken
    obtain ⟨_, ⟨⟩⟩ := Option.ite_none_right_eq_some.mp taken
    rfl
  | complete index =>
    simp only [environmentStep, Option.bind_eq_bind, Option.bind_eq_some_iff] at taken
    obtain ⟨_, _, _, _, ⟨⟩⟩ := taken
    rfl
  | dropRemote index =>
    simp only [environmentStep, Option.bind_eq_bind, Option.bind_eq_some_iff] at taken
    obtain ⟨⟨kind, frame⟩, _, _, _, ⟨⟩⟩ := taken
    cases kind <;> rfl
  | _ =>
    cases taken
    rfl

end XdpSocket

theorem housekeeping_keepsCommitted : Housekeeping KeepsCommitted where
  turn := XdpSocket.respects_takeTurn (fun _ _ => rfl)
    fun _ _ _ => XdpSocket.keepsCommitted_environmentStep
  drain socket := by
    obtain ⟨_, _, _, _, _, drained⟩ := socket.reclaimCompletions_frame
    rw [drained]
    rfl
  count _ := rfl
  ring _ := rfl
  pending _ _ := rfl

/-- What a caller can rely on after a send from `socket` to `target`: the accepted
slots are taken, their frames and nothing else were published in slot order, and the
other slots look as before. -/
structure OwnsPrefix (packet : α → XdpPacketBuf) (view : α → ν) (batch : List (TxSlot α))
    (socket : XdpSocket) (outcome : SendOutcome κ α) (target : XdpSocket) : Prop where
  accepted : acceptedCount outcome.result = outcome.sent.length
  committed : target.tx.committed = socket.tx.committed ++ outcome.sent.map XdpTxFrame.desc
  frames : List.Forall₂ (fun slot frame => ∃ item, slot = .ready item ∧ frame.InBuffer (packet item))
    (batch.take outcome.sent.length) outcome.sent
  taken : outcome.batch.take outcome.sent.length = List.replicate outcome.sent.length .taken
  rest : (outcome.batch.drop outcome.sent.length).map (TxSlot.map view) =
    (batch.drop outcome.sent.length).map (TxSlot.map view)

/-- The call returns, and owns the prefix that it reports. -/
def SendsPrefix (packet : α → XdpPacketBuf) (view : α → ν) (batch : List (TxSlot α))
    (send : StateM XdpSocket (Option (SendOutcome κ α))) : Prop :=
  ∀ socket, ∃ outcome target,
    send.run socket = (some outcome, target) ∧ OwnsPrefix packet view batch socket outcome target

variable {packet : α → XdpPacketBuf} {view : α → ν} {batch : List (TxSlot α)}
  {prepare : κ → α → Prepared κ α} {cache : κ} {socket target : XdpSocket}
  {outcome : SendOutcome κ α}

/-- A call that publishes nothing leaves the whole batch. -/
theorem ownsPrefix_unsent {left : List (TxSlot α)} (result : Except Error Unit) (cache : κ)
    (kept : KeepsCommitted socket target)
    (same : left.map (TxSlot.map view) = batch.map (TxSlot.map view)) :
    OwnsPrefix packet view batch socket (.unsent result cache left) target where
  accepted := acceptedCount_sendResult 0 result
  committed := kept.trans (List.append_nil _).symm
  frames := .nil
  taken := rfl
  rest := same

/-- The slots that the loop leaves behind the prepared ones. -/
theorem map_drop_prepareSlots (prepares : Prepares packet view prepare) (cache : κ)
    (batch : List (TxSlot α)) (available : Nat) :
    let prepared := prepareSlots prepare cache (batch.take available)
    ((prepared.slots ++ batch.drop available).drop prepared.frames.length).map
      (TxSlot.map view) = (batch.drop prepared.frames.length).map (TxSlot.map view) := by
  have rest := drop_prepareSlots prepares cache (batch.take available)
  have le := length_frames_prepareSlots_le prepare cache (batch.take available)
  have length := length_slots_prepareSlots prepare cache (batch.take available)
  dsimp only at rest ⊢
  rw [List.drop_append_of_le_length (by omega), List.map_append, rest, ← List.map_append,
    ← List.drop_append_of_le_length le, List.take_append_drop]

theorem Sends.ownsPrefix (prepares : Prepares packet view prepare)
    (sends : Sends prepare cache batch socket outcome target) :
    OwnsPrefix packet view batch socket outcome target := by
  cases sends with
  | failed reserve =>
    have kept := housekeeping_keepsCommitted.reserveBatch socket
    rw [reserve] at kept
    exact ownsPrefix_unsent _ _ kept rfl
  | nothing reserve loop noFrames =>
    rename_i available prepared
    have kept := housekeeping_keepsCommitted.reserveBatch socket
    have rest := map_drop_prepareSlots prepares cache batch available
    rw [reserve] at kept
    dsimp only at rest
    rw [loop, noFrames] at rest
    exact ownsPrefix_unsent _ _ kept rest
  | sent reserve loop someFrames fits wake =>
    rename_i available reserved prepared woken
    have kept := housekeeping_keepsCommitted.reserveBatch socket
    have keptWake := housekeeping_keepsCommitted.wakeTxIfNeeded prepared.frames.length
      (reserved.commitTx (prepared.frames.map XdpTxFrame.desc))
    have rest := map_drop_prepareSlots prepares cache batch available
    have frames := forall₂_prepareSlots prepares cache (batch.take available)
    have le := length_frames_prepareSlots_le prepare cache (batch.take available)
    dsimp only at rest
    rw [reserve] at kept
    rw [wake] at keptWake
    rw [loop] at rest frames le
    have length := List.length_take_le available batch
    constructor
    · exact acceptedCount_sendResult _ _
    · have room : (prepared.frames.map XdpTxFrame.desc).length ≤ reserved.tx.available := by
        rwa [List.length_map]
      refine keptWake.trans ((reserved.tx.committed_publish room).trans ?_)
      rw [kept]
    · rwa [List.take_take, Nat.min_eq_left (by omega)] at frames
    · exact List.take_left' List.length_replicate
    · rw [takeSlots, List.drop_left' List.length_replicate]
      exact rest

theorem sendsPrefix_sendBatch (prepares : Prepares packet view prepare) (cache : κ)
    (batch : List (TxSlot α)) : SendsPrefix packet view batch (sendBatch prepare cache batch) := by
  intro socket
  obtain ⟨outcome, returns, sends⟩ := sends_sendBatch prepare cache batch socket
  exact ⟨outcome, _, Prod.ext returns rfl, sends.ownsPrefix prepares⟩

theorem sendsPrefix_sendUdpEndpointInner (udp : XdpUdpConfig) (endpoint : XdpUdpEndpoint)
    (batch : List (TxSlot (UdpEndpointTransmit XdpPacketBuf))) :
    SendsPrefix (·.packet) (UdpEndpointTransmit.mapPacket XdpPacketBuf.view) batch
      (sendUdpEndpointInner udp endpoint batch) := by
  intro socket
  rw [sendUdpEndpointInner]
  split
  next refreshed kind _ =>
    exact ⟨_, _, rfl, ownsPrefix_unsent _ _ rfl rfl⟩
  next refreshed cache _ =>
    obtain ⟨outcome, target, returns, owns⟩ := sendsPrefix_sendBatch
      (prepares_prepareEndpointTransmit refreshed.info) cache batch socket
    refine ⟨outcome.intoEndpoint refreshed, target, ?_, ?_⟩
    · rw [run_bind, returns]
      rfl
    · exact { owns with }

/-- Each send call owns the prefix of its batch that it reports, for every batch, every
routing result, every state of the rings and every script of the environment. -/
theorem sends_own_prefix :
    (∀ ifindex queueId mtu batch,
      SendsPrefix (·.packet) (IpPacketTransmit.mapPacket XdpPacketBuf.view) batch
        (sendInner ifindex queueId mtu batch)) ∧
    (∀ udp batch,
      SendsPrefix (·.packet) (UdpTransmit.mapPacket XdpPacketBuf.view) batch
        (sendUdpInner udp batch)) ∧
    (∀ udp endpoint batch,
      SendsPrefix (·.packet) (UdpEndpointTransmit.mapPacket XdpPacketBuf.view) batch
        (sendUdpEndpointInner udp endpoint batch)) := by
  refine ⟨?_, ?_, sendsPrefix_sendUdpEndpointInner⟩
  · intro ifindex queueId mtu batch
    exact sendsPrefix_sendBatch (prepares_prepareIpTransmit ifindex queueId mtu) () batch
  · intro udp batch
    exact sendsPrefix_sendBatch (prepares_prepareUdpTransmit udp.resolveUdpL2 udp.localAddr udp.ttl
      udp.routeContext) () batch

end FastSocket.Xdp
