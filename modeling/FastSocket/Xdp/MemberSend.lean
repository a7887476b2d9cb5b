import FastSocket.Xdp.HeaderRuns
import FastSocket.Xdp.MemberFrames

/-!
# Sends in the system of members

A send through one member moves the frames of the accepted slots from their owners
into flight at that member, and gives the other buffers back.
-/

namespace FastSocket.Xdp

open Packet Spsc Transition

variable {κ α ν : Type}

/-! ## Prepared frames are not empty -/

/-- While the cache is good, prepared frames have bytes. -/
structure PreparesBytes (good : κ → Prop) (prepare : κ → α → Prepared κ α) : Prop where
  keeps : ∀ cache item, good cache → good (prepare cache item).cache
  bytes : ∀ cache item frame, good cache → (prepare cache item).frame = .ok frame → 0 < frame.len

variable {good : κ → Prop} {header : List Byte} {payloadLen : Nat} {cache : XdpUdpEndpointCache}
  {slots : List (TxSlot α)} {frames : List XdpTxFrame} {endpoint : XdpUdpEndpoint}

theorem PreparesBytes.prepareSlots {prepare : κ → α → Prepared κ α}
    (prepares : PreparesBytes good prepare) {cache : κ} (isGood : good cache)
    (slots : List (TxSlot α)) :
    ∀ frame ∈ (prepareSlots prepare cache slots).frames, 0 < frame.len := by
  fun_induction Xdp.prepareSlots prepare cache slots with
  | case4 cache item rest next left frame step prepared ih =>
    have nextGood := prepares.keeps cache item isGood
    rw [step] at nextGood
    rw [List.forall_mem_cons]
    exact ⟨prepares.bytes cache item frame isGood (congrArg Prepared.frame step), ih nextGood⟩
  | _ => exact List.forall_mem_nil _

theorem XdpPacketBuf.len_pos_prepareTxFrameWithHeader {buffer : XdpPacketBuf} {frame : XdpTxFrame}
    (prepared : (buffer.prepareTxFrameWithHeader header).2 = some frame)
    (someBytes : header ++ buffer.packet ≠ []) : 0 < frame.len := by
  obtain ⟨_, _, _, _, _, len, bytes⟩ := prepareTxFrameWithHeader_of_some prepared
  rw [len, bytes]
  exact List.length_pos_of_ne_nil someBytes

theorem writeEthernetHeader_ne_nil (header : List Byte) (egress : XdpEgress) :
    writeEthernetHeader header egress ≠ [] := by
  rw [writeEthernetHeader]
  dsimp only
  split <;> simp [copyAt, toBeBytes]

theorem preparesBytes_prepareIpTransmit (ifindex : IfIndex) (queueId : QueueId) (mtu : Nat) :
    PreparesBytes (fun _ => True) (fun _ => prepareIpTransmit ifindex queueId mtu) where
  keeps _ _ _ := trivial
  bytes _ tx frame _ := by
    fun_cases prepareIpTransmit ifindex queueId mtu tx with
    | case1 => simp
    | case2 =>
      intro prepared
      apply XdpPacketBuf.len_pos_prepareTxFrameWithHeader (frameResult_eq_ok.mp prepared)
      exact List.append_ne_nil_of_left_ne_nil (writeEthernetHeader_ne_nil _ _) _

theorem preparesBytes_prepareUdpTransmit (resolveUdpL2 : ResolveUdpL2) (localAddr : SocketAddrV4)
    (ttl : Byte) (routeContext : XdpRouteContext) :
    PreparesBytes (fun _ => True)
      (fun _ => prepareUdpTransmit resolveUdpL2 localAddr ttl routeContext) where
  keeps _ _ _ := trivial
  bytes _ tx frame _ := by
    fun_cases prepareUdpTransmit resolveUdpL2 localAddr ttl routeContext tx with
    | case4 destination _ resolved _ prepared done packet sent written =>
      rintro ⟨⟩
      obtain ⟨headers, prepended, built, prepends, rfl⟩ :=
        prepareXdpUdpTransmitInPlace_eq_ok done
      obtain ⟨_, _, packetEq⟩ := XdpPacketBuf.prepend_spec prepends
      apply XdpPacketBuf.len_pos_prepareTxFrameWithHeader (congrArg Prod.snd written)
      apply List.append_ne_nil_of_right_ne_nil
      have length := length_ipv4UdpHeadersOf built
      rw [packetEq]
      apply List.append_ne_nil_of_left_ne_nil
      rintro rfl
      cases length
    | _ => rintro ⟨⟩

theorem patchXdpUdpEndpointHeaderLengths_ne_nil {patched : List Byte} {l2Len : Nat}
    (done : patchXdpUdpEndpointHeaderLengths header l2Len payloadLen = .ok patched) :
    patched ≠ [] := by
  rw [patchXdpUdpEndpointHeaderLengths] at done
  dsimp only at done
  split at done
  · cases done
  · cases done
    simp [writeBeU16, copyAt, toBeBytes]

theorem updateXdpUdpEndpointHeader_ne_nil {next : XdpUdpEndpointCache} {info : UdpEndpointInfo}
    (hasHeader : cache.header ≠ [])
    (updated : updateXdpUdpEndpointHeader cache info payloadLen = .ok next) : next.header ≠ [] := by
  rcases updateXdpUdpEndpointHeader_eq_ok updated with ⟨_, _, rfl⟩ | ⟨_, _, header, done, rfl⟩
  · exact hasHeader
  · exact patchXdpUdpEndpointHeaderLengths_ne_nil done

theorem preparesBytes_prepareEndpointTransmit (info : UdpEndpointInfo) :
    PreparesBytes (fun cache : XdpUdpEndpointCache => cache.header ≠ [])
      (prepareEndpointTransmit info) where
  keeps cache tx hasHeader := by
    fun_cases prepareEndpointTransmit info cache tx with
    | case1 => exact hasHeader
    | case2 next updated => exact updateXdpUdpEndpointHeader_ne_nil hasHeader updated
  bytes cache tx frame hasHeader := by
    fun_cases prepareEndpointTransmit info cache tx with
    | case1 => simp
    | case2 next updated =>
      intro prepared
      apply XdpPacketBuf.len_pos_prepareTxFrameWithHeader (frameResult_eq_ok.mp prepared)
      exact List.append_ne_nil_of_left_ne_nil
        (updateXdpUdpEndpointHeader_ne_nil hasHeader updated) _

/-! ## What a send call guarantees to the system -/

/-- A slot whose frame a descriptor covers. -/
def Covers (packet : α → XdpPacketBuf) (slot : TxSlot α) (frame : XdpTxFrame) : Prop :=
  ∃ item, slot = .ready item ∧ frame.InBuffer (packet item) ∧ 0 < frame.len

/-- The call returns, puts the frames of the leading slots in flight and leaves the
buffers of the others in the batch. -/
def SubmitsPrefix (packet : α → XdpPacketBuf) (batch : List (TxSlot α))
    (program : StateM XdpSocket (Option (SendOutcome κ α))) : Prop :=
  ∀ socket, ∃ outcome target, program.run socket = (some outcome, target) ∧
    Submits (socket.descFrames (outcome.sent.map XdpTxFrame.desc)) socket target ∧
    List.Forall₂ (Covers packet) (batch.take outcome.sent.length) outcome.sent ∧
    slotFrames packet outcome.batch = slotFrames packet (batch.drop outcome.sent.length)

/-- The frame of what is seen in a slot. -/
def seenFrame? (owner : ν → Option OwnedFrame) : TxSlot ν → Option OwnedFrame
  | .ready seen => owner seen
  | .taken => none

section Prefix

variable {packet : α → XdpPacketBuf} {view : α → ν} {batch : List (TxSlot α)}
  {prepare : κ → α → Prepared κ α} {cache : κ} {socket target : XdpSocket}
  {outcome : SendOutcome κ α} {owner : ν → Option OwnedFrame}

/-- Slots that look the same have the same frames. -/
theorem slotFrames_congr (sees : ∀ item, owner (view item) = (packet item).owned?)
    {first second : List (TxSlot α)}
    (same : first.map (TxSlot.map view) = second.map (TxSlot.map view)) :
    slotFrames packet first = slotFrames packet second := by
  have through : ∀ batch : List (TxSlot α), slotFrames packet batch =
      (batch.map (TxSlot.map view)).filterMap (seenFrame? owner) := by
    intro batch
    rw [List.filterMap_map, slotFrames]
    congr 1
    funext slot
    cases slot with
    | ready item => exact (sees item).symm
    | taken => rfl
  rw [through, same, ← through]

theorem slotFrames_taken (packet : α → XdpPacketBuf) (count : Nat) :
    slotFrames packet (List.replicate count .taken) = [] :=
  List.filterMap_replicate_of_none rfl

theorem slotFrames_append (packet : α → XdpPacketBuf) (first second : List (TxSlot α)) :
    slotFrames packet (first ++ second) = slotFrames packet first ++ slotFrames packet second :=
  List.filterMap_append

theorem OwnsPrefix.slotFrames (owns : OwnsPrefix packet view batch socket outcome target)
    (sees : ∀ item, owner (view item) = (packet item).owned?) :
    slotFrames packet outcome.batch = slotFrames packet (batch.drop outcome.sent.length) := by
  rw [← List.take_append_drop outcome.sent.length outcome.batch, owns.taken, slotFrames_append,
    slotFrames_taken, List.nil_append]
  exact slotFrames_congr sees owns.rest

theorem Sends.bytes (prepares : PreparesBytes good prepare) (isGood : good cache)
    (sends : Sends prepare cache batch socket outcome target) :
    ∀ frame ∈ outcome.sent, 0 < frame.len := by
  cases sends with
  | failed reserve => exact List.forall_mem_nil _
  | nothing reserve loop noFrames => exact List.forall_mem_nil _
  | sent reserve loop someFrames fits wake =>
    rw [← loop]
    exact prepares.prepareSlots isGood _

theorem covers_of_inBuffer (inBuffers : List.Forall₂
      (fun slot frame => ∃ item, slot = .ready item ∧ frame.InBuffer (packet item)) slots frames)
    (bytes : ∀ frame ∈ frames, 0 < frame.len) : List.Forall₂ (Covers packet) slots frames := by
  induction inBuffers with
  | nil => exact .nil
  | cons head _ ih =>
    obtain ⟨item, isReady, inBuffer⟩ := head
    obtain ⟨headBytes, restBytes⟩ := List.forall_mem_cons.mp bytes
    exact .cons ⟨item, isReady, inBuffer, headBytes⟩ (ih restBytes)

theorem submitsPrefix_sendBatch (prepares : Prepares packet view prepare)
    (bytes : PreparesBytes good prepare) (isGood : good cache) (owner : ν → Option OwnedFrame)
    (sees : ∀ item, owner (view item) = (packet item).owned?) (batch : List (TxSlot α)) :
    SubmitsPrefix packet batch (sendBatch prepare cache batch) := by
  intro socket
  obtain ⟨outcome, returns, sends⟩ := sends_sendBatch prepare cache batch socket
  have owns := sends.ownsPrefix prepares
  exact ⟨outcome, _, Prod.ext returns rfl, sends.submits,
    covers_of_inBuffer owns.frames (sends.bytes bytes isGood), owns.slotFrames sees⟩

end Prefix

theorem submitsPrefix_sendInner (ifindex : IfIndex) (queueId : QueueId) (mtu : Nat)
    (batch : List (TxSlot (IpPacketTransmit XdpPacketBuf XdpEgress))) :
    SubmitsPrefix (·.packet) batch (sendInner ifindex queueId mtu batch) :=
  submitsPrefix_sendBatch (prepares_prepareIpTransmit ifindex queueId mtu)
    (preparesBytes_prepareIpTransmit ifindex queueId mtu) trivial
    (·.packet.owned?) (fun _ => rfl) batch

theorem submitsPrefix_sendUdpInner (udp : XdpUdpConfig)
    (batch : List (TxSlot (UdpTransmit XdpPacketBuf))) :
    SubmitsPrefix (·.packet) batch (sendUdpInner udp batch) :=
  submitsPrefix_sendBatch (prepares_prepareUdpTransmit _ _ _ _)
    (preparesBytes_prepareUdpTransmit _ _ _ _) trivial (·.packet.owned?) (fun _ => rfl) batch

/-- A refreshed endpoint has a header. -/
theorem header_refreshUdpEndpointCache {udp : XdpUdpConfig} {refreshed : XdpUdpEndpoint}
    (hasHeader : endpoint.HasHeader)
    (refresh : refreshUdpEndpointCache udp endpoint = (refreshed, .ok cache)) :
    cache.header ≠ [] := by
  rcases refreshUdpEndpointCache_cases udp endpoint with
    ⟨cached, isCached, _, same⟩ | ⟨_, ⟨kind, _, same⟩ | ⟨cached, info, built, same⟩⟩
  all_goals
    rw [refresh] at same
    cases same
  · exact hasHeader cache isCached
  · obtain ⟨_, _, resolved, _, _, _, _, _, _, rfl, _⟩ := buildXdpUdpEndpointCache_eq_ok built
    apply List.append_ne_nil_of_right_ne_nil
    rw [writeIpv4UdpHeaders_eq]
    exact List.cons_ne_nil _ _

theorem submitsPrefix_sendUdpEndpointInner (udp : XdpUdpConfig) (hasHeader : endpoint.HasHeader)
    (batch : List (TxSlot (UdpEndpointTransmit XdpPacketBuf))) :
    SubmitsPrefix (·.packet) batch (sendUdpEndpointInner udp endpoint batch) := by
  intro socket
  rw [sendUdpEndpointInner]
  split
  next refreshed kind _ =>
    exact ⟨_, _, rfl, Evolves.submits (refl_of Evolves socket), .nil, rfl⟩
  next refreshed cache refresh =>
    obtain ⟨outcome, target, returns, submits, covers, left⟩ := submitsPrefix_sendBatch
      (prepares_prepareEndpointTransmit refreshed.info)
      (preparesBytes_prepareEndpointTransmit refreshed.info)
      (header_refreshUdpEndpointCache hasHeader refresh) (·.packet.owned?) (fun _ => rfl) batch
      socket
    refine ⟨outcome.intoEndpoint refreshed, target, ?_, submits, covers, left⟩
    rw [run_bind, returns]
    rfl

/-! ## Sends keep the frames distributed -/

theorem Members.call_eq_some {β : Type} {members : Members} {member : Nat} {turns : List Turn}
    {program : StateM XdpSocket β} {ended : β × Members}
    (called : members.call member turns program = some ended) :
    ∃ socket, members[member]? = some socket ∧
      ended.1 = (program.run { socket with turns := turns }).1 ∧
      ended.2 = members.set member (program.run { socket with turns := turns }).2 := by
  simp only [Members.call, Option.bind_eq_bind, Option.bind_eq_some_iff] at called
  obtain ⟨socket, found, ⟨⟩⟩ := called
  exact ⟨socket, found, rfl, rfl⟩

section System

variable {packet : α → XdpPacketBuf} {batch : List (TxSlot α)} {layout : FrameLayout}
  {loose : Multiset Addr} {members next : Members} {member : Nat} {turns : List Turn}
  {program : StateM XdpSocket (Option (SendOutcome κ α))}

theorem Members.send_eq_some (sent : members.send member turns packet batch program = some next) :
    ∃ socket lent lentSocket outcome, members[member]? = some socket ∧
      (∀ slot ∈ batch, SpansFrame socket.umem packet slot) ∧
      Members.borrow (slotFrames packet batch) members = some lent ∧
      lent[member]? = some lentSocket ∧
      (program.run { lentSocket with turns := turns }).1 = some outcome ∧
      next = Members.giveBack (slotFrames packet outcome.batch)
        (lent.set member (program.run { lentSocket with turns := turns }).2) := by
  simp only [Members.send, Option.bind_eq_bind, Option.bind_eq_some_iff] at sent
  obtain ⟨socket, found, sent⟩ := sent
  obtain ⟨spans, sent⟩ := Option.ite_none_right_eq_some.mp sent
  obtain ⟨lent, borrowed, sent⟩ := Option.bind_eq_some_iff.mp sent
  obtain ⟨ended, called, sent⟩ := Option.bind_eq_some_iff.mp sent
  obtain ⟨outcome, returned, ⟨⟩⟩ := Option.bind_eq_some_iff.mp sent
  obtain ⟨lentSocket, lentFound, resultEq, stateEq⟩ := Members.call_eq_some called
  rw [resultEq] at returned
  rw [stateEq]
  exact ⟨socket, lent, lentSocket, outcome, found, spans, borrowed, lentFound, returned, rfl⟩

/-- The descriptors of covered slots lie in the frames of the slots' buffers. -/
theorem descFrames_of_covers {socket : XdpSocket}
    (covers : List.Forall₂ (Covers packet) slots frames)
    (spans : ∀ slot ∈ slots, SpansFrame socket.umem packet slot)
    (isFrame : ∀ frame ∈ ownedFrames (slotFrames packet slots), socket.umem.IsFrame frame) :
    socket.descFrames (frames.map XdpTxFrame.desc) = ownedFrames (slotFrames packet slots) := by
  induction covers with
  | nil => rfl
  | @cons slot frame slots frames head _ ih =>
    obtain ⟨item, rfl, ⟨addr, offset, hasFrame, descAddr, inside, _⟩, bytes⟩ := head
    obtain ⟨spansHead, spansRest⟩ := List.forall_mem_cons.mp spans
    have ownedEq : slotFrames packet (.ready item :: slots) =
        ⟨(packet item).member, ⟨(packet item).pool, addr⟩⟩ :: slotFrames packet slots := by
      apply List.filterMap_cons_some
      change (packet item).frameAddr.map _ = _
      rw [hasFrame]
      rfl
    rw [ownedEq, ownedFrames_cons] at isFrame ⊢
    have addrIsFrame := isFrame addr (by simp)
    have fits : offset < socket.umem.frameSize := by
      rcases spansHead with heap | whole
      · rw [hasFrame] at heap
        cases heap
      · omega
    have headFrame : socket.umem.frameOf frame.desc.addr = addr := by
      change socket.umem.frameOf frame.descAddr = addr
      rw [descAddr]
      exact socket.umem.frameOf_add addrIsFrame fits
    rw [← ih spansRest fun frame inRest => isFrame frame (Multiset.mem_add.mpr (.inr inRest)),
      ← headFrame]
    rfl

theorem ownedFrames_slotFrames (packet : α → XdpPacketBuf) (batch : List (TxSlot α))
    (count : Nat) :
    ownedFrames (slotFrames packet batch) =
      ownedFrames (slotFrames packet (batch.take count)) +
        ownedFrames (slotFrames packet (batch.drop count)) := by
  rw [← ownedFrames_append, ← slotFrames_append, List.take_append_drop]

/-- A send borrows the buffers of its batch, puts those of the leading slots in flight
and gives the others back. -/
theorem Members.send_spec (guarantee : SubmitsPrefix packet batch program)
    (distributed : Distributed layout loose members)
    (sent : members.send member turns packet batch program = some next) :
    ∃ lent socket target count, Members.borrow (slotFrames packet batch) members = some lent ∧
      lent[member]? = some socket ∧ socket.Sound ∧
      (∀ frame ∈ ownedFrames (slotFrames packet (batch.take count)), socket.InUse frame) ∧
      Submits (ownedFrames (slotFrames packet (batch.take count))) socket target ∧
      Distributed layout (loose + ownedFrames (slotFrames packet (batch.drop count)))
        (lent.set member target) ∧
      (∀ owned ∈ slotFrames packet (batch.drop count),
        owned.Belongs layout (lent.set member target)) ∧
      next = Members.giveBack (slotFrames packet (batch.drop count)) (lent.set member target) := by
  obtain ⟨socket, lent, lentSocket, outcome, found, spans, borrowed, lentFound, returned, rfl⟩ :=
    Members.send_eq_some sent
  obtain ⟨lentDistributed, length, belong⟩ := distributed.borrow borrowed
  obtain ⟨_, target, returns, submits, covers, left⟩ :=
    guarantee { lentSocket with turns := turns }
  rw [returns] at returned ⊢
  cases returned
  have isMember := List.mem_of_getElem? lentFound
  have sound := lentDistributed.sound _ isMember
  have sameUmem : lentSocket.umem = socket.umem :=
    (lentDistributed.umem _ isMember).trans
      (distributed.umem _ (List.mem_of_getElem? found)).symm
  have inUse : ∀ frame ∈ ownedFrames (slotFrames packet (batch.take outcome.sent.length)),
      lentSocket.InUse frame := by
    intro frame isSent
    apply lentDistributed.inUse isMember
    rw [ownedFrames_slotFrames packet batch outcome.sent.length]
    exact Multiset.mem_add.mpr (.inr (Multiset.mem_add.mpr (.inl isSent)))
  have sentFrames : lentSocket.descFrames (outcome.sent.map XdpTxFrame.desc) = _ :=
    descFrames_of_covers covers
      (fun slot isSent => by
        rw [sameUmem]
        exact spans slot (List.mem_of_mem_take isSent))
      fun frame isSent => (inUse frame isSent).1
  have submitsSent : Submits (lentSocket.descFrames (outcome.sent.map XdpTxFrame.desc))
      lentSocket target := submits.of_shuffles (lentSocket.shuffles_turns turns)
  rw [sentFrames] at submitsSent
  rw [left]
  obtain ⟨targetSound, umem, reclaim, allFrames, _⟩ := submitsSent sound inUse
  refine ⟨lent, lentSocket, target, _, borrowed, lentFound, sound, inUse, submitsSent, ?_, ?_, rfl⟩
  · apply lentDistributed.replace lentFound umem reclaim targetSound
    rw [allFrames, ownedFrames_slotFrames packet batch outcome.sent.length]
    abel
  · intro owned isLeft
    obtain ⟨inside, belongs⟩ := belong owned (by
      rw [← List.take_append_drop outcome.sent.length batch, slotFrames_append]
      exact List.mem_append_right _ isLeft)
    exact OwnedFrame.Belongs.set ⟨length ▸ inside, belongs⟩ _ _

theorem Distributed.send (guarantee : SubmitsPrefix packet batch program)
    (distributed : Distributed layout loose members)
    (sent : members.send member turns packet batch program = some next) :
    Distributed layout loose next := by
  obtain ⟨_, _, _, _, _, _, _, _, _, left, belong, rfl⟩ :=
    Members.send_spec guarantee distributed sent
  exact left.giveBack belong

end System

end FastSocket.Xdp
