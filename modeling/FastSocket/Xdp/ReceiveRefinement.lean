import FastSocket.Xdp.CorruptCompletions
import FastSocket.Xdp.ReceiveAccounts

/-!
# Receive loops and the frames of a socket

The receive loops with their parsers and buffers refine the receive call of the frame
model, which knows of a packet only the range that it takes in its descriptor.
-/

namespace FastSocket.Xdp

open Packet Buffer Spsc

universe u

section Refinement

variable {α : Type u} {side : RxSide}

/-- The packet ranges that the loop over the frames of a socket is given. -/
def rangeOfDesc (side : RxSide) (range : List Byte → Option (Nat × Nat)) (desc : XdpDesc) :
    Option (Nat × Nat) :=
  (side.mapping.descriptorSlice desc.addr desc.len).bind fun sliced => range sliced.2

/-- A socket whose receive side is the given one. -/
structure HasRxSide (socket : XdpSocket) (side : RxSide) : Prop where
  umem : socket.umem = side.mapping.umem
  headroom : socket.rxL2Headroom = side.layout.l2Headroom

/-- A socket that has handed out the packets and taken back the frames of a pass. -/
def settle (packetOf : α → XdpPacketBufMut) (items : List α) (recycled : List Addr)
    (socket : XdpSocket) : XdpSocket :=
  { socket with
    rxReclaim := recycled.foldl FrameReclaim.push socket.rxReclaim
    held := socket.held ++
      (items.filterMap (umemFrame? ∘ packetOf)).map (HeldFrame.mk .rx) }

theorem UmemMapping.descriptorSlice_eq_none_iff (mapping : UmemMapping) (addr : Addr) (len : Nat) :
    mapping.descriptorSlice addr len = none ↔ mapping.umem.descriptorSlice addr len = none := by
  rw [descriptorSlice]
  cases sliced : mapping.umem.descriptorSlice addr len with
  | none => simp
  | some found =>
    obtain ⟨frameAddr, start, stop⟩ := found
    have inside := (Umem.descriptorSlice_range sliced).2.2.trans mapping.le_length
    simp only [if_pos inside, reduceCtorEq]

variable {socket : XdpSocket} {range : List Byte → Option (Nat × Nat)} {frameAddr : Addr}
  {packetOf : α → XdpPacketBufMut} {verdict : XdpDesc → RxVerdict α} {result : Except Error Nat}

theorem HasRxSide.wrapRxFrame_eq (has : HasRxSide socket side) (descAddr : Addr)
    (packetOffset len : Nat) :
    socket.wrapRxFrame descAddr packetOffset len =
      (side.wrapRxFrame descAddr packetOffset len).bind umemFrame? := by
  rw [XdpSocket.wrapRxFrame, RxSide.wrapRxFrame, XdpRxPool.wrapRxFrame, has.umem, has.headroom]
  simp only
  split
  · split
    · rfl
    · rfl
  · rfl

theorem HasRxSide.rangeOfDesc_bind (has : HasRxSide socket side) {desc : XdpDesc}
    {frame : List Byte}
    (sliced : side.mapping.descriptorSlice desc.addr desc.len = some (frameAddr, frame)) :
    ((rangeOfDesc side range desc).bind fun packet =>
        socket.wrapRxFrame desc.addr packet.1 packet.2) =
      ((range frame).bind fun packet => side.wrapRxFrame desc.addr packet.1 packet.2).bind
        umemFrame? := by
  rw [rangeOfDesc, sliced, Option.bind_some, Option.bind_assoc]
  simp only [has.wrapRxFrame_eq]

theorem HasRxSide.recycleRx (has : HasRxSide socket side) (frameAddr : Addr) :
    HasRxSide (socket.recycleRx frameAddr) side :=
  ⟨has.umem, has.headroom⟩

theorem HasRxSide.deliverRx (has : HasRxSide socket side) (frameAddr : Addr) :
    HasRxSide (socket.deliverRx frameAddr) side :=
  ⟨has.umem, has.headroom⟩

theorem settle_nil (packetOf : α → XdpPacketBufMut) (socket : XdpSocket) :
    settle packetOf [] [] socket = socket := by
  rw [settle, List.filterMap_nil, List.map_nil, List.append_nil]
  rfl

theorem settle_recycleRx (packetOf : α → XdpPacketBufMut) (items : List α) (recycled : List Addr)
    (socket : XdpSocket) (frameAddr : Addr) :
    settle packetOf items recycled (socket.recycleRx frameAddr) =
      settle packetOf items (frameAddr :: recycled) socket :=
  rfl

theorem settle_deliverRx {item : α} (isFrame : umemFrame? (packetOf item) = some frameAddr)
    (items : List α) (recycled : List Addr) (socket : XdpSocket) :
    settle packetOf items recycled (socket.deliverRx frameAddr) =
      settle packetOf (item :: items) recycled socket := by
  have head : (umemFrame? ∘ packetOf) item = some frameAddr := isFrame
  simp only [settle, XdpSocket.deliverRx, List.filterMap_cons_some head, List.map_cons,
    List.append_assoc, List.singleton_append]

theorem foldl_recycleRx (recycled : List Addr) (socket : XdpSocket)
    (packetOf : α → XdpPacketBufMut) :
    recycled.foldl XdpSocket.recycleRx socket = settle packetOf [] recycled socket := by
  induction recycled generalizing socket with
  | nil => exact (settle_nil packetOf socket).symm
  | cons frameAddr rest ih => rw [List.foldl_cons, ih, settle_recycleRx]

/-- The loop with the buffers of a batch refines the loop over the frames of a
socket. -/
theorem recvLoop_of_receiveDescs
    (follows : ∀ desc, VerdictFollows side range packetOf desc (verdict desc))
    {descs : List XdpDesc} {delivered : Nat} {before after : RxPass α} (has : HasRxSide socket side)
    (run : receiveDescs side.mapping.umem verdict descs delivered before = some (result, after)) :
    ∃ items recycled, after.out.items = before.out.items ++ items ∧
      after.reclaimed = before.reclaimed ++ recycled ∧
      XdpSocket.recvLoop (rangeOfDesc side range) descs delivered socket =
        (result, settle packetOf items recycled socket) := by
  induction descs generalizing delivered before socket with
  | nil =>
    cases run
    exact ⟨[], [], (List.append_nil _).symm, (List.append_nil _).symm,
      by rw [XdpSocket.recvLoop, settle_nil]⟩
  | cons desc rest ih =>
    have step := follows desc
    rw [receiveDescs] at run
    rw [XdpSocket.recvLoop]
    generalize isVerdict : verdict desc = chosen at run step
    cases step with
    | corrupt outside =>
      cases run
      refine ⟨[], _, (List.append_nil _).symm, rfl, ?_⟩
      rw [has.umem, (side.mapping.descriptorSlice_eq_none_iff _ _).mp outside,
        reclaimRxDescs_eq, descFrames, ← foldl_recycleRx,
        XdpSocket.reclaimRxDescs, has.umem]
    | @recycle frameAddr frame sliced refused =>
      obtain ⟨items, recycled, isItems, reclaimed, loop⟩ :=
        ih (has.recycleRx frameAddr) run
      refine ⟨items, frameAddr :: recycled, isItems, ?_, ?_⟩
      · rw [reclaimed, List.append_assoc, List.singleton_append]
      · obtain ⟨start, stop, inFrame, _⟩ := UmemMapping.descriptorSlice_eq_some sliced
        rw [has.umem, inFrame, has.rangeOfDesc_bind sliced, refused]
        exact loop
    | @deliver frameAddr frame item sliced wrapped =>
      have delivers : VerdictFollows side range packetOf desc (.deliver item) :=
        .deliver sliced wrapped
      obtain ⟨frameAddr, _, isFrame⟩ := delivers.frame_of_deliver
      simp only at run
      split at run
      · cases run
      · rename_i out pushed
        obtain ⟨items, recycled, isItems, reclaimed, loop⟩ :=
          ih (has.deliverRx frameAddr) run
        refine ⟨item :: items, recycled, ?_, reclaimed, ?_⟩
        · rw [isItems, before.out.items_of_push pushed, List.append_assoc,
            List.singleton_append]
        · obtain ⟨start, stop, inFrame, _⟩ := UmemMapping.descriptorSlice_eq_some sliced
          rw [has.umem, inFrame, has.rangeOfDesc_bind sliced, wrapped, Option.bind_some,
            isFrame]
          rw [settle_deliverRx isFrame] at loop
          exact loop

/-- A receive call with the buffers of a batch yields what the receive call of the frame
model yields, and leaves the frames of the socket where that call leaves them. -/
def RefinesReceive (socket : XdpSocket) (side : RxSide) (range : List Byte → Option (Nat × Nat))
    (packetOf : α → XdpPacketBufMut) (out : RecvBatch α)
    (call : Option (Except Error Nat × RxPass α)) : Prop :=
  ∃ result pass items, call = some (result, pass) ∧ pass.out.items = out.items ++ items ∧
    (socket.receive (rangeOfDesc side range) out.remaining).map (Except.map (·.getD 0)) id =
      (result, settle packetOf items pass.reclaimed
        { socket with rx := (drainRx socket.rx out.remaining).1 })

theorem refinesReceive_receiveBatch
    (follows : ∀ desc, VerdictFollows side range packetOf desc (verdict desc))
    (has : HasRxSide socket side) (out : RecvBatch α) :
    RefinesReceive socket side range packetOf out
      (receiveBatch side.mapping.umem verdict socket.rx out).1 := by
  have drainedHas : HasRxSide { socket with rx := (drainRx socket.rx out.remaining).1 } side :=
    ⟨has.umem, has.headroom⟩
  obtain ⟨result, pass, _, run, _⟩ := accounted_receiveDescs follows
    (drainRx socket.rx out.remaining).2 0 { out, reclaimed := [] } (length_drainRx_le _ _)
  obtain ⟨items, recycled, isItems, reclaimed, loop⟩ :=
    recvLoop_of_receiveDescs follows drainedHas run
  rw [List.nil_append] at reclaimed
  have getD_some (received : Except Error Nat × XdpSocket) :
      (received.1.map some, received.2).map (Except.map (·.getD 0)) id = received := by
    obtain ⟨_ | _, _⟩ := received <;> rfl
  refine ⟨result, pass, items, run, isItems, ?_⟩
  rw [reclaimed, XdpSocket.receive]
  simp only
  split
  case isTrue none =>
    have none : (drainRx socket.rx out.remaining).2 = [] := List.isEmpty_iff.mp none
    rw [none] at loop
    exact loop
  case isFalse => exact (getD_some _).trans loop

end Refinement

/-- The receive calls of both socket types refine the receive call of the frame model. -/
theorem receive_calls_refine (side : RxSide) (localAddr : SocketAddrV4)
    (acceptedPorts : XdpUdpAcceptedPorts) (socket : XdpSocket) (has : HasRxSide socket side) :
    (∀ out, RefinesReceive socket side ipRange IpPacketReceive.packet out
      (receiveBatch side.mapping.umem (ipVerdict side) socket.rx out).1) ∧
    ∀ out, RefinesReceive socket side (udpRange localAddr acceptedPorts) UdpReceive.packet out
      (receiveBatch side.mapping.umem (udpVerdict side localAddr acceptedPorts) socket.rx out).1 :=
  ⟨refinesReceive_receiveBatch (follows_ipVerdict side) has,
    refinesReceive_receiveBatch (follows_udpVerdict side localAddr acceptedPorts) has⟩

/-- A socket that receives a batch with a corrupt descriptor. -/
def sampleRxSocket : XdpSocket :=
  { fourFramesSocket with umem := .fourFrames, rxL2Headroom := 14, rx := sampleRxRing }

theorem receive_calls_refine_of_corrupt_batch :
    RefinesReceive sampleRxSocket sampleRxSide ipRange IpPacketReceive.packet
      { items := [], capacity := 8, fits := Nat.zero_le 8 }
      (receiveBatch sampleRxSide.mapping.umem (ipVerdict sampleRxSide) sampleRxSocket.rx
        { items := [], capacity := 8, fits := Nat.zero_le 8 }).1 :=
  (receive_calls_refine sampleRxSide ⟨0#32, 0#16⟩ (.single 0#16) sampleRxSocket ⟨rfl, rfl⟩).1 _

end FastSocket.Xdp
