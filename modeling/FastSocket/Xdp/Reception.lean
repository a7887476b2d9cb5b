import FastSocket.Xdp.FramePools

/-!
# Received frames

The receive call takes descriptors out of the RX ring and hands each frame to the
application or back to the pool, also when a descriptor that does not lie in one
frame stops it.
-/

namespace FastSocket.Xdp

open Packet Spsc Transition

namespace XdpSocket

variable {socket : XdpSocket}

theorem recycleRx_spec (socket : XdpSocket) (frame : Addr) :
    LeavesTx socket (socket.recycleRx frame) ∧
      (socket.recycleRx frame).receiveFrames = socket.receiveFrames + {frame} := by
  constructor
  · refine ⟨rfl, rfl, rfl, rfl, ?_, id⟩
    intro kind
    cases kind with
    | rx => exact socket.rxReclaim.grows_push frame
    | tx => exact .refl _
  · simp only [receiveFrames, recycleRx, FrameReclaim.frames_push]
    abel

theorem recycleRx_foldl (socket : XdpSocket) (frames : List Addr) :
    LeavesTx socket (frames.foldl recycleRx socket) ∧
      (frames.foldl recycleRx socket).receiveFrames = socket.receiveFrames + ↑frames := by
  induction frames generalizing socket with
  | nil => exact ⟨.refl socket, (add_zero _).symm⟩
  | cons frame rest ih =>
    obtain ⟨leaves, receive⟩ := socket.recycleRx_spec frame
    obtain ⟨restLeaves, restReceive⟩ := ih (socket.recycleRx frame)
    refine ⟨leaves.trans restLeaves, ?_⟩
    rw [List.foldl_cons, restReceive, receive, add_assoc, Multiset.singleton_add,
      Multiset.cons_coe]

theorem deliverRx_spec (socket : XdpSocket) (frame : Addr) :
    LeavesTx socket (socket.deliverRx frame) ∧
      (socket.deliverRx frame).receiveFrames = socket.receiveFrames + {frame} := by
  constructor
  · refine ⟨rfl, rfl, rfl, ?_, fun _ => .refl _, id⟩
    simp only [transmitFrames, deliverRx, ← Multiset.coe_add, Multiset.coe_singleton, framesOf_add,
      framesOf_singleton]
    rw [if_neg PoolKind.noConfusion, add_zero]
  · simp only [receiveFrames, deliverRx, ← Multiset.coe_add, Multiset.coe_singleton, framesOf_add,
      framesOf_singleton, if_true]
    abel

theorem wrapRxFrame_eq_some {addr frame : Addr} {packetOffset len : Nat}
    (wrapped : socket.wrapRxFrame addr packetOffset len = some frame) :
    frame = socket.umem.frameOf addr := by
  simp only [wrapRxFrame, socket.umem.sub_mod_eq_frameOf] at wrapped
  split at wrapped
  · split at wrapped
    · cases wrapped
    · cases wrapped
      rfl
  · cases wrapped

theorem filterMap_frameAddrForDesc {umem : Umem} {descs : List XdpDesc}
    (valid : ∀ desc ∈ descs, umem.IsFrame (umem.frameOf desc.addr)) :
    (descs.filterMap fun desc => umem.frameAddrForDesc desc.addr) =
      descs.map fun desc => umem.frameOf desc.addr := by
  induction descs with
  | nil => rfl
  | cons desc rest ih =>
    rw [List.filterMap_cons, umem.frameAddrForDesc_of_isFrame (valid desc List.mem_cons_self),
      List.map_cons]
    exact congrArg _ (ih fun other member => valid other (List.mem_cons_of_mem desc member))

/-- Every drained descriptor gives its frame back to the receive side, delivered or
recycled. -/
theorem recvLoop_spec (parse : XdpDesc → Option (Nat × Nat)) (descs : List XdpDesc)
    (delivered : Nat) (socket : XdpSocket)
    (valid : ∀ desc ∈ descs, socket.umem.IsFrame (socket.umem.frameOf desc.addr)) :
    LeavesTx socket (recvLoop parse descs delivered socket).2 ∧
      (recvLoop parse descs delivered socket).2.receiveFrames = socket.receiveFrames +
        ↑(descs.map fun desc => socket.umem.frameOf desc.addr) := by
  induction descs generalizing delivered socket with
  | nil => exact ⟨.refl socket, (add_zero _).symm⟩
  | cons desc rest ih =>
    have restValid := fun other member => valid other (List.mem_cons_of_mem desc member)
    have step : ∀ (count : Nat) (next : XdpSocket), LeavesTx socket next →
        next.receiveFrames = socket.receiveFrames + {socket.umem.frameOf desc.addr} →
        LeavesTx socket (recvLoop parse rest count next).2 ∧
          (recvLoop parse rest count next).2.receiveFrames = socket.receiveFrames +
            ↑((desc :: rest).map fun desc => socket.umem.frameOf desc.addr) := by
      intro count next leaves receive
      obtain ⟨restLeaves, restReceive⟩ := ih count next (by rw [leaves.umem]; exact restValid)
      refine ⟨leaves.trans restLeaves, ?_⟩
      rw [restReceive, receive, leaves.umem, List.map_cons, ← Multiset.cons_coe,
        ← Multiset.singleton_add, add_assoc]
    rw [recvLoop]
    split
    case h_1 =>
      rw [← filterMap_frameAddrForDesc valid]
      exact socket.recycleRx_foldl _
    case h_2 frameAddr range sliced =>
      cases socket.umem.descriptorSlice_fst sliced
      split
      case h_1 =>
        obtain ⟨leaves, receive⟩ := socket.recycleRx_spec (socket.umem.frameOf desc.addr)
        exact step delivered _ leaves receive
      case h_2 frame wrapped =>
        obtain ⟨packet, _, wrapped⟩ := Option.bind_eq_some_iff.mp wrapped
        cases wrapRxFrame_eq_some wrapped
        obtain ⟨leaves, receive⟩ := socket.deliverRx_spec (socket.umem.frameOf desc.addr)
        exact step (delivered + 1) _ leaves receive

theorem shuffles_receive
    (valid : ∀ frame ∈ socket.receiveFrames, socket.umem.IsFrame frame)
    (parse : XdpDesc → Option (Nat × Nat)) (remaining : Nat) :
    Shuffles socket (socket.receive parse remaining).2 := by
  rw [receive]
  have append := socket.rx.sync.consumeMany_append (min remaining socket.rx.capacity)
  generalize socket.rx.sync.consumeMany (min remaining socket.rx.capacity) = drained at append
  rw [ConsumerQueue.entries_sync] at append
  have leaves : LeavesTx socket { socket with rx := drained.1 } :=
    ⟨rfl, rfl, rfl, rfl, fun _ => .refl _, id⟩
  have receive : ({ socket with rx := drained.1 } : XdpSocket).receiveFrames +
      ↑(drained.2.map fun desc => socket.umem.frameOf desc.addr) = socket.receiveFrames := by
    simp only [receiveFrames]
    rw [← append, List.map_append, ← Multiset.coe_add]
    abel
  dsimp only
  split
  case isTrue none =>
    refine ⟨leaves, ?_⟩
    rw [← receive, List.isEmpty_iff.mp none]
    exact (add_zero _).symm
  case isFalse =>
    have drainedValid : ∀ desc ∈ drained.2, socket.umem.IsFrame (socket.umem.frameOf desc.addr) := by
      intro desc member
      apply valid
      rw [← receive]
      exact Multiset.mem_add.mpr (.inr (Multiset.mem_coe.mpr (List.mem_map.mpr ⟨desc, member, rfl⟩)))
    obtain ⟨loopLeaves, loopReceive⟩ := recvLoop_spec parse drained.2 0
      { socket with rx := drained.1 } drainedValid
    exact ⟨leaves.trans loopLeaves, loopReceive.trans receive⟩

end XdpSocket

end FastSocket.Xdp
