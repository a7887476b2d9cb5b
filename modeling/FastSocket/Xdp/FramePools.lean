import FastSocket.Xdp.LiveCalls
import Mathlib.Data.List.Perm.Basic
import Mathlib.Tactic.Abel

/-!
# Where the frames of a socket are

Seen from above, a frame of a socket is on its receive side, in flight or on its
transmit side.  Everything that the kernel, the application and the socket's own
housekeeping do leaves a frame on its side; only a submission puts frames in
flight, and only a drained completion brings them back.
-/

namespace FastSocket.Xdp

open Packet Spsc Transition

/-- The frames in the buffers of one pool. -/
def framesOf (kind : PoolKind) (buffers : Multiset HeldFrame) : Multiset Addr :=
  (buffers.filter (·.pool = kind)).map HeldFrame.frame

@[simp]
theorem framesOf_add (kind : PoolKind) (first second : Multiset HeldFrame) :
    framesOf kind (first + second) = framesOf kind first + framesOf kind second := by
  rw [framesOf, Multiset.filter_add, Multiset.map_add, framesOf, framesOf]

@[simp]
theorem framesOf_singleton (kind : PoolKind) (buffer : HeldFrame) :
    framesOf kind {buffer} = if buffer.pool = kind then {buffer.frame} else 0 := by
  rw [framesOf, Multiset.filter_singleton]
  split
  · rw [Multiset.map_singleton]
  · rfl

theorem framesOf_map_mk (kind other : PoolKind) (frames : List Addr) :
    framesOf kind ↑(frames.map (HeldFrame.mk other)) = if other = kind then ↑frames else 0 := by
  induction frames with
  | nil => split <;> rfl
  | cons frame rest ih =>
    rw [List.map_cons, ← Multiset.cons_coe, ← Multiset.singleton_add, framesOf_add, ih,
      framesOf_singleton]
    split
    · rw [Multiset.singleton_add, Multiset.cons_coe]
    · rw [add_zero]

/-- Every buffer is of one of the pools. -/
theorem framesOf_add_framesOf (buffers : Multiset HeldFrame) :
    framesOf .rx buffers + framesOf .tx buffers = buffers.map HeldFrame.frame := by
  induction buffers using Multiset.induction_on with
  | empty => rfl
  | cons buffer rest ih =>
    rw [Multiset.map_cons, ← ih, ← Multiset.singleton_add, framesOf_add, framesOf_add,
      framesOf_singleton, framesOf_singleton, ← Multiset.singleton_add]
    cases buffer.pool <;> simp

variable {α : Type*}

theorem coe_eraseIdx {list : List α} {index : Nat} {entry : α} (found : list[index]? = some entry) :
    (↑list : Multiset α) = ↑(list.eraseIdx index) + {entry} := by
  obtain ⟨inside, rfl⟩ := List.getElem?_eq_some_iff.mp found
  rw [← Multiset.coe_singleton, Multiset.coe_add, Multiset.coe_eq_coe]
  exact (List.getElem_cons_eraseIdx_perm inside).symm.trans (List.perm_append_singleton _ _).symm

theorem coe_take_add_drop (list : List α) (count : Nat) :
    (↑(list.take count) + ↑(list.drop count) : Multiset α) = ↑list := by
  rw [Multiset.coe_add, List.take_append_drop]

namespace XdpSocket

variable (socket : XdpSocket)

def receiveFrames : Multiset Addr :=
  ↑socket.fill.entries + ↑socket.kernelRx +
    ↑(socket.rx.entries.map fun desc => socket.umem.frameOf desc.addr) +
    socket.rxReclaim.frames + framesOf .rx ↑socket.held

def transmitFrames : Multiset Addr :=
  socket.txReclaim.frames + framesOf .tx ↑socket.held

/-- The frames in the TX ring, with the kernel and in the COMPLETION ring. -/
def inFlightFrames : Multiset Addr :=
  ↑(socket.tx.entries.map fun desc => socket.umem.frameOf desc.addr) +
    ↑(socket.kernelTx.map socket.umem.frameOf) +
    ↑(socket.completion.entries.map socket.umem.frameOf)

/-- The counters agree with the rings: what was committed and not drained is in
flight, and what the kernel took from the TX ring is completed or with it. -/
def Balanced : Prop :=
  socket.txInFlight + socket.completion.taken = socket.tx.committed.length ∧
    socket.completion.published.length + socket.kernelTx.length = socket.tx.consumed

end XdpSocket

/-- A change that leaves everything but the receive side. -/
structure LeavesTx (source target : XdpSocket) : Prop where
  umem : target.umem = source.umem
  completionReclaim : target.completionReclaim = source.completionReclaim
  inFlight : target.inFlightFrames = source.inFlightFrames
  transmit : target.transmitFrames = source.transmitFrames
  pools : ∀ kind, (source.pool kind).Grows (target.pool kind)
  balanced : source.Balanced → target.Balanced

/-- A change that leaves every frame on its side. -/
structure Shuffles (source target : XdpSocket) : Prop extends LeavesTx source target where
  receive : target.receiveFrames = source.receiveFrames

variable {source middle target : XdpSocket}

theorem LeavesTx.refl (socket : XdpSocket) : LeavesTx socket socket :=
  ⟨rfl, rfl, rfl, rfl, fun _ => .refl _, id⟩

theorem LeavesTx.trans (first : LeavesTx source middle) (second : LeavesTx middle target) :
    LeavesTx source target :=
  ⟨second.umem.trans first.umem, second.completionReclaim.trans first.completionReclaim,
    second.inFlight.trans first.inFlight, second.transmit.trans first.transmit,
    fun kind => (first.pools kind).trans (second.pools kind), second.balanced ∘ first.balanced⟩

theorem Shuffles.refl (socket : XdpSocket) : Shuffles socket socket :=
  ⟨.refl socket, rfl⟩

theorem Shuffles.trans (first : Shuffles source middle) (second : Shuffles middle target) :
    Shuffles source target :=
  ⟨first.toLeavesTx.trans second.toLeavesTx, second.receive.trans first.receive⟩

instance : Std.Refl Shuffles :=
  ⟨.refl⟩

instance : IsTrans XdpSocket Shuffles :=
  ⟨fun _ _ _ => .trans⟩

/-! ## The environment -/

namespace XdpSocket

variable {socket next : XdpSocket}

theorem shuffles_takeFill (count : Nat) :
    Shuffles socket { socket with
      fill := socket.fill.consume count
      kernelRx := socket.kernelRx ++ socket.fill.entries.take count } := by
  refine ⟨⟨rfl, rfl, rfl, rfl, fun _ => .refl _, id⟩, ?_⟩
  simp only [receiveFrames, ProducerQueue.entries_consume, ← Multiset.coe_add]
  rw [← coe_take_add_drop socket.fill.entries count]
  abel

theorem shuffles_takeTx (count : Nat) :
    Shuffles socket { socket with
      tx := socket.tx.consume count
      kernelTx := socket.kernelTx ++ (socket.tx.entries.take count).map XdpDesc.addr } := by
  refine ⟨⟨rfl, rfl, ?_, rfl, fun _ => .refl _, ?_⟩, rfl⟩
  · simp only [inFlightFrames, ProducerQueue.entries_consume, List.map_append, List.map_map,
      ← Multiset.coe_add, Function.comp_def]
    conv_rhs => rw [← List.take_append_drop count socket.tx.entries, List.map_append,
      ← Multiset.coe_add]
    abel
  · rintro ⟨inFlight, consumed⟩
    refine ⟨inFlight, ?_⟩
    change socket.completion.published.length + (_ ++ _ : List Addr).length =
      socket.tx.consumed + min count _
    rw [List.length_append, List.length_map, List.length_take]
    omega

variable {held : List HeldFrame}

/-- Moving frames between the pools and the application's buffers. -/
theorem shuffles_pools {rx tx : FrameReclaim} (rxFrames : rx.frames + framesOf .rx ↑held =
      socket.rxReclaim.frames + framesOf .rx ↑socket.held)
    (txFrames : tx.frames + framesOf .tx ↑held =
      socket.txReclaim.frames + framesOf .tx ↑socket.held) (rxGrows : socket.rxReclaim.Grows rx)
    (txGrows : socket.txReclaim.Grows tx) :
    Shuffles socket { socket with rxReclaim := rx, txReclaim := tx, held := held } := by
  refine ⟨⟨rfl, rfl, rfl, txFrames, ?_, id⟩, ?_⟩
  · intro kind
    cases kind with
    | rx => exact rxGrows
    | tx => exact txGrows
  · simp only [receiveFrames, add_assoc, rxFrames]

/-- Dropping a buffer to its pool. -/
theorem shuffles_drop {buffer : HeldFrame}
    (split : (↑socket.held : Multiset HeldFrame) = ↑held + {buffer}) {reclaim : FrameReclaim}
    (frames : reclaim.frames = (socket.pool buffer.pool).frames + {buffer.frame})
    (grows : (socket.pool buffer.pool).Grows reclaim) :
    Shuffles socket { socket.setPool buffer.pool reclaim with held := held } := by
  obtain ⟨kind, frame⟩ := buffer
  cases kind with
  | rx =>
    change Shuffles socket { socket with
      rxReclaim := reclaim, txReclaim := socket.txReclaim, held := held }
    apply shuffles_pools
    · rw [frames, split, framesOf_add, framesOf_singleton, if_pos rfl, pool]
      abel
    · rw [split, framesOf_add, framesOf_singleton, if_neg PoolKind.noConfusion, add_zero]
    · exact grows
    · exact .refl _
  | tx =>
    change Shuffles socket { socket with
      rxReclaim := socket.rxReclaim, txReclaim := reclaim, held := held }
    apply shuffles_pools
    · rw [split, framesOf_add, framesOf_singleton, if_neg PoolKind.noConfusion, add_zero]
    · rw [frames, split, framesOf_add, framesOf_singleton, if_pos rfl, pool]
      abel
    · exact .refl _
    · exact grows

theorem shuffles_environmentStep {action : EnvironmentAction}
    (taken : socket.environmentStep action = some next) : Shuffles socket next := by
  cases action with
  | takeFill count =>
    cases taken
    exact shuffles_takeFill count
  | deliver index desc =>
    simp only [environmentStep, Option.bind_eq_bind, Option.bind_eq_some_iff] at taken
    obtain ⟨frame, found, rx, published, taken⟩ := taken
    split at taken
    case isFalse => cases taken
    case isTrue same =>
      cases taken
      refine ⟨⟨rfl, rfl, rfl, rfl, fun _ => .refl _, id⟩, ?_⟩
      simp only [receiveFrames, ConsumerQueue.entries_publish _ published, List.map_append,
        ← Multiset.coe_add, coe_eraseIdx found, List.map_singleton, same, Multiset.coe_singleton]
      abel
  | takeTx count =>
    cases taken
    exact shuffles_takeTx count
  | complete index =>
    simp only [environmentStep, Option.bind_eq_bind, Option.bind_eq_some_iff] at taken
    obtain ⟨addr, found, completion, published, taken⟩ := taken
    cases taken
    refine ⟨⟨rfl, rfl, ?_, rfl, fun _ => .refl _, ?_⟩, rfl⟩
    · simp only [inFlightFrames, ConsumerQueue.entries_publish _ published, List.map_append,
        ← Multiset.coe_add, ← Multiset.map_coe, coe_eraseIdx found, Multiset.map_add]
      abel
    · rintro ⟨inFlight, consumed⟩
      obtain ⟨history, taken, _⟩ := socket.completion.publish_spec published
      obtain ⟨inside, _⟩ := List.getElem?_eq_some_iff.mp found
      constructor
      · change socket.txInFlight + completion.taken = socket.tx.committed.length
        rw [taken, inFlight]
      · change completion.published.length + (socket.kernelTx.eraseIdx index).length =
          socket.tx.consumed
        rw [history, List.length_append, List.length_singleton,
          List.length_eraseIdx_of_lt inside]
        omega
  | setFillNeedWakeup value =>
    cases taken
    exact ⟨⟨rfl, rfl, rfl, rfl, fun _ => .refl _, id⟩, rfl⟩
  | setTxNeedWakeup value =>
    cases taken
    exact ⟨⟨rfl, rfl, rfl, rfl, fun _ => .refl _, id⟩, rfl⟩
  | dropRemote index =>
    simp only [environmentStep, Option.bind_eq_bind, Option.bind_eq_some_iff] at taken
    obtain ⟨buffer, found, reclaim, pushed, taken⟩ := taken
    cases taken
    obtain ⟨frames, grows⟩ := FrameReclaim.pushRemote_spec _ pushed
    exact shuffles_drop (coe_eraseIdx found) frames grows

theorem shuffles_turns (socket : XdpSocket) (turns : List Turn) :
    Shuffles socket { socket with turns := turns } :=
  ⟨⟨rfl, rfl, rfl, rfl, fun _ => .refl _, id⟩, rfl⟩

theorem shuffles_takeTurn (socket : XdpSocket) : Shuffles socket socket.takeTurn.2 :=
  respects_takeTurn shuffles_turns (fun _ _ _ => shuffles_environmentStep) socket

/-! ## Housekeeping -/

theorem shuffles_allocateMany (socket : XdpSocket) (max : Nat) :
    Shuffles socket (socket.allocateMany max).2 := by
  change Shuffles socket { socket with
    rxReclaim := socket.rxReclaim
    txReclaim := (socket.txReclaim.popManyWith max).1
    held := socket.held ++ (socket.txReclaim.popManyWith max).2.map (HeldFrame.mk .tx) }
  apply shuffles_pools
  · rw [← Multiset.coe_add, framesOf_add, framesOf_map_mk, if_neg PoolKind.noConfusion, add_zero]
  · rw [← Multiset.coe_add, framesOf_add, framesOf_map_mk, if_pos rfl,
      ← socket.txReclaim.frames_popManyWith max]
    abel
  · exact .refl _
  · exact socket.txReclaim.grows_popManyWith max

theorem shuffles_rxReclaimIsEmpty (socket : XdpSocket) :
    Shuffles socket socket.rxReclaimIsEmpty.2 := by
  change Shuffles socket { socket with
    rxReclaim := socket.rxReclaim.isEmpty.1, txReclaim := socket.txReclaim, held := socket.held }
  apply shuffles_pools
  · rw [FrameReclaim.frames_isEmpty]
  · rfl
  · exact socket.rxReclaim.grows_isEmpty
  · exact .refl _

/-- Frames that do not fit in the FILL ring stay free. -/
theorem shuffles_replenishFillBatch (socket : XdpSocket) :
    Shuffles socket socket.replenishFillBatch := by
  have frames := socket.rxReclaim.frames_drainInto
  have grows := socket.rxReclaim.grows_drainInto
  rw [replenishFillBatch]
  generalize socket.rxReclaim.drainInto = drained at frames grows
  have fits := socket.fill.sync.produceMany_snd_le drained.2.length
  have entries := socket.fill.sync.entries_produceMany drained.2.length
  generalize socket.fill.sync.produceMany drained.2.length = reserved at fits entries
  have posted : (reserved.1.publish (drained.2.take reserved.2)).entries =
      socket.fill.entries ++ drained.2.take reserved.2 := by
    rw [ProducerQueue.entries_publish _ (le_trans (List.length_take_le _ _) fits), entries,
      ProducerQueue.entries_sync]
  refine ⟨⟨rfl, rfl, rfl, rfl, ?_, id⟩, ?_⟩
  · intro kind
    cases kind with
    | rx => exact grows.trans (FrameReclaim.grows_pushAll _ _)
    | tx => exact .refl _
  · simp only [receiveFrames, posted, FrameReclaim.frames_pushAll, ← frames, ← Multiset.coe_add]
    rw [← coe_take_add_drop drained.2 reserved.2]
    abel

end XdpSocket

end FastSocket.Xdp
