import FastSocket.Xdp.LiveSocket

/-!
# Calls that move frames

Completion draining, transmit allocation, FILL replenishment, reception and the
TX doorbell.  A call is a state program; it lets the environment run before each
read of shared state, and an error leaves the state as it is at that point.
-/

namespace FastSocket.Xdp

open Packet Spsc Transition

def ringCorruptError : Error :=
  .device .ringCorrupt

/-- A failed system call. -/
def deviceError : Error :=
  .device .backend

/-! ## Completions and allocation -/

namespace XdpSocket

variable (socket : XdpSocket)

/-- Drains the COMPLETION ring.  Completed entries are reclaimed in the two slices
in which they lie in the ring, and released whether or not one is corrupt. -/
def reclaimCompletions : Except Error Nat × XdpSocket :=
  let start := socket.completion.taken % socket.completion.capacity
  let drained := socket.completion.sync.consumeMany socket.completion.capacity
  let completed := drained.2.length
  let firstLen := min (socket.completion.capacity - start) completed
  let first := socket.completionReclaim.reclaim socket.umem (drained.2.take firstLen)
    (socket.rxReclaim, socket.txReclaim)
  let reclaimed :=
    if first.2 then first
    else socket.completionReclaim.reclaim socket.umem (drained.2.drop firstLen) first.1
  let socket := { socket with
    completion := drained.1
    rxReclaim := reclaimed.1.1
    txReclaim := reclaimed.1.2 }
  if reclaimed.2 then
    (.error ringCorruptError, socket)
  else
    (.ok completed, { socket with
      txInFlight := socket.txInFlight - completed
      txSinceCompletionDrain := 0 })

def shouldDrainTxCompletions : Bool :=
  socket.txInFlight ≥ socket.txCompletionDrainThreshold &&
    socket.txSinceCompletionDrain ≥ socket.txCompletionDrainInterval

/-- Pops transmit frames into application buffers. -/
def allocateMany (max : Nat) : Nat × XdpSocket :=
  let popped := socket.txReclaim.popManyWith max
  (popped.2.length, { socket with
    txReclaim := popped.1
    held := socket.held ++ popped.2.map (HeldFrame.mk .tx) })

end XdpSocket

def drainTxCompletionsInner : StateM XdpSocket (Except Error Nat) := do
  let _ ← interleave
  modifyGet XdpSocket.reclaimCompletions

def drainCompletionsIfTxPressure : StateM XdpSocket (Except Error Unit) := do
  let socket ← get
  if socket.shouldDrainTxCompletions then
    let drained ← drainTxCompletionsInner
    return drained.map fun _ => ()
  else
    return .ok ()

/-- The allocation loop; the first argument bounds its iterations. -/
def allocateTxLoop (max : Nat) :
    (fuel allocated : Nat) → (drainedAfterEmpty : Bool) → StateM XdpSocket (Except Error Nat)
  | 0, allocated, _ => return .ok allocated
  | fuel + 1, allocated, drainedAfterEmpty => do
      if allocated < max then
        let _ ← interleave
        let count ← modifyGet (XdpSocket.allocateMany · (max - allocated))
        if count > 0 then
          allocateTxLoop max fuel (allocated + count) false
        else if drainedAfterEmpty then
          return .ok allocated
        else
          match ← drainTxCompletionsInner with
          | .error kind => return .error kind
          | .ok 0 => return .ok allocated
          | .ok (_ + 1) => allocateTxLoop max fuel allocated true
      else
        return .ok allocated

/-- Every second iteration allocates a buffer, so that the bound is not reached. -/
def allocateTxBatchInner (max : Nat) : StateM XdpSocket (Except Error Nat) := do
  if max = 0 then
    return .ok 0
  else
    match ← drainCompletionsIfTxPressure with
    | .error kind => return .error kind
    | .ok _ => allocateTxLoop max (2 * max + 2) 0 false

/-! ## FILL and RX -/

namespace XdpSocket

variable (socket : XdpSocket)

/-- Asks whether there are free receive frames. -/
def rxReclaimIsEmpty : Bool × XdpSocket :=
  (socket.rxReclaim.isEmpty.2, { socket with rxReclaim := socket.rxReclaim.isEmpty.1 })

/-- Posts the free receive frames to the FILL ring and keeps those that do not
fit. -/
def replenishFillBatch : XdpSocket :=
  let drained := socket.rxReclaim.drainInto
  let reserved := socket.fill.sync.produceMany drained.2.length
  { socket with
    fill := reserved.1.publish (drained.2.take reserved.2)
    rxReclaim := (drained.2.drop reserved.2).foldl FrameReclaim.push drained.1 }

/-- Returns a received frame to its pool. -/
def recycleRx (frameAddr : Addr) : XdpSocket :=
  { socket with rxReclaim := socket.rxReclaim.push frameAddr }

/-- Hands a received frame to the application. -/
def deliverRx (frameAddr : Addr) : XdpSocket :=
  { socket with held := socket.held ++ [HeldFrame.mk .rx frameAddr] }

/-- Returns the frames of unprocessed descriptors to their pool, as far as the
descriptors lie in frames. -/
def reclaimRxDescs (descs : List XdpDesc) : XdpSocket :=
  (descs.filterMap fun desc => socket.umem.frameAddrForDesc desc.addr).foldl recycleRx socket

/-- The frame of a received packet that leaves room for its headers. -/
def wrapRxFrame (descAddr : Addr) (packetOffset len : Nat) : Option Addr :=
  let frameSize := BitVec.ofNat 64 socket.umem.frameSize
  let frameAddr := descAddr - descAddr % frameSize
  if socket.umem.containsFrameAddr frameAddr then
    let start := (descAddr - frameAddr).toNat + packetOffset
    if start < socket.rxL2Headroom ∨ start + len > socket.umem.frameSize then
      none
    else
      some frameAddr
  else
    none

/-- The receive loop.  `parse` yields the offset and the length of the packet in a
descriptor, or nothing when the packet is dropped. -/
def recvLoop (parse : XdpDesc → Option (Nat × Nat)) :
    List XdpDesc → (delivered : Nat) → XdpSocket → Except Error Nat × XdpSocket
  | [], delivered, socket => (.ok delivered, socket)
  | desc :: rest, delivered, socket =>
    match socket.umem.descriptorSlice desc.addr desc.len with
    | none => (.error ringCorruptError, socket.reclaimRxDescs (desc :: rest))
    | some (frameAddr, _) =>
      match (parse desc).bind fun packet =>
          socket.wrapRxFrame desc.addr packet.1 packet.2 with
      | none => recvLoop parse rest delivered (socket.recycleRx frameAddr)
      | some frame =>
        recvLoop parse rest (delivered + 1) (socket.deliverRx frame)

/-- Drains up to `remaining` RX descriptors and delivers or recycles their frames.
The result is `none` when there was no descriptor. -/
def receive (parse : XdpDesc → Option (Nat × Nat)) (remaining : Nat) :
    Except Error (Option Nat) × XdpSocket :=
  let drained := socket.rx.sync.consumeMany (min remaining socket.rx.capacity)
  let socket := { socket with rx := drained.1 }
  if drained.2.isEmpty then
    (.ok none, socket)
  else
    let received := recvLoop parse drained.2 0 socket
    (received.1.map some, received.2)

end XdpSocket

/-- Posts free receive frames, if there are any. -/
def postFreeFrames (isEmpty : Bool) : StateM XdpSocket PUnit := do
  if isEmpty then
    return ()
  else
    let _ ← interleave
    modify XdpSocket.replenishFillBatch

def replenishFill : StateM XdpSocket (Except Error Unit) := do
  let _ ← interleave
  let isEmpty ← modifyGet XdpSocket.rxReclaimIsEmpty
  postFreeFrames isEmpty
  let _ ← interleave
  let socket ← get
  if socket.fillNeedWakeup then
    let woken ← interleave
    return if woken then .ok () else .error deviceError
  else
    return .ok ()

/-- The receive calls of both socket types, which differ in the packets that they
accept. -/
def recvInner (parse : XdpDesc → Option (Nat × Nat)) (remaining : Nat) :
    StateM XdpSocket (Except Error Nat) := do
  match ← replenishFill with
  | .error kind => return .error kind
  | .ok _ =>
    let _ ← interleave
    match ← modifyGet (XdpSocket.receive · parse remaining) with
    | .error kind => return .error kind
    | .ok none => return .ok 0
    | .ok (some delivered) =>
      let posted ← replenishFill
      return posted.map fun _ => delivered

/-! ## The TX ring -/

namespace XdpSocket

variable (socket : XdpSocket)

/-- Refreshes the TX cursor and counts the free slots. -/
def txAvailable : Nat × XdpSocket :=
  (socket.tx.sync.available, { socket with tx := socket.tx.sync })

/-- Publishes descriptors in the TX ring.  The result is whether all of them found a
slot, which the code asserts. -/
def enqueueTxBatch (descs : List XdpDesc) : Bool × XdpSocket :=
  let reserved := socket.tx.produceMany descs.length
  if reserved.2 = descs.length then
    (true, { socket with
      tx := reserved.1.publish descs
      txInFlight := socket.txInFlight + descs.length
      txSinceCompletionDrain := socket.txSinceCompletionDrain + descs.length })
  else
    (false, socket)

def ringDoorbell : XdpSocket :=
  { socket with doorbells := socket.doorbells + 1 }

def setWakePending (value : Bool) : XdpSocket :=
  { socket with txWakePending := value }

end XdpSocket

/-- The free TX slots, after draining completions when there seems to be none. -/
def reserveTx : StateM XdpSocket (Except Error Nat) := do
  let _ ← interleave
  let available ← modifyGet XdpSocket.txAvailable
  if available = 0 then
    match ← drainTxCompletionsInner with
    | .error kind => return .error kind
    | .ok _ =>
      let _ ← interleave
      let available ← modifyGet XdpSocket.txAvailable
      return .ok available
  else
    return .ok available

/-- Rings the TX doorbell and remembers a failure. -/
def wakeTx : StateM XdpSocket (Except Error Unit) := do
  let woken ← interleave
  modify XdpSocket.ringDoorbell
  modify (XdpSocket.setWakePending · (!woken))
  return if woken then .ok () else .error deviceError

/-- Rings the doorbell after a commit of `accepted` descriptors, if the kernel asks
for it or an earlier doorbell failed. -/
def wakeTxIfNeeded (accepted : Nat) : StateM XdpSocket (Except Error Unit) := do
  let _ ← interleave
  let socket ← get
  if socket.txWakePending || (accepted > 0 && socket.txNeedWakeup) then
    wakeTx
  else
    return .ok ()

def notifyTx : StateM XdpSocket (Except Error Unit) :=
  wakeTx

/-! ## Rules -/

/-- A drain leaves everything but the COMPLETION ring, the pools and the counters. -/
theorem XdpSocket.reclaimCompletions_frame (socket : XdpSocket) :
    ∃ completion rxReclaim txReclaim txInFlight txSinceCompletionDrain,
      socket.reclaimCompletions.2 = { socket with
        completion := completion
        rxReclaim := rxReclaim
        txReclaim := txReclaim
        txInFlight := txInFlight
        txSinceCompletionDrain := txSinceCompletionDrain } := by
  fun_cases reclaimCompletions <;> exact ⟨_, _, _, _, _, rfl⟩

/-- A relation that the environment's turns and the moves of a reservation respect. -/
structure Reserving (R : XdpSocket → XdpSocket → Prop) : Prop where
  turn : ∀ socket : XdpSocket, R socket socket.takeTurn.2
  drain : ∀ socket : XdpSocket, R socket socket.reclaimCompletions.2
  count : ∀ socket : XdpSocket, R socket socket.txAvailable.2

/-- A relation that the moves of the doorbell respect, too.  The calls around a
submission are made of these moves, so that a preorder need only be checked for
them. -/
structure Housekeeping (R : XdpSocket → XdpSocket → Prop) : Prop extends Reserving R where
  ring : ∀ socket : XdpSocket, R socket socket.ringDoorbell
  pending : ∀ (socket : XdpSocket) (value : Bool), R socket (socket.setWakePending value)

namespace Reserving

variable {R : XdpSocket → XdpSocket → Prop} [Std.Refl R] [IsTrans XdpSocket R]
  (moves : Reserving R)

include moves

omit [Std.Refl R] [IsTrans XdpSocket R] in
theorem interleave : Follows R interleave :=
  .modifyGet moves.turn

omit [Std.Refl R] in
theorem drainTxCompletionsInner : Follows R drainTxCompletionsInner :=
  .bind moves.interleave fun _ => .modifyGet moves.drain

theorem drainCompletionsIfTxPressure : Follows R drainCompletionsIfTxPressure :=
  .bind .get fun _ => .ite (.bind moves.drainTxCompletionsInner fun _ => .pure _) (.pure _)

theorem reserveTx : Follows R reserveTx := by
  refine .bind moves.interleave fun _ => .bind (.modifyGet moves.count) fun _ =>
    .ite (.bind moves.drainTxCompletionsInner ?_) (.pure _)
  rintro (kind | _)
  · exact .pure _
  · exact .bind moves.interleave fun _ => .bind (.modifyGet moves.count) fun _ => .pure _

end Reserving

namespace Housekeeping

variable {R : XdpSocket → XdpSocket → Prop} [Std.Refl R] [IsTrans XdpSocket R]
  (moves : Housekeeping R)

include moves

theorem wakeTx : Follows R wakeTx :=
  .bind moves.interleave fun _ => .bind (.modify moves.ring) fun _ =>
    .bind (.modify fun _ => moves.pending _ _) fun _ => .pure _

theorem wakeTxIfNeeded (accepted : Nat) : Follows R (wakeTxIfNeeded accepted) :=
  .bind moves.interleave fun _ => .bind .get fun _ => .ite moves.wakeTx (.pure _)

end Housekeeping

end FastSocket.Xdp
