import FastSocket.Transition.Parties
import FastSocket.Transition.Run
import FastSocket.Xdp.OpenSocket
import FastSocket.Xdp.SubmitFlow

/-!
# The members of an aggregate

Sockets over one UMEM, driven by one thread.  A buffer belongs to the pool of one
member, but any member may send it; while a send runs, the buffers of its batch are
with it and not with the application.
-/

namespace FastSocket.Xdp

open Packet Spsc Transition

variable {κ α : Type}

/-- A frame in a buffer of a member. -/
structure OwnedFrame where
  member : Nat
  buffer : HeldFrame
deriving DecidableEq, Repr

def XdpPacketBuf.View.owned? (view : XdpPacketBuf.View) : Option OwnedFrame :=
  view.frameAddr.map fun frame => { member := view.member, buffer := ⟨view.pool, frame⟩ }

/-- The UMEM frame of a buffer, with its owner. -/
def XdpPacketBuf.owned? (buffer : XdpPacketBuf) : Option OwnedFrame :=
  buffer.view.owned?

/-- The UMEM frame of the packet in a slot. -/
def slotFrame? (packet : α → XdpPacketBuf) : TxSlot α → Option OwnedFrame
  | .ready item => (packet item).owned?
  | .taken => none

def slotFrames (packet : α → XdpPacketBuf) (batch : List (TxSlot α)) : List OwnedFrame :=
  batch.filterMap (slotFrame? packet)

/-- The buffer in a slot spans a frame of the UMEM or lies on the heap. -/
def SpansFrame (umem : Umem) (packet : α → XdpPacketBuf) (slot : TxSlot α) : Prop :=
  match slot with
  | .ready item => (packet item).frameAddr = none ∨ (packet item).frameCapacity = umem.frameSize
  | .taken => True

instance (umem : Umem) (packet : α → XdpPacketBuf) (slot : TxSlot α) :
    Decidable (SpansFrame umem packet slot) :=
  match slot with
  | .ready _ => inferInstanceAs (Decidable (_ ∨ _))
  | .taken => .isTrue trivial

/-- Drops a buffer on the thread of its socket. -/
def XdpSocket.dropBuffer (socket : XdpSocket) (buffer : HeldFrame) : XdpSocket :=
  { socket.setPool buffer.pool ((socket.pool buffer.pool).push buffer.frame) with
    held := socket.held.erase buffer }

/-- A buffer leaves the application. -/
def XdpSocket.lend (socket : XdpSocket) (buffer : HeldFrame) : XdpSocket :=
  { socket with held := socket.held.erase buffer }

/-- A buffer comes back to the application. -/
def XdpSocket.takeBack (socket : XdpSocket) (buffer : HeldFrame) : XdpSocket :=
  { socket with held := socket.held ++ [buffer] }

abbrev Members :=
  List XdpSocket

namespace Members

variable (members : Members)

/-- The state after a change of one member that holds a buffer. -/
def withHeld (member : Nat) (buffer : HeldFrame) (change : XdpSocket → HeldFrame → XdpSocket) :
    Option Members := do
  let socket ← members[member]?
  if buffer ∈ socket.held then
    return members.set member (change socket buffer)
  else
    none

/-- Hands the buffers of a batch to a send, if the application holds them. -/
def borrow : List OwnedFrame → Members → Option Members
  | [], members => some members
  | owned :: rest, members => do
      let members ← members.withHeld owned.member owned.buffer XdpSocket.lend
      borrow rest members

/-- Gives the buffers of the slots that a send leaves back to the application. -/
def giveBack : List OwnedFrame → Members → Members
  | [], members => members
  | owned :: rest, members =>
    giveBack rest (members.modify owned.member (XdpSocket.takeBack · owned.buffer))

/-- A call on one member, under a script of the environment. -/
def call {β : Type} (member : Nat) (turns : List Turn) (program : StateM XdpSocket β) :
    Option (β × Members) := do
  let socket ← members[member]?
  let ended := program.run { socket with turns := turns }
  return (ended.1, members.set member ended.2)

/-- A send call on one member; a call that stops the program has no next state. -/
def send (member : Nat) (turns : List Turn) (packet : α → XdpPacketBuf) (batch : List (TxSlot α))
    (program : StateM XdpSocket (Option (SendOutcome κ α))) : Option Members := do
  let socket ← members[member]?
  if ∀ slot ∈ batch, SpansFrame socket.umem packet slot then
    let lent ← borrow (slotFrames packet batch) members
    let ended ← call lent member turns program
    let outcome ← ended.1
    return giveBack (slotFrames packet outcome.batch) ended.2
  else
    none

end Members

/-- An endpoint as `prepare_xdp_udp_endpoint` makes it, whose cached header is not
empty. -/
def XdpUdpEndpoint.HasHeader (endpoint : XdpUdpEndpoint) : Prop :=
  ∀ cache ∈ endpoint.cached, cache.header ≠ []

instance (endpoint : XdpUdpEndpoint) : Decidable endpoint.HasHeader :=
  inferInstanceAs (Decidable (∀ cache ∈ endpoint.cached, cache.header ≠ []))

/-- A step of the system: the environment of a member acts, the application drops a
buffer or makes a call. -/
inductive MemberAction where
  | environment (member : Nat) (action : EnvironmentAction)
  | drop (member : Nat) (buffer : HeldFrame)
  | allocateTxBatch (member max : Nat) (turns : List Turn)
  | recv (member : Nat) (parse : XdpDesc → Option (Nat × Nat)) (remaining : Nat)
      (turns : List Turn)
  | drainTxCompletions (member : Nat) (turns : List Turn)
  | notifyTx (member : Nat) (turns : List Turn)
  | send (member : Nat) (ifindex : IfIndex) (queueId : QueueId) (mtu : Nat)
      (batch : List (TxSlot (IpPacketTransmit XdpPacketBuf XdpEgress))) (turns : List Turn)
  | sendUdp (member : Nat) (udp : XdpUdpConfig) (batch : List (TxSlot (UdpTransmit XdpPacketBuf)))
      (turns : List Turn)
  | sendToUdpEndpoint (member : Nat) (udp : XdpUdpConfig) (endpoint : XdpUdpEndpoint)
      (batch : List (TxSlot (UdpEndpointTransmit XdpPacketBuf))) (turns : List Turn)

/-- One step, if it is enabled. -/
def Members.step : Step Members MemberAction
  | members, .environment member action => do
      let socket ← members[member]?
      let next ← socket.environmentStep action
      return members.set member next
  | members, .drop member buffer => members.withHeld member buffer XdpSocket.dropBuffer
  | members, .allocateTxBatch member max turns =>
    (members.call member turns (allocateTxBatchInner max)).map Prod.snd
  | members, .recv member parse remaining turns =>
    (members.call member turns (recvInner parse remaining)).map Prod.snd
  | members, .drainTxCompletions member turns =>
    (members.call member turns drainTxCompletionsInner).map Prod.snd
  | members, .notifyTx member turns => (members.call member turns Xdp.notifyTx).map Prod.snd
  | members, .send member ifindex queueId mtu batch turns =>
    members.send member turns (·.packet) batch (sendInner ifindex queueId mtu batch)
  | members, .sendUdp member udp batch turns =>
    members.send member turns (·.packet) batch (sendUdpInner udp batch)
  | members, .sendToUdpEndpoint member udp endpoint batch turns =>
    if endpoint.HasHeader then
      members.send member turns (·.packet) batch (sendUdpEndpointInner udp endpoint batch)
    else
      none

end FastSocket.Xdp
