import FastSocket.Packet.Ipv4Udp

/-!
# Transmit batches

The slots and items of a transmit batch, and the error of a send that stops before
the end of its batch.
-/

namespace FastSocket.Packet

universe u v w

/-- A transmit slot that a socket consumes in place. -/
inductive TxSlot (α : Type u) where
  | ready (item : α)
  | taken
deriving DecidableEq, Repr

def TxSlot.map {α : Type u} {β : Type v} (change : α → β) : TxSlot α → TxSlot β
  | .ready item => .ready (change item)
  | .taken => .taken

/-- One UDP packet submitted for transmit. -/
structure UdpTransmit (β : Type u) where
  packet : β
  destination : SocketAddr
  sourceIp : Option IpAddr
  sourcePort : Option Word
  ecn : Option EcnCodepoint
  gsoSegmentSize : Option Nat
deriving DecidableEq, Repr

/-- One packet submitted through a prepared endpoint. -/
structure UdpEndpointTransmit (β : Type u) where
  packet : β
deriving DecidableEq, Repr

/-- One IP datagram submitted for transmit, with its egress. -/
structure IpPacketTransmit (β : Type u) (ε : Type v) where
  packet : β
  egress : ε
  source : Option Ipv4Addr
  destination : Option Ipv4Addr
  hopLimit : Option Byte
  offload : BitVec 32
  tsoSegmentSize : Option Nat
deriving DecidableEq, Repr

/-- The error of a send that consumed a leading part of its batch. -/
structure SendError where
  accepted : Nat
  kind : Error
deriving DecidableEq, Repr

section MapPacket

variable {β : Type u} {γ : Type v} {ε : Type w} (change : β → γ)

def UdpTransmit.mapPacket (transmit : UdpTransmit β) : UdpTransmit γ :=
  { transmit with packet := change transmit.packet }

def UdpEndpointTransmit.mapPacket (transmit : UdpEndpointTransmit β) : UdpEndpointTransmit γ :=
  { packet := change transmit.packet }

def IpPacketTransmit.mapPacket (transmit : IpPacketTransmit β ε) : IpPacketTransmit γ ε :=
  { transmit with packet := change transmit.packet }

end MapPacket

/-- The number of leading slots that a send consumed. -/
def acceptedCount : Except SendError Nat → Nat
  | .ok accepted => accepted
  | .error failure => failure.accepted

/-- The result of a send that consumed `accepted` slots and then stopped. -/
def sendResult (accepted : Nat) : Except Error Unit → Except SendError Nat
  | .ok _ => .ok accepted
  | .error kind => .error { accepted := accepted, kind := kind }

/-- How a send ends that put the error of a slot off until the others were sent. -/
def deferredResult : Option Error → Except Error Unit
  | some kind => .error kind
  | none => .ok ()

/-- Marks the leading slots of a batch as taken. -/
def takeSlots {α : Type u} (accepted : Nat) (batch : List (TxSlot α)) : List (TxSlot α) :=
  List.replicate accepted .taken ++ batch.drop accepted

@[simp]
theorem acceptedCount_sendResult (accepted : Nat) (stop : Except Error Unit) :
    acceptedCount (sendResult accepted stop) = accepted := by
  cases stop <;> rfl

end FastSocket.Packet
