import FastSocket.Async.Shutdown
import FastSocket.Packet.Transmit
import Mathlib.Data.Multiset.Bind
import Mathlib.Data.Multiset.AddSub

/-!
# The state of a socket actor

An actor task owns a UDP socket.  Applications hold cloneable handles that send it
commands through a bounded queue, and a stream of receive batches.  A socket buffer
outside of the actor is wrapped together with a lease, and the actor counts its leases.

The state holds every place where a wrapped buffer can be: the hands of the application,
futures that send a command, the command queue, replies that have not been taken, the
receive queue and the local variables of the actor.  A buffer keeps its identity when it
is frozen, so there is one type of buffers.
-/

namespace FastSocket.Async

open Packet

universe u

structure ActorConfig where
  recvBatchSize : Nat
  commandQueueCapacity : Nat
  rxQueueCapacity : Nat
  pendingTxCapacity : Nat
deriving DecidableEq, Repr

def ActorConfig.normalize (config : ActorConfig) : ActorConfig :=
  { recvBatchSize := max config.recvBatchSize 1
    commandQueueCapacity := max config.commandQueueCapacity 1
    rxQueueCapacity := max config.rxQueueCapacity 1
    pendingTxCapacity := max config.pendingTxCapacity 1 }

/-- The errors with which an actor task ends. -/
inductive AsyncUdpError where
  | io
  | socket (error : Error)
  | send (error : SendError)
deriving DecidableEq, Repr

/-- Transmit metadata applied to a batch of transmit buffers. -/
structure ActorTxMeta where
  destination : SocketAddr
  sourceIp : Option IpAddr
  sourcePort : Option Word
  ecn : Option EcnCodepoint
  gsoSegmentSize : Option Nat
deriving DecidableEq, Repr

namespace ActorTxMeta

def new (destination : SocketAddr) : ActorTxMeta :=
  { destination := destination
    sourceIp := none
    sourcePort := none
    ecn := none
    gsoSegmentSize := none }

def transmit {β : Type u} (info : ActorTxMeta) (packet : β) : UdpTransmit β :=
  { packet := packet
    destination := info.destination
    sourceIp := info.sourceIp
    sourcePort := info.sourcePort
    ecn := info.ecn
    gsoSegmentSize := info.gsoSegmentSize }

end ActorTxMeta

/-- A socket buffer together with a lease: `ActorTxBuffer`, `ActorTxPacket` or
`ActorRxPacket`. -/
inductive Wrapped (β : Type u) where
  | txBuffer (buffer : β)
  | txPacket (transmit : UdpTransmit β)
  | rxPacket (packet : β)
deriving DecidableEq

/-- A command for the actor.  A reply is named by the number of its one-shot channel. -/
inductive ActorCommand (β : Type u) where
  | allocate (max : Nat) (reply : Nat)
  | sendBuffers (buffers : List β) (info : ActorTxMeta)
  | sendPackets (packets : List (UdpTransmit β))
  | shutdown
deriving DecidableEq

namespace ActorCommand

variable {β : Type u}

/-- The packets that a command asks to send. -/
def transmits : ActorCommand β → List (UdpTransmit β)
  | .allocate _ _ => []
  | .sendBuffers buffers info => buffers.map info.transmit
  | .sendPackets packets => packets
  | .shutdown => []

def wrapped : ActorCommand β → Multiset (Wrapped β)
  | .allocate _ _ => 0
  | .sendBuffers buffers _ => ↑(buffers.map Wrapped.txBuffer)
  | .sendPackets packets => ↑(packets.map Wrapped.txPacket)
  | .shutdown => 0

/-- The reply channel whose sending half the command holds. -/
def reply? : ActorCommand β → Option Nat
  | .allocate _ reply => some reply
  | .sendBuffers _ _ => none
  | .sendPackets _ => none
  | .shutdown => none

def isShutdown : ActorCommand β → Bool
  | .shutdown => true
  | _ => false

end ActorCommand

/-- A future that sends a command.  With a permit it has a place in the queue. -/
structure Sending (β : Type u) where
  command : ActorCommand β
  permitted : Bool
deriving DecidableEq

/-- Where the actor task stands. -/
inductive Phase (β : Type u) where
  /-- At the head of the loop that takes commands. -/
  | polling
  /-- The socket is asked for buffers next. -/
  | allocating (max : Nat) (reply : Nat)
  /-- Allocated buffers are wrapped one by one. -/
  | wrapping (reply : Nat) (left wrapped : List β)
  | replying (reply : Nat) (result : Except Error (List β))
  /-- Wrapped packets of a send command are unwrapped and queued one by one. -/
  | unwrapping (left : List (UdpTransmit β))
  /-- In the loop of `flush_pending_tx`, before or after completions are drained. -/
  | flushing (second sent : Bool)
  /-- At the end of `flush_pending_tx`. -/
  | flushed (second sent : Bool)
  | draining
  | receiving
  /-- The receive batch is wrapped packet by packet. -/
  | wrappingRx (wrapped : List β)
  /-- A wrapped batch is sent to the receive stream. -/
  | delivering (batch : List β)
  | deciding
  | waiting
  /-- `run_actor_inner` has returned. -/
  | closing (result : Except AsyncUdpError Unit)
  /-- The commands left in the queue are dropped. -/
  | discarding (result : Except AsyncUdpError Unit)
  /-- In `wait_for_buffers`. -/
  | releasing (result : Except AsyncUdpError Unit)
  | returned (result : Except AsyncUdpError Unit)
deriving DecidableEq

namespace Phase

variable {β : Type u}

/-- What `run_actor_inner` returned. -/
def result? : Phase β → Option (Except AsyncUdpError Unit)
  | .closing result => some result
  | .discarding result => some result
  | .releasing result => some result
  | .returned result => some result
  | _ => none

/-- The wrapped buffers in the variables of the current phase. -/
def wrapped : Phase β → Multiset (Wrapped β)
  | .wrapping _ _ wrapped => ↑(wrapped.map Wrapped.txBuffer)
  | .replying _ (.ok buffers) => ↑(buffers.map Wrapped.txBuffer)
  | .unwrapping left => ↑(left.map Wrapped.txPacket)
  | .wrappingRx wrapped => ↑(wrapped.map Wrapped.rxPacket)
  | .delivering batch => ↑(batch.map Wrapped.rxPacket)
  | _ => 0

/-- The packets of the current send command that are still to be queued. -/
def unqueued : Phase β → List (UdpTransmit β)
  | .unwrapping left => left
  | _ => []

/-- The phases of `run_actor_inner` outside of the work on a command or a batch. -/
def Quiet (phase : Phase β) : Prop :=
  phase.wrapped = 0 ∧ phase.unqueued = [] ∧ phase.result? = none

end Phase

/-- The local variables of the actor task, with the commands it has handled and the
packets its socket has accepted. -/
structure Actor (β : Type u) where
  phase : Phase β
  progressed : Bool
  rxOpen : Bool
  commandsOpen : Bool
  shutdownRequested : Bool
  pendingTx : List (TxSlot (UdpTransmit β))
  recvBatch : List β
  /-- Wrapped buffers that the actor is about to drop. -/
  drops : Multiset (Wrapped β)
  handled : List (ActorCommand β)
  accepted : List (UdpTransmit β)
deriving DecidableEq

/-- An actor with its applications. -/
structure ActorSystem (β : Type u) where
  config : ActorConfig
  outstandingBuffers : Nat
  waiter : Waiter
  /-- Releases on other threads that have reached zero and call `notify_waiters`
  next. -/
  notifying : Nat
  handles : Nat
  sends : Multiset (Sending β)
  commands : List (ActorCommand β)
  /-- The actor has closed the command queue. -/
  commandsClosed : Bool
  nextReply : Nat
  /-- The one-shot channels whose receiving half exists. -/
  awaiting : List Nat
  /-- Replies that were sent and not yet taken. -/
  replies : Multiset (Nat × Except Error (List β))
  batches : List (List β)
  /-- The receive stream exists. -/
  rxAlive : Bool
  held : Multiset (Wrapped β)
  /-- Wrapped buffers that applications are about to drop. -/
  drops : Multiset (Wrapped β)
  actor : Actor β
deriving DecidableEq

end FastSocket.Async
