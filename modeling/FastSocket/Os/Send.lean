import FastSocket.Packet.Transmit

/-!
# Sending on an OS socket

The two implementations of batch sending: the Linux one, which hands chunks of the
batch to `sendmmsg`, and the one of the other systems, which sends packet by packet.
The kernel is a parameter: what becomes of a datagram is a function of the datagram,
and a list says which of the coming calls a signal interrupts.
-/

namespace FastSocket.Os

open Packet

/-! ## The kernel -/

/-- The kinds of I/O errors that the sockets tell apart. -/
inductive IoErrorKind where
  | wouldBlock
  | timedOut
  | interrupted
  | invalidInput
  | addrNotAvailable
  | networkUnreachable
  | hostUnreachable
  | connectionRefused
  | connectionReset
  | other
deriving DecidableEq, Repr

def isTransient : IoErrorKind → Bool
  | .wouldBlock => true
  | .timedOut => true
  | .interrupted => true
  | _ => false

def ioErrorToCore : IoErrorKind → Error
  | .wouldBlock => .wouldBlock
  | .timedOut => .wouldBlock
  | .interrupted => .wouldBlock
  | .invalidInput => .oversizeForMtu
  | .addrNotAvailable => .noEgressRoute
  | .networkUnreachable => .noEgressRoute
  | .hostUnreachable => .noEgressRoute
  | .connectionRefused => .device .fdClosed
  | .connectionReset => .device .fdClosed
  | .other => .device .backend

/-- What a send call hands to the kernel. -/
structure Datagram where
  destination : SocketAddr
  payload : List Byte
deriving DecidableEq, Repr

/-- The state of the kernel: which of the coming calls are interrupted, none once
the list is used up, and the datagrams that were sent. -/
structure Kernel where
  interruptions : List Bool
  sent : List Datagram
deriving DecidableEq, Repr

/-- How the kernel treats datagrams. -/
structure Delivery where
  /-- The error that sending a datagram gives, if it gives one. -/
  failure : Datagram → Option IoErrorKind
  /-- The most messages that one `sendmmsg` sends. -/
  limit : Nat

namespace Kernel

variable (delivery : Delivery)

/-- A call that an interruption precedes. -/
def interruptible {α : Type} (call : Kernel → Except IoErrorKind α × Kernel)
    (kernel : Kernel) : Except IoErrorKind α × Kernel :=
  match kernel.interruptions with
  | [] => call kernel
  | true :: later => (.error .interrupted, { kernel with interruptions := later })
  | false :: later => call { kernel with interruptions := later }

/-- Sends one datagram, as `sendmsg` and `sendto` do. -/
def sendmsg (message : Datagram) : Kernel → Except IoErrorKind Unit × Kernel :=
  interruptible fun kernel =>
    match delivery.failure message with
    | some kind => (.error kind, kernel)
    | none => (.ok (), { kernel with sent := kernel.sent ++ [message] })

/-- The messages that one `sendmmsg` sends: up to the first failure or the limit. -/
def sendable (messages : List Datagram) : List Datagram :=
  (messages.takeWhile fun message => (delivery.failure message).isNone).take delivery.limit

/-- Sends messages and counts them.  An error is reported only for the first
one. -/
def sendmmsg (messages : List Datagram) : Kernel → Except IoErrorKind Nat × Kernel :=
  interruptible fun kernel =>
    match messages.head?.bind delivery.failure with
    | some kind => (.error kind, kernel)
    | none =>
      (.ok (sendable delivery messages).length,
        { kernel with sent := kernel.sent ++ sendable delivery messages })

end Kernel

/-! ## Slots -/

abbrev Slot :=
  TxSlot (UdpTransmit (List Byte))

def hasUnsupportedTxOptions (tx : UdpTransmit (List Byte)) : Bool :=
  tx.sourceIp.isSome || tx.ecn.isSome || tx.gsoSegmentSize.isSome

/-- The datagram of a slot that passes the checks which both implementations
make. -/
def validate (mtu : Nat) : Slot → Except Error Datagram
  | .taken => .error .invalidBatch
  | .ready tx =>
    if tx.packet.length > mtu then
      .error .oversizeForMtu
    else if hasUnsupportedTxOptions tx then
      .error .invalidPacket
    else
      .ok { destination := tx.destination, payload := tx.packet }

/-- Marks slots from a position on as taken. -/
def takeSlots (batch : List Slot) (start count : Nat) : List Slot :=
  batch.take start ++ ((batch.drop start).take count).map (fun _ => .taken) ++
    batch.drop (start + count)

/-! ## Sending in chunks -/

/-- The length of the longest valid chunk of at most `max` slots; an invalid slot at
its head is an error. -/
def scanChunk (mtu : Nat) : (slots : List Slot) → (max chunkLen : Nat) → Except Error Nat
  | _, 0, chunkLen => .ok chunkLen
  | [], _ + 1, chunkLen => .ok chunkLen
  | slot :: rest, max + 1, chunkLen =>
    match validate mtu slot with
    | .ok _ => scanChunk mtu rest max (chunkLen + 1)
    | .error kind => if chunkLen = 0 then .error kind else .ok chunkLen

/-- The messages of a validated chunk. -/
def chunkMessages (mtu : Nat) (chunk : List Slot) : List Datagram :=
  chunk.filterMap fun slot => (validate mtu slot).toOption

/-- Repeats a call while it is interrupted; `none` when the fuel runs out. -/
def retry {α : Type} (call : Kernel → Except IoErrorKind α × Kernel) :
    (fuel : Nat) → Kernel → Option (Except IoErrorKind α × Kernel)
  | 0, _ => none
  | fuel + 1, kernel =>
    match call kernel with
    | (.error .interrupted, kernel) => retry call fuel kernel
    | result => some result

/-- What a send returns: its result and the batch and kernel it leaves. -/
abbrev SendOutcome :=
  Except SendError Nat × List Slot × Kernel

/-- The return of a send that an I/O error stops: a transient one is no error. -/
def stopAt (accepted : Nat) (kind : IoErrorKind) : Except SendError Nat :=
  if isTransient kind then .ok accepted
  else .error { accepted := accepted, kind := ioErrorToCore kind }

/-- How the send of a chunk ends. -/
inductive ChunkEnd where
  | returns (outcome : SendOutcome)
  | continues (accepted : Nat) (batch : List Slot) (kernel : Kernel)

/-- Sends the messages of a chunk.  A short `sendmmsg` leaves a next message and does
not tell why, so that one is sent alone.  The result is `none` when the fuel of a
repeated call runs out. -/
def sendChunk (delivery : Delivery) (messages : List Datagram) (fuel accepted : Nat)
    (batch : List Slot) (kernel : Kernel) : Option ChunkEnd :=
  match retry (Kernel.sendmmsg delivery messages) fuel kernel with
  | none => none
  | some (.error kind, kernel) => some (.returns (stopAt accepted kind, batch, kernel))
  | some (.ok sent, kernel) =>
    let batch := takeSlots batch accepted sent
    let accepted := accepted + sent
    match messages[sent]? with
    | none => some (.continues accepted batch kernel)
    | some message =>
      match retry (Kernel.sendmsg delivery message) fuel kernel with
      | none => none
      | some (.ok _, kernel) =>
        some (.continues (accepted + 1) (takeSlots batch accepted 1) kernel)
      | some (.error kind, kernel) => some (.returns (stopAt accepted kind, batch, kernel))

/-- The loop of the Linux implementation; `none` when the fuel runs out. -/
def sendChunks (delivery : Delivery) (mtu maxBatch : Nat) :
    (fuel accepted : Nat) → List Slot → Kernel → Option SendOutcome
  | 0, _, _, _ => none
  | fuel + 1, accepted, batch, kernel =>
    if accepted < batch.length then
      let maxChunkLen := min (batch.length - accepted) maxBatch
      match scanChunk mtu (batch.drop accepted) maxChunkLen 0 with
      | .error kind => some (.error { accepted := accepted, kind := kind }, batch, kernel)
      | .ok chunkLen =>
        let messages := chunkMessages mtu ((batch.drop accepted).take chunkLen)
        match sendChunk delivery messages (fuel + 1) accepted batch kernel with
        | none => none
        | some (.returns outcome) => some outcome
        | some (.continues accepted batch kernel) =>
          sendChunks delivery mtu maxBatch fuel accepted batch kernel
    else
      some (.ok accepted, batch, kernel)

/-- Sends a batch on Linux. -/
def sendImplLinux (delivery : Delivery) (mtu maxBatch fuel : Nat) (batch : List Slot)
    (kernel : Kernel) : Option SendOutcome :=
  sendChunks delivery mtu maxBatch fuel 0 batch kernel

/-! ## Sending one by one -/

/-- The loop over the slots that are left. -/
def sendEach (delivery : Delivery) (mtu : Nat) :
    (accepted : Nat) → List Slot → Kernel → SendOutcome
  | accepted, [], kernel => (.ok accepted, [], kernel)
  | accepted, slot :: rest, kernel =>
    match validate mtu slot with
    | .error kind => (.error { accepted := accepted, kind := kind }, slot :: rest, kernel)
    | .ok message =>
      match Kernel.sendmsg delivery message kernel with
      | (.ok _, kernel) =>
        let (result, rest, kernel) := sendEach delivery mtu (accepted + 1) rest kernel
        (result, .taken :: rest, kernel)
      | (.error kind, kernel) => (stopAt accepted kind, slot :: rest, kernel)

/-- Sends a batch on the other systems. -/
def sendImplPerPacket (delivery : Delivery) (mtu : Nat) (batch : List Slot) (kernel : Kernel) :
    SendOutcome :=
  sendEach delivery mtu 0 batch kernel

end FastSocket.Os
