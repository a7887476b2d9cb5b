import FastSocket.Os.Allocate
import FastSocket.Os.PacketBuf
import FastSocket.Os.Send
import FastSocket.Packet.Receive

/-!
# Receiving on an OS socket

The Linux implementation of batch receiving.  Each slot of a socket has a message header,
an address, control data and an io vector of its own, and keeps a packet buffer from one
call to the next.  A call gives buffers to the first slots, posts them to `recvmmsg`, and
hands on the packets of the messages that are not truncated and have a source.

The kernel is a parameter: the results of the coming `recvmmsg` calls.  Data arrives in
the buffer that the io vector of the message points to.
-/

namespace FastSocket.Os

open Packet Buffer Transition

/-! ## Addresses and control data -/

def sockaddrInLen : Nat := 16

def sockaddrIn6Len : Nat := 28

def sockaddrStorageLen : Nat := 128

/-- The address in a storage of which `len` bytes are valid. -/
def socketaddrFromRaw (storage : List Byte) (len : Nat) : Option SocketAddr :=
  let family := readNe storage 0 2
  if family = afInet ∧ len ≥ sockaddrInLen then
    some (.v4 {
      ip := BitVec.ofNat 32 (fromOctets ((storage.drop 4).take 4))
      port := readBeU16 storage 2 })
  else if family = afInet6 ∧ len ≥ sockaddrIn6Len then
    some (.v6 {
      ip := BitVec.ofNat 128 (fromOctets ((storage.drop 8).take 16))
      port := readBeU16 storage 2
      flowinfo := BitVec.ofNat 32 (readNe storage 4 4)
      scopeId := BitVec.ofNat 32 (readNe storage 24 4) })
  else
    none

structure ControlMessage where
  level : Nat
  type : Nat
  data : List Byte
deriving DecidableEq, Repr

def ipprotoIp : Nat := 0

def ipPktinfo : Nat := 8

def ipprotoIpv6 : Nat := 41

def ipv6Pktinfo : Nat := 50

/-- The local address that a datagram was sent to, from the first packet info. -/
def parsePktinfoDestination : List ControlMessage → Option IpAddr
  | [] => none
  | message :: rest =>
    if message.level = ipprotoIp ∧ message.type = ipPktinfo then
      some (.v4 (BitVec.ofNat 32 (fromOctets ((message.data.drop 8).take 4))))
    else if message.level = ipprotoIpv6 ∧ message.type = ipv6Pktinfo then
      some (.v6 (BitVec.ofNat 128 (fromOctets (message.data.take 16))))
    else
      parsePktinfoDestination rest

/-! ## Slots -/

/-- A packet buffer with the vector that it was made of. -/
structure RxBuffer where
  vector : Buffer
  packet : OsPacketBufMut
deriving DecidableEq, Repr

/-- The place of a posted buffer's data. -/
structure Iovec where
  base : Option Buffer
  len : Nat
deriving DecidableEq, Repr

/-- What the kernel reports about a message, apart from its bytes and its source. -/
structure MsgHdr where
  namelen : Nat
  control : List ControlMessage
  /-- `MSG_TRUNC` in the flags. -/
  truncated : Bool
  len : Nat
deriving DecidableEq, Repr

structure RecvSlot where
  buffer : Option RxBuffer
  iov : Iovec
  hdr : MsgHdr
  name : List Byte
deriving DecidableEq, Repr

/-- A slot of `build_recv_state`. -/
def RecvSlot.new : RecvSlot :=
  { buffer := none
    iov := { base := none, len := 0 }
    hdr := { namelen := sockaddrStorageLen, control := [], truncated := false, len := 0 }
    name := List.replicate sockaddrStorageLen 0 }

/-- The receiving part of a socket. -/
structure OsUdpSocket where
  rxPool : OsPool
  layout : BufferLayout
  localPort : Word
  maxBatch : Nat
  slots : List RecvSlot
deriving DecidableEq, Repr

def OsUdpSocket.new (layout : BufferLayout) (localPort : Word) (maxBatch rxPoolMaxBuffers : Nat) :
    OsUdpSocket :=
  { rxPool := .withMaxBuffers rxPoolMaxBuffers
    layout := layout
    localPort := localPort
    maxBatch := maxBatch
    slots := List.replicate maxBatch .new }

/-! ## Posting buffers -/

/-- The slots and the pool after buffers were given to the first slots, and how many of
those have one. -/
structure Filled where
  count : Nat
  pool : OsPool
  slots : List RecvSlot

/-- Gives a buffer to each of the first slots that has none, up to the first slot for which
the pool has no buffer.  What was left in the vectors of the pool is `contents`. -/
def fillSlots (layout : BufferLayout) (contents : Buffer → List Byte) :
    Nat → OsPool → List RecvSlot → Filled
  | 0, pool, slots => { count := 0, pool := pool, slots := slots }
  | _ + 1, pool, [] => { count := 0, pool := pool, slots := [] }
  | left + 1, pool, slot :: rest =>
    match slot.buffer with
    | some _ =>
      let filled := fillSlots layout contents left pool rest
      { filled with count := filled.count + 1, slots := slot :: filled.slots }
    | none =>
      match pool.allocate with
      | (none, pool) => { count := 0, pool := pool, slots := slot :: rest }
      | (some vector, pool) =>
        let packet := OsBufferPool.allocate layout (contents vector)
        let slot := { slot with buffer := some { vector := vector, packet := packet } }
        let filled := fillSlots layout contents left pool rest
        { filled with count := filled.count + 1, slots := slot :: filled.slots }

/-- Points a slot's io vector to its buffer and resets its header; a slot without a buffer
stops the program. -/
def RecvSlot.post (slot : RecvSlot) : Except (Stop Error) RecvSlot :=
  match slot.buffer with
  | none => .error .panicked
  | some buffer =>
    .ok { slot with
      iov := { base := some buffer.vector, len := buffer.packet.layout.payloadCapacity }
      hdr := { slot.hdr with namelen := sockaddrStorageLen, control := [], truncated := false } }

/-! ## The kernel -/

/-- A message as `recvmmsg` hands it over: the bytes that it has copied and what it
reports. -/
structure KernelMessage where
  data : List Byte
  truncated : Bool
  name : List Byte
  control : List ControlMessage
deriving DecidableEq, Repr

/-- A message fits what was posted for it. -/
def KernelMessage.Fits (message : KernelMessage) (slot : RecvSlot) : Prop :=
  message.data.length ≤ slot.iov.len ∧ message.name.length ≤ sockaddrStorageLen

instance (message : KernelMessage) (slot : RecvSlot) : Decidable (message.Fits slot) :=
  inferInstanceAs (Decidable (_ ∧ _))

/-- The kernel fills the header and the address of a slot. -/
def RecvSlot.answer (slot : RecvSlot) (message : KernelMessage) : RecvSlot :=
  { slot with
    hdr := {
      namelen := message.name.length
      control := message.control
      truncated := message.truncated
      len := message.data.length }
    name := copyAt slot.name 0 message.name }

/-- Data is copied to the place of received bytes. -/
def RxBuffer.copyData (buffer : RxBuffer) (data : List Byte) : RxBuffer :=
  { buffer with
    packet := { buffer.packet with
      storage := ⟨copyAt buffer.packet.storage.vec buffer.packet.layout.dataOffset data⟩ } }

/-- A vector after the kernel has written through io vectors, of which some point to it. -/
def RxBuffer.written (buffer : RxBuffer) (writes : List (Iovec × List Byte)) : RxBuffer :=
  writes.foldl (fun buffer write =>
    if write.1.base = some buffer.vector then buffer.copyData write.2 else buffer) buffer

def RecvSlot.store (writes : List (Iovec × List Byte)) (slot : RecvSlot) : RecvSlot :=
  { slot with buffer := slot.buffer.map (·.written writes) }

/-- The writes of a `recvmmsg` call. -/
def writesOf (posted : List RecvSlot) (messages : List KernelMessage) :
    List (Iovec × List Byte) :=
  (posted.zip messages).map fun pair => (pair.1.iov, pair.2.data)

/-- The posted slots after `recvmmsg` has handed over messages. -/
def recvmmsg (posted : List RecvSlot) (messages : List KernelMessage) : List RecvSlot :=
  (List.zipWith RecvSlot.answer posted messages ++ posted.drop messages.length).map
    (RecvSlot.store (writesOf posted messages))

/-- What a `recvmmsg` call returns. -/
abbrev RecvResult :=
  Except IoErrorKind (List KernelMessage)

/-- The result of the first call that is not interrupted. -/
def retryRecv : List RecvResult → Option RecvResult
  | [] => none
  | .error .interrupted :: later => retryRecv later
  | result :: _ => some result

/-! ## Handing on -/

abbrev UdpReceive :=
  Packet.UdpReceive RxBuffer

/-- What the loop over the received slots leaves. -/
structure Reception where
  slots : List RecvSlot
  packets : List UdpReceive
  hadTruncation : Bool
  /-- Why the loop did not come to its end. -/
  stop : Option (Stop Error)
  /-- A buffer that is dropped where the loop stops. -/
  dropped : Option Buffer
deriving DecidableEq, Repr

/-- Hands on the packets of the received slots to a batch with `room` for more. -/
def receiveSlots (localPort : Word) : List RecvSlot → (room : Nat) → Reception
  | [], _ =>
    { slots := [], packets := [], hadTruncation := false, stop := none, dropped := none }
  | slot :: rest, room =>
    if slot.hdr.truncated then
      let later := receiveSlots localPort rest room
      { later with slots := slot :: later.slots, hadTruncation := true }
    else
      match socketaddrFromRaw slot.name slot.hdr.namelen with
      | none =>
        let later := receiveSlots localPort rest room
        { later with slots := slot :: later.slots }
      | some source =>
        match slot.buffer with
        | none =>
          { slots := slot :: rest, packets := [], hadTruncation := false
            stop := some .panicked, dropped := none }
        | some buffer =>
          let emptied := { slot with buffer := none }
          match buffer.packet.setReceivedLen slot.hdr.len, room with
          | (.error _, _), _ =>
            { slots := emptied :: rest, packets := [], hadTruncation := false
              stop := some (.failed .truncated), dropped := some buffer.vector }
          | (.ok _, _), 0 =>
            { slots := emptied :: rest, packets := [], hadTruncation := false
              stop := some .panicked, dropped := some buffer.vector }
          | (.ok _, packet), room + 1 =>
            let info : UdpRecvMeta := {
              source := source
              destination := parsePktinfoDestination slot.hdr.control
              destinationPort := some localPort
              ecn := none
              len := slot.hdr.len
              groStride := none }
            let later := receiveSlots localPort rest room
            { later with
              slots := emptied :: later.slots
              packets := ⟨{ buffer with packet := packet }, info⟩ :: later.packets }

/-- The result of the loop. -/
def Reception.result (reception : Reception) : Except (Stop Error) Nat :=
  match reception.stop with
  | some stop => .error stop
  | none =>
    if reception.packets.length = 0 ∧ reception.hadTruncation then
      .error (.failed .truncated)
    else
      .ok reception.packets.length

/-! ## The call -/

structure RecvOutcome where
  result : Except (Stop Error) Nat
  packets : List UdpReceive
  /-- The number of messages that `recvmmsg` was called for, if it was called. -/
  requested : Option Nat
  socket : OsUdpSocket

namespace OsUdpSocket

variable (socket : OsUdpSocket)

/-- Returns without a system call. -/
def withoutCall (result : Except (Stop Error) Nat) : RecvOutcome :=
  { result := result, packets := [], requested := none, socket := socket }

/-- Takes a buffer back that a stopped loop has dropped. -/
def reclaim : Option Buffer → OsPool
  | none => socket.rxPool
  | some buffer => socket.rxPool.push buffer

/-- The part of a call from `recvmmsg` on, after slots were posted.  It does not return
when every call is interrupted, and there is no outcome when the kernel breaks its
contract. -/
def receivePosted (calls : List RecvResult) (remaining : Nat) (posted : List RecvSlot) :
    Option RecvOutcome :=
  let rest := socket.slots.drop posted.length
  match retryRecv calls with
  | none => none
  | some (.error kind) =>
    some {
      result := if isTransient kind then .ok 0 else .error (.failed (ioErrorToCore kind))
      packets := []
      requested := some posted.length
      socket := { socket with slots := posted ++ rest } }
  | some (.ok messages) =>
    if messages.length ≤ posted.length ∧ ∀ pair ∈ posted.zip messages, pair.2.Fits pair.1 then
      let slots := recvmmsg posted messages
      let reception := receiveSlots socket.localPort (slots.take messages.length) remaining
      some {
        result := reception.result
        packets := reception.packets
        requested := some posted.length
        socket := { socket with
          rxPool := socket.reclaim reception.dropped
          slots := reception.slots ++ slots.drop messages.length ++ rest } }
    else
      none

/-- Receives packets for a batch that has room for `remaining` of them. -/
def recvImpl (contents : Buffer → List Byte) (calls : List RecvResult) (remaining : Nat) :
    Option RecvOutcome :=
  let count := min remaining socket.maxBatch
  if count = 0 then
    some (socket.withoutCall (.ok 0))
  else
    let filled := fillSlots socket.layout contents count socket.rxPool socket.slots
    let socket := { socket with rxPool := filled.pool, slots := filled.slots }
    if filled.count = 0 then
      some (socket.withoutCall (.ok 0))
    else
      match (filled.slots.take filled.count).mapM RecvSlot.post with
      | .error stop => some (socket.withoutCall (.error stop))
      | .ok posted => socket.receivePosted calls remaining posted

end OsUdpSocket

end FastSocket.Os
