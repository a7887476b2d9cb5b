import FastSocket.Xdp.FrameBuf
import FastSocket.Xdp.ParseFrame
import FastSocket.Xdp.Reception

/-!
# The receive loops

The receive calls of the IP and the UDP socket drain descriptors out of the RX ring and
go over them in order.  The packet of a descriptor is pushed to the caller's batch, or
its frame is pushed to the pool of receive frames; a descriptor that does not lie in one
frame stops the loop.
-/

namespace FastSocket.Xdp

open Packet Buffer Spsc

universe u

/-! ## Mapped frames -/

/-- A UMEM with the bytes of its mapping, which holds at least the frames. -/
structure UmemMapping where
  umem : Umem
  backing : List Byte
  le_length : umem.frameCount * umem.frameSize ≤ backing.length

/-- The frame of a descriptor and the bytes of its packet. -/
def UmemMapping.descriptorSlice (mapping : UmemMapping) (addr : Addr) (len : Nat) :
    Option (Addr × List Byte) :=
  match mapping.umem.descriptorSlice addr len with
  | none => none
  | some (frameAddr, start, stop) =>
    if stop ≤ mapping.backing.length then
      some (frameAddr, (mapping.backing.take stop).drop start)
    else
      none

/-- What the receive loops read of a socket: its UMEM and the layout of its receive
buffers. -/
structure RxSide where
  mapping : UmemMapping
  layout : BufferLayout

def RxSide.wrapRxFrame (side : RxSide) (descAddr : Addr) (packetOffset len : Nat) :
    Option XdpPacketBufMut :=
  XdpRxPool.wrapRxFrame side.layout side.mapping.umem side.mapping.backing
    side.mapping.le_length descAddr packetOffset len

/-- The UMEM frame that a buffer keeps its packet in. -/
def umemFrame? (packet : XdpPacketBufMut) : Option Addr :=
  match packet.storage with
  | .heap _ => none
  | .umem frame => some frame.frameAddr

/-! ## One descriptor -/

/-- What becomes of a descriptor. -/
inductive RxVerdict (α : Type u) where
  | corrupt
  | recycle (frameAddr : Addr)
  | deliver (item : α)

/-- The body of the loop of the IP socket. -/
def ipVerdict (side : RxSide) (desc : XdpDesc) : RxVerdict (IpPacketReceive XdpPacketBufMut) :=
  match side.mapping.descriptorSlice desc.addr desc.len with
  | none => .corrupt
  | some (frameAddr, frame) =>
    match parseEthernetFrame frame with
    | none => .recycle frameAddr
    | some parsed =>
      if parsed.ip.isFragment then
        .recycle frameAddr
      else
        match side.wrapRxFrame desc.addr parsed.l2Len parsed.ip.len with
        | none => .recycle frameAddr
        | some packet =>
          .deliver {
            packet
            info := {
              version := parsed.ip.version
              len := parsed.ip.len
              checksum := .notChecked } }

/-- The ports that a UDP socket accepts.  A list of ports is sorted. -/
inductive XdpUdpAcceptedPorts where
  | single (accepted : Word)
  | ports (accepted : List Word)
  | range (start stop : Word)
deriving DecidableEq, Repr

def XdpUdpAcceptedPorts.accepts : XdpUdpAcceptedPorts → Word → Bool
  | .single accepted, port => port = accepted
  | .ports accepted, port => accepted.contains port
  | .range start stop, port => start ≤ port && port ≤ stop

/-- The body of the loop of the UDP socket.  A socket on the unspecified address takes
packets to any address. -/
def udpVerdict (side : RxSide) (localAddr : SocketAddrV4) (acceptedPorts : XdpUdpAcceptedPorts)
    (desc : XdpDesc) : RxVerdict (UdpReceive XdpPacketBufMut) :=
  match side.mapping.descriptorSlice desc.addr desc.len with
  | none => .corrupt
  | some (frameAddr, frame) =>
    match parseEthernetIpv4Udp frame with
    | .fragment => .recycle frameAddr
    | .drop => .recycle frameAddr
    | .udp parsed =>
      let destMatches := localAddr.ip = 0#32 ∨ parsed.destination = localAddr.ip
      if ¬ destMatches ∨ !acceptedPorts.accepts parsed.destinationPort then
        .recycle frameAddr
      else
        match side.wrapRxFrame desc.addr parsed.payloadOffset parsed.payloadLen with
        | none => .recycle frameAddr
        | some packet =>
          .deliver {
            packet
            info := {
              source := .v4 { ip := parsed.source, port := parsed.sourcePort }
              destination := some (.v4 parsed.destination)
              destinationPort := some parsed.destinationPort
              ecn := parsed.ecn
              len := parsed.payloadLen
              groStride := none } }

/-! ## The loop -/

/-- The caller's batch and the frames pushed to the pool of receive frames. -/
structure RxPass (α : Type u) where
  out : RecvBatch α
  reclaimed : List Addr

/-- The frames that an aborted loop pushes to the pool: of the failing descriptor and of
those that are still pending, as far as they lie in frames. -/
def reclaimRxDescs (umem : Umem) (failing : XdpDesc) (remaining : List XdpDesc) : List Addr :=
  (umem.frameAddrForDesc failing.addr).toList ++
    remaining.filterMap fun desc => umem.frameAddrForDesc desc.addr

/-- The loop over the drained descriptors.  It yields `none` when the batch refuses a
packet, which stops the program. -/
def receiveDescs {α : Type u} (umem : Umem) (verdict : XdpDesc → RxVerdict α) :
    List XdpDesc → (delivered : Nat) → RxPass α → Option (Except Error Nat × RxPass α)
  | [], delivered, pass => some (.ok delivered, pass)
  | desc :: rest, delivered, pass =>
    match verdict desc with
    | .corrupt =>
      some (.error ringCorruptError,
        { pass with reclaimed := pass.reclaimed ++ reclaimRxDescs umem desc rest })
    | .recycle frameAddr =>
      receiveDescs umem verdict rest delivered
        { pass with reclaimed := pass.reclaimed ++ [frameAddr] }
    | .deliver item =>
      match pass.out.push item with
      | none => none
      | some out => receiveDescs umem verdict rest (delivered + 1) { pass with out }

/-- Takes descriptors out of the RX ring, as many as the list of descriptors has capacity
for. -/
def drainRx (rx : ConsumerQueue XdpDesc) (max : Nat) : ConsumerQueue XdpDesc × List XdpDesc :=
  rx.sync.consumeMany (min max rx.capacity)

/-- The middle of the receive calls: drains as many descriptors as the batch has room for
and goes over them. -/
def receiveBatch {α : Type u} (umem : Umem) (verdict : XdpDesc → RxVerdict α)
    (rx : ConsumerQueue XdpDesc) (out : RecvBatch α) :
    Option (Except Error Nat × RxPass α) × ConsumerQueue XdpDesc :=
  let drained := drainRx rx out.remaining
  (receiveDescs umem verdict drained.2 0 { out, reclaimed := [] }, drained.1)

theorem length_drainRx_le (rx : ConsumerQueue XdpDesc) (max : Nat) :
    (drainRx rx max).2.length ≤ max :=
  (rx.sync.length_consumeMany_le _).trans (Nat.min_le_left max rx.capacity)

/-! ## Verdicts -/

variable {len : Nat} {mapping : UmemMapping} {addr frameAddr : Addr} {bytes : List Byte}

theorem wrapRxFrame_frame {side : RxSide} {descAddr : Addr} {packetOffset : Nat}
    {packet : XdpPacketBufMut}
    (wrapped : side.wrapRxFrame descAddr packetOffset len = some packet) :
    umemFrame? packet = some (side.mapping.umem.frameOf descAddr) := by
  simp only [RxSide.wrapRxFrame, XdpRxPool.wrapRxFrame] at wrapped
  split at wrapped
  · split at wrapped
    · cases wrapped
    · cases wrapped
      exact congrArg some (side.mapping.umem.sub_mod_eq_frameOf descAddr)
  · cases wrapped

theorem UmemMapping.descriptorSlice_eq_some
    (sliced : mapping.descriptorSlice addr len = some (frameAddr, bytes)) :
    ∃ start stop, mapping.umem.descriptorSlice addr len = some (frameAddr, start, stop) ∧
      bytes = (mapping.backing.take stop).drop start := by
  rw [descriptorSlice] at sliced
  split at sliced
  · cases sliced
  · rename_i frame start stop inFrame
    split at sliced
    · cases sliced
      exact ⟨start, stop, inFrame, rfl⟩
    · cases sliced

theorem UmemMapping.descriptorSlice_frame
    (sliced : mapping.descriptorSlice addr len = some (frameAddr, bytes)) :
    mapping.umem.frameAddrForDesc addr = some frameAddr ∧
      frameAddr = mapping.umem.frameOf addr := by
  obtain ⟨start, stop, inFrame, _⟩ := descriptorSlice_eq_some sliced
  have isFrame := mapping.umem.descriptorSlice_fst inFrame
  rw [Umem.descriptorSlice, Option.bind_eq_bind, Option.bind_eq_some_iff] at inFrame
  obtain ⟨found, isFound, rest⟩ := inFrame
  obtain ⟨_, _, same⟩ := Option.bind_eq_some_iff.mp rest
  cases same
  exact ⟨isFound, isFrame⟩

/-- The range of the datagram in a frame that the IP socket accepts. -/
def ipRange (frame : List Byte) : Option (Nat × Nat) :=
  match parseEthernetFrame frame with
  | none => none
  | some parsed =>
    if parsed.ip.isFragment then none else some (parsed.l2Len, parsed.ip.len)

/-- The range of the payload in a frame that the UDP socket accepts. -/
def udpRange (localAddr : SocketAddrV4) (acceptedPorts : XdpUdpAcceptedPorts)
    (frame : List Byte) : Option (Nat × Nat) :=
  match parseEthernetIpv4Udp frame with
  | .fragment => none
  | .drop => none
  | .udp parsed =>
    if ¬ (localAddr.ip = 0#32 ∨ parsed.destination = localAddr.ip) ∨
        !acceptedPorts.accepts parsed.destinationPort then
      none
    else
      some (parsed.payloadOffset, parsed.payloadLen)

/-- A verdict is that of a loop that accepts a range of a frame and wraps it. -/
inductive VerdictFollows {α : Type u} (side : RxSide) (range : List Byte → Option (Nat × Nat))
    (packetOf : α → XdpPacketBufMut) (desc : XdpDesc) : RxVerdict α → Prop
  | corrupt (outside : side.mapping.descriptorSlice desc.addr desc.len = none) :
      VerdictFollows side range packetOf desc .corrupt
  | recycle {frameAddr : Addr} {frame : List Byte}
      (sliced : side.mapping.descriptorSlice desc.addr desc.len = some (frameAddr, frame))
      (refused : ((range frame).bind fun packet =>
        side.wrapRxFrame desc.addr packet.1 packet.2) = none) :
      VerdictFollows side range packetOf desc (.recycle frameAddr)
  | deliver {frameAddr : Addr} {frame : List Byte} {item : α}
      (sliced : side.mapping.descriptorSlice desc.addr desc.len = some (frameAddr, frame))
      (wrapped : ((range frame).bind fun packet =>
        side.wrapRxFrame desc.addr packet.1 packet.2) = some (packetOf item)) :
      VerdictFollows side range packetOf desc (.deliver item)

theorem follows_ipVerdict (side : RxSide) (desc : XdpDesc) :
    VerdictFollows side ipRange IpPacketReceive.packet desc (ipVerdict side desc) := by
  rw [ipVerdict]
  split
  case h_1 outside => exact .corrupt outside
  case h_2 frameAddr frame sliced =>
    split
    case h_1 rejected =>
      apply VerdictFollows.recycle sliced
      rw [ipRange, rejected]
      rfl
    case h_2 parsed accepted =>
      have range : ipRange frame =
          if parsed.ip.isFragment then none else some (parsed.l2Len, parsed.ip.len) := by
        rw [ipRange, accepted]
      split
      case isTrue isFragment =>
        apply VerdictFollows.recycle sliced
        rw [range, if_pos isFragment]
        rfl
      case isFalse whole =>
        rw [if_neg whole] at range
        split
        case h_1 refused =>
          apply VerdictFollows.recycle sliced
          rw [range]
          exact refused
        case h_2 packet wrapped =>
          apply VerdictFollows.deliver sliced
          rw [range]
          exact wrapped

theorem follows_udpVerdict (side : RxSide) (localAddr : SocketAddrV4)
    (acceptedPorts : XdpUdpAcceptedPorts) (desc : XdpDesc) :
    VerdictFollows side (udpRange localAddr acceptedPorts) UdpReceive.packet desc
      (udpVerdict side localAddr acceptedPorts desc) := by
  rw [udpVerdict]
  split
  case h_1 outside => exact .corrupt outside
  case h_2 frameAddr frame sliced =>
    split
    case h_1 rejected =>
      apply VerdictFollows.recycle sliced
      rw [udpRange, rejected]
      rfl
    case h_2 rejected =>
      apply VerdictFollows.recycle sliced
      rw [udpRange, rejected]
      rfl
    case h_3 parsed accepted =>
      have range : udpRange localAddr acceptedPorts frame =
          if ¬ (localAddr.ip = 0#32 ∨ parsed.destination = localAddr.ip) ∨
              !acceptedPorts.accepts parsed.destinationPort then
            none
          else
            some (parsed.payloadOffset, parsed.payloadLen) := by
        rw [udpRange, accepted]
      simp only
      split
      case isTrue filtered =>
        apply VerdictFollows.recycle sliced
        rw [range, if_pos filtered]
        rfl
      case isFalse passes =>
        rw [if_neg passes] at range
        split
        case h_1 refused =>
          apply VerdictFollows.recycle sliced
          rw [range]
          exact refused
        case h_2 packet wrapped =>
          apply VerdictFollows.deliver sliced
          rw [range]
          exact wrapped

section VerdictFollows

variable {α : Type u} {side : RxSide} {range : List Byte → Option (Nat × Nat)}
  {packetOf : α → XdpPacketBufMut} {desc : XdpDesc}

theorem VerdictFollows.frame_of_recycle
    (follows : VerdictFollows side range packetOf desc (.recycle frameAddr)) :
    side.mapping.umem.frameAddrForDesc desc.addr = some frameAddr := by
  cases follows with
  | recycle sliced => exact (UmemMapping.descriptorSlice_frame sliced).1

theorem VerdictFollows.frame_of_deliver {item : α}
    (follows : VerdictFollows side range packetOf desc (.deliver item)) :
    ∃ frameAddr, side.mapping.umem.frameAddrForDesc desc.addr = some frameAddr ∧
      umemFrame? (packetOf item) = some frameAddr := by
  cases follows with
  | deliver sliced wrapped =>
    obtain ⟨found, rfl⟩ := UmemMapping.descriptorSlice_frame sliced
    obtain ⟨_, _, wrapped⟩ := Option.bind_eq_some_iff.mp wrapped
    exact ⟨_, found, wrapRxFrame_frame wrapped⟩

end VerdictFollows

end FastSocket.Xdp
