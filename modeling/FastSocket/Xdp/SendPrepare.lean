import FastSocket.Packet.Receive
import FastSocket.Xdp.EndpointHeader
import FastSocket.Xdp.PacketBuf
import FastSocket.Xdp.ParseUdp

/-!
# Preparing a slot

What the send loops do to one slot: they validate its item, write the headers in
front of the packet and describe the frame.  A slot that cannot be sent keeps its
packet; the UDP path trims the headers again that it has prepended.
-/

namespace FastSocket.Xdp

open Packet

universe u

/-! ## IP datagrams -/

structure ParsedIp where
  version : IpVersion
  len : Nat
  isFragment : Bool
deriving DecidableEq, Repr

def ipv6HeaderLen : Nat := 40

def ipv6NextHeaderFragment : Byte := 44#8

/-- The loop over IPv6 extension headers.  Every round moves the offset on, so that
the packet's length bounds the rounds. -/
def hasFragmentHeaderFrom (packet : List Byte) : (rounds : Nat) → Byte → Nat → Bool
  | 0, _, _ => false
  | rounds + 1, next, offset =>
    let skip (extensionLen : Nat) : Bool :=
      if offset + extensionLen > packet.length then false
      else hasFragmentHeaderFrom packet rounds (packet.getD offset 0) (offset + extensionLen)
    if next = ipv6NextHeaderFragment then
      true
    else if next = 0#8 ∨ next = 43#8 ∨ next = 60#8 then
      if offset + 2 > packet.length then false
      else skip (((packet.getD (offset + 1) 0).toNat + 1) * 8)
    else if next = 51#8 then
      if offset + 2 > packet.length then false
      else skip (((packet.getD (offset + 1) 0).toNat + 2) * 4)
    else
      false

def hasIpv6FragmentHeader (packet : List Byte) : Bool :=
  hasFragmentHeaderFrom packet packet.length (packet.getD 6 0) ipv6HeaderLen

def parseIpv4Datagram (packet : List Byte) : Option ParsedIp :=
  if packet.length < ipv4MinHeaderLen then
    none
  else if statedIhl packet < ipv4MinHeaderLen ∨ packet.length < statedIhl packet then
    none
  else if statedTotalLen packet < statedIhl packet ∨ statedTotalLen packet > packet.length then
    none
  else
    some {
      version := .v4
      len := statedTotalLen packet
      isFragment := readBeU16 packet 6 &&& ipv4FragmentMask ≠ 0#16 }

def parseIpv6Datagram (packet : List Byte) : Option ParsedIp :=
  if packet.length < ipv6HeaderLen then
    none
  else
    let totalLen := ipv6HeaderLen + (readBeU16 packet 4).toNat
    if totalLen > packet.length then
      none
    else
      some {
        version := .v6
        len := totalLen
        isFragment := hasIpv6FragmentHeader (packet.take totalLen) }

def parseIpDatagram (packet : List Byte) : Option ParsedIp :=
  match packet with
  | [] => none
  | byte :: _ =>
    if byte >>> 4 = 4#8 then parseIpv4Datagram packet
    else if byte >>> 4 = 6#8 then parseIpv6Datagram packet
    else none

def validTxDatagram (packet : List Byte) (ethertype : Word) : Bool :=
  match parseIpDatagram packet with
  | none => false
  | some parsed =>
    if parsed.len ≠ packet.length then
      false
    else
      match parsed.version with
      | .v4 => ethertype = ethertypeIpv4 && !parsed.isFragment
      | .v6 => ethertype = ethertypeIpv6 && !parsed.isFragment

def validateXdpIpTransmit (ifindex : IfIndex) (queueId : QueueId) (mtu : Nat)
    (tx : IpPacketTransmit XdpPacketBuf XdpEgress) : Except Error Unit :=
  if tx.egress.ifindex ≠ ifindex ∨ tx.egress.queue ≠ queueId then
    .error .noEgressRoute
  else if tx.packet.len > mtu ∨ tx.packet.len > tx.egress.mtu then
    .error .oversizeForMtu
  else if !validTxDatagram tx.packet.asSlice tx.egress.ethertype then
    .error .invalidPacket
  else if tx.packet.headroom < egressHeaderLen tx.egress then
    .error (.device .backend)
  else
    .ok ()

/-! ## UDP packets -/

/-- The source address of a packet, the socket's own unless the packet names one. -/
def ipv4SourceOf {β : Type u} (tx : UdpTransmit β) (localAddr : SocketAddrV4) :
    Except Error Ipv4Addr :=
  match tx.sourceIp with
  | some (.v4 addr) => .ok addr
  | some (.v6 _) => .error .invalidPacket
  | none => .ok localAddr.ip

/-- The headers that are prepended to a UDP payload. -/
def ipv4UdpHeadersOf (localAddr : SocketAddrV4) (ttl : Byte) (ipMtu : Nat)
    (tx : UdpTransmit XdpPacketBuf) : Except Error (List Byte) :=
  match tx.destination with
  | .v6 _ => .error .invalidPacket
  | .v4 destination =>
    match ipv4SourceOf tx localAddr with
    | .error kind => .error kind
    | .ok sourceIp =>
      let udpLen := tx.packet.len + udpHeaderLen
      let totalLen := udpLen + ipv4MinHeaderLen
      if ipMtu < ipv4MinHeaderLen + udpHeaderLen then
        .error .invalidPacket
      else if tx.packet.len > ipMtu - (ipv4MinHeaderLen + udpHeaderLen) then
        .error .oversizeForMtu
      else if totalLen > 65535 then
        .error .oversizeForMtu
      else
        .ok (writeIpv4UdpHeaders zeroHeaders
          { sourcePort := tx.sourcePort.getD localAddr.port
            destinationPort := destination.port
            source := sourceIp
            destination := destination.ip
            totalLen := BitVec.ofNat 16 totalLen
            udpLen := BitVec.ofNat 16 udpLen
            ttl := ttl
            ecn := tx.ecn })

def prepareXdpUdpTransmitInPlace (localAddr : SocketAddrV4) (ttl : Byte) (ipMtu : Nat)
    (tx : UdpTransmit XdpPacketBuf) : Except Error (UdpTransmit XdpPacketBuf) :=
  match ipv4UdpHeadersOf localAddr ttl ipMtu tx with
  | .error kind => .error kind
  | .ok headers =>
    match tx.packet.prepend headers with
    | none => .error .invalidPacket
    | some packet => .ok { tx with packet := packet }

def restorePreparedXdpUdpTransmitInPlace (tx : UdpTransmit XdpPacketBuf) :
    Except Error (UdpTransmit XdpPacketBuf) :=
  match tx.packet.trimPrefix (ipv4MinHeaderLen + udpHeaderLen) with
  | none => .error .invalidPacket
  | some packet => .ok { tx with packet := packet }

/-! ## The bodies of the send loops -/

/-- The outcome of preparing a slot: the item as it is left in the slot, and its
frame.  Endpoint sends also carry their cached header from slot to slot. -/
structure Prepared (κ α : Type u) where
  cache : κ
  item : α
  frame : Except Error XdpTxFrame

def frameResult : Option XdpTxFrame → Except Error XdpTxFrame
  | some frame => .ok frame
  | none => .error (.device .backend)

/-- The body of the loop in `send_inner`. -/
def prepareIpTransmit (ifindex : IfIndex) (queueId : QueueId) (mtu : Nat)
    (tx : IpPacketTransmit XdpPacketBuf XdpEgress) :
    Prepared Unit (IpPacketTransmit XdpPacketBuf XdpEgress) :=
  match validateXdpIpTransmit ifindex queueId mtu tx with
  | .error kind => ⟨(), tx, .error kind⟩
  | .ok _ =>
    let header := List.replicate (egressHeaderLen tx.egress) 0#8
    let written := tx.packet.prepareTxFrameWithHeader (writeEthernetHeader header tx.egress)
    ⟨(), { tx with packet := written.1 }, frameResult written.2⟩

/-- The body of the loop in `send_udp_inner`. -/
def prepareUdpTransmit (resolveUdpL2 : ResolveUdpL2) (localAddr : SocketAddrV4) (ttl : Byte)
    (routeContext : XdpRouteContext) (tx : UdpTransmit XdpPacketBuf) :
    Prepared Unit (UdpTransmit XdpPacketBuf) :=
  match tx.destination with
  | .v6 _ => ⟨(), tx, .error .invalidPacket⟩
  | .v4 destination =>
    match resolveUdpL2 destination.ip routeContext with
    | none => ⟨(), tx, .error .noEgressRoute⟩
    | some resolved =>
      match prepareXdpUdpTransmitInPlace localAddr ttl resolved.ipMtu tx with
      | .error kind => ⟨(), tx, .error kind⟩
      | .ok prepared =>
        match prepared.packet.prepareTxFrameWithHeader resolved.l2Header with
        | (packet, some frame) => ⟨(), { prepared with packet := packet }, .ok frame⟩
        | (packet, none) =>
          let unsent := { prepared with packet := packet }
          match restorePreparedXdpUdpTransmitInPlace unsent with
          | .error kind => ⟨(), unsent, .error kind⟩
          | .ok restored => ⟨(), restored, .error (.device .backend)⟩

/-- The body of the loop in `send_udp_endpoint_inner`. -/
def prepareEndpointTransmit (info : UdpEndpointInfo) (cache : XdpUdpEndpointCache)
    (tx : UdpEndpointTransmit XdpPacketBuf) :
    Prepared XdpUdpEndpointCache (UdpEndpointTransmit XdpPacketBuf) :=
  match updateXdpUdpEndpointHeader cache info tx.packet.len with
  | .error kind => ⟨cache, tx, .error kind⟩
  | .ok cache =>
    let written := tx.packet.prepareTxFrameWithHeader cache.header
    ⟨cache, { packet := written.1 }, frameResult written.2⟩

/-! ## What preparing a slot guarantees -/

/-- A frame lies in the frame of a buffer. -/
def XdpTxFrame.InBuffer (frame : XdpTxFrame) (buffer : XdpPacketBuf) : Prop :=
  ∃ frameAddr offset, buffer.frameAddr = some frameAddr ∧
    frame.descAddr = frameAddr + BitVec.ofNat 64 offset ∧
    offset + frame.len ≤ buffer.frameCapacity ∧ frame.len = frame.bytes.length

/-- A prepared frame lies in the frame of its slot's buffer, and a slot that is not
sent looks to the caller as before. -/
structure Prepares {κ α ν : Type u} (packet : α → XdpPacketBuf) (view : α → ν)
    (prepare : κ → α → Prepared κ α) : Prop where
  inBuffer : ∀ cache item frame, (prepare cache item).frame = .ok frame →
    frame.InBuffer (packet item)
  unsent : ∀ cache item kind, (prepare cache item).frame = .error kind →
    view (prepare cache item).item = view item

variable {frame : Option XdpTxFrame} {header : List Byte} {localAddr : SocketAddrV4} {ttl : Byte}
  {ipMtu : Nat} {tx prepared : UdpTransmit XdpPacketBuf}

theorem frameResult_eq_ok {prepared : XdpTxFrame} :
    frameResult frame = .ok prepared ↔ frame = some prepared := by
  cases frame <;> simp [frameResult]

theorem frameResult_eq_error {kind : Error} (failed : frameResult frame = .error kind) :
    frame = none := by
  cases frame with
  | none => rfl
  | some frame => cases failed

theorem XdpPacketBuf.inBuffer_prepareTxFrameWithHeader {buffer : XdpPacketBuf} {frame : XdpTxFrame}
    (prepared : (buffer.prepareTxFrameWithHeader header).2 = some frame) :
    frame.InBuffer buffer := by
  obtain ⟨frameAddr, offset, hasFrame, addr, inside, len, _⟩ :=
    prepareTxFrameWithHeader_of_some prepared
  exact ⟨frameAddr, offset, hasFrame, addr, inside, len⟩

theorem prepares_prepareIpTransmit (ifindex : IfIndex) (queueId : QueueId) (mtu : Nat) :
    Prepares (·.packet) (IpPacketTransmit.mapPacket XdpPacketBuf.view)
      (fun _ => prepareIpTransmit ifindex queueId mtu) := by
  constructor
  · intro _ tx frame
    fun_cases prepareIpTransmit ifindex queueId mtu tx with
    | case1 => simp
    | case2 => exact fun prepared =>
      XdpPacketBuf.inBuffer_prepareTxFrameWithHeader (frameResult_eq_ok.mp prepared)
  · intro _ tx kind
    fun_cases prepareIpTransmit ifindex queueId mtu tx with
    | case1 => simp
    | case2 =>
      intro failed
      rw [XdpPacketBuf.prepareTxFrameWithHeader_of_none (frameResult_eq_error failed)]

theorem prepares_prepareEndpointTransmit (info : UdpEndpointInfo) :
    Prepares (·.packet) (UdpEndpointTransmit.mapPacket XdpPacketBuf.view)
      (prepareEndpointTransmit info) := by
  constructor
  · intro cache tx frame
    fun_cases prepareEndpointTransmit info cache tx with
    | case1 => simp
    | case2 => exact fun prepared =>
      XdpPacketBuf.inBuffer_prepareTxFrameWithHeader (frameResult_eq_ok.mp prepared)
  · intro cache tx kind
    fun_cases prepareEndpointTransmit info cache tx with
    | case1 => simp
    | case2 =>
      intro failed
      rw [XdpPacketBuf.prepareTxFrameWithHeader_of_none (frameResult_eq_error failed)]

theorem length_ipv4UdpHeadersOf {headers : List Byte}
    (built : ipv4UdpHeadersOf localAddr ttl ipMtu tx = .ok headers) :
    headers.length = ipv4MinHeaderLen + udpHeaderLen := by
  revert built
  fun_cases ipv4UdpHeadersOf localAddr ttl ipMtu tx with
  | case6 =>
    intro built
    rw [← Except.ok.inj built, writeIpv4UdpHeaders_eq]
    rfl
  | _ => exact fun refused => nomatch refused

/-- Prepending the headers only changes the packet of a transmit. -/
theorem prepareXdpUdpTransmitInPlace_eq_ok
    (done : prepareXdpUdpTransmitInPlace localAddr ttl ipMtu tx = .ok prepared) :
    ∃ headers packet, ipv4UdpHeadersOf localAddr ttl ipMtu tx = .ok headers ∧
      tx.packet.prepend headers = some packet ∧ prepared = { tx with packet := packet } := by
  revert done
  fun_cases prepareXdpUdpTransmitInPlace localAddr ttl ipMtu tx with
  | case3 headers built packet prepended =>
    intro done
    exact ⟨headers, packet, built, prepended, (Except.ok.inj done).symm⟩
  | _ => exact fun refused => nomatch refused

/-- Restoring a prepared transmit always succeeds, and gives the packet back. -/
theorem restore_prepared
    (done : prepareXdpUdpTransmitInPlace localAddr ttl ipMtu tx = .ok prepared) :
    ∃ restored, restorePreparedXdpUdpTransmitInPlace prepared = .ok restored ∧
      restored.mapPacket XdpPacketBuf.view = tx.mapPacket XdpPacketBuf.view := by
  obtain ⟨headers, packet, built, prepended, rfl⟩ := prepareXdpUdpTransmitInPlace_eq_ok done
  obtain ⟨trimmed, trims, same⟩ := XdpPacketBuf.trimPrefix_prepend prepended
  rw [length_ipv4UdpHeadersOf built] at trims
  refine ⟨{ tx with packet := trimmed }, ?_, ?_⟩
  · rw [restorePreparedXdpUdpTransmitInPlace]
    dsimp only
    rw [trims]
  · rw [UdpTransmit.mapPacket, UdpTransmit.mapPacket, same]

/-- A transmit whose frame could not be prepared is restored. -/
theorem restore_unsent {packet : XdpPacketBuf}
    (done : prepareXdpUdpTransmitInPlace localAddr ttl ipMtu tx = .ok prepared)
    (written : prepared.packet.prepareTxFrameWithHeader header = (packet, none)) :
    ∃ restored,
      restorePreparedXdpUdpTransmitInPlace { prepared with packet := packet } = .ok restored ∧
      restored.mapPacket XdpPacketBuf.view = tx.mapPacket XdpPacketBuf.view := by
  have unchanged :=
    XdpPacketBuf.prepareTxFrameWithHeader_of_none (congrArg Prod.snd written)
  rw [written] at unchanged
  rw [show packet = prepared.packet from unchanged]
  exact restore_prepared done

theorem prepares_prepareUdpTransmit (resolveUdpL2 : ResolveUdpL2) (localAddr : SocketAddrV4)
    (ttl : Byte) (routeContext : XdpRouteContext) :
    Prepares (·.packet) (UdpTransmit.mapPacket XdpPacketBuf.view)
      (fun _ => prepareUdpTransmit resolveUdpL2 localAddr ttl routeContext) := by
  constructor
  · intro _ tx frame
    fun_cases prepareUdpTransmit resolveUdpL2 localAddr ttl routeContext tx with
    | case4 destination _ resolved _ prepared done packet sent written =>
      rintro ⟨⟩
      obtain ⟨headers, prepended, _, prepends, rfl⟩ := prepareXdpUdpTransmitInPlace_eq_ok done
      obtain ⟨sameAddr, sameCapacity, _⟩ := XdpPacketBuf.prepend_spec prepends
      have inPrepended := XdpPacketBuf.inBuffer_prepareTxFrameWithHeader
        (congrArg Prod.snd written)
      rwa [XdpTxFrame.InBuffer, sameAddr, sameCapacity] at inPrepended
    | _ => exact fun refused => nomatch refused
  · intro _ tx kind
    fun_cases prepareUdpTransmit resolveUdpL2 localAddr ttl routeContext tx with
    | case5 _ _ resolved _ prepared done packet written _ _ failed =>
      obtain ⟨restored, restores, _⟩ := restore_unsent done written
      rw [failed] at restores
      cases restores
    | case6 _ _ resolved _ prepared done packet written _ restored restores =>
      obtain ⟨_, same, view⟩ := restore_unsent done written
      rw [restores] at same
      cases same
      exact fun _ => view
    | _ => simp

end FastSocket.Xdp
