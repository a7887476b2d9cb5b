import FastSocket.Xdp.RoutedSocket

/-!
# Three ways to send a UDP payload

A payload can be sent as a datagram of its own, through a prepared endpoint, or in a
direct batch.  The first writes all headers anew, the second copies the cached ones, and
the third patches a copy of them.  For an endpoint with a fixed payload length the cached
header never changes and the patch changes nothing, so that all three emit one frame.
-/

namespace FastSocket.Xdp

open Packet Transition

/-! ## Frames that are prepared -/

/-- The datagram of an endpoint with a packet, as one to send on its own. -/
def UdpEndpointSpec.transmit (spec : UdpEndpointSpec) (packet : XdpPacketBuf) :
    UdpTransmit XdpPacketBuf :=
  { packet := packet
    destination := spec.destination
    sourceIp := spec.sourceIp
    sourcePort := spec.sourcePort
    ecn := spec.ecn
    gsoSegmentSize := none }

/-- A buffer in a UMEM frame with room for the headers in front of its packet. -/
structure XdpPacketBuf.HasRoom (buffer : XdpPacketBuf) (headerLen : Nat) : Prop where
  inUmem : buffer.frameAddr ≠ none
  headroom : ipv4MinHeaderLen + udpHeaderLen ≤ buffer.headroom
  start : headerLen ≤ buffer.start

variable {buffer : XdpPacketBuf}

theorem XdpPacketBuf.exists_prepareTxFrameWithHeader {header : List Byte}
    (inUmem : buffer.frameAddr ≠ none) (fits : header.length ≤ buffer.start) :
    ∃ frame, (buffer.prepareTxFrameWithHeader header).2 = some frame ∧
      frame.bytes = header ++ buffer.packet := by
  have isSome : ∃ frame, (buffer.prepareTxFrameWithHeader header).2 = some frame := by
    fun_cases prepareTxFrameWithHeader with
    | case1 onHeap => exact absurd onHeap inUmem
    | case2 frameAddr _ _ l2Start len outside =>
      have capacity : buffer.frameCapacity =
          buffer.start + buffer.len + buffer.back.length := by
        rw [frameCapacity, frame, List.length_append, List.length_append]
        rfl
      simp only [l2Start, len, capacity] at outside
      omega
    | case3 => exact ⟨_, rfl⟩
    | case4 frameAddr _ tooLong => exact absurd fits tooLong
  obtain ⟨frame, prepared⟩ := isSome
  obtain ⟨_, _, _, _, _, _, bytes⟩ := prepareTxFrameWithHeader_of_some prepared
  exact ⟨frame, prepared, bytes⟩

/-- Bytes that fit the headroom can be prepended. -/
theorem XdpPacketBuf.exists_prepend {bytes : List Byte} (fits : bytes.length ≤ buffer.headroom) :
    ∃ prepended, buffer.prepend bytes = some prepended ∧
      prepended.frameAddr = buffer.frameAddr ∧
      prepended.start + bytes.length = buffer.start := by
  rw [prepend, dif_pos fits]
  refine ⟨_, rfl, rfl, ?_⟩
  have lower : bytes.length ≤ buffer.start := Nat.le_trans fits (Nat.sub_le _ _)
  change (buffer.front.take (buffer.start - bytes.length)).length + bytes.length = buffer.start
  have kept : (buffer.front.take (buffer.start - bytes.length)).length =
      buffer.start - bytes.length := List.length_take_of_le (Nat.sub_le _ _)
  rw [kept, Nat.sub_add_cancel lower]

section Endpoint

variable {udp : XdpUdpConfig} {spec : UdpEndpointSpec} {cache : XdpUdpEndpointCache}
  {info : UdpEndpointInfo} {payloadLen : Nat}

/-- What is known of an endpoint for payloads of one length. -/
theorem buildCache_of_fixed (built : udp.buildCache spec = .ok (cache, info))
    (fixed : spec.payloadLen = some payloadLen) :
    ∃ destination sourceIp resolved, spec.ipv4Destination = .ok destination ∧
      spec.ipv4Source udp.localAddr = .ok sourceIp ∧
      udp.resolveUdpL2 destination.ip udp.routeContext = some resolved ∧
      info.mtu = resolved.ipMtu - (ipv4MinHeaderLen + udpHeaderLen) ∧
      info.payloadLen = some payloadLen ∧ payloadLen + 28 ≤ 65535 ∧
      cache.header = rebuiltHeader resolved.l2Header (spec.headerFields udp.localAddr udp.ttl)
        payloadLen ∧
      cache.l2Len = resolved.l2Header.length ∧ cache.routeGeneration = udp.routeGeneration ∧
      ipv4MinHeaderLen + udpHeaderLen ≤ resolved.ipMtu ∧
      validateXdpUdpEndpointPayload info payloadLen = .ok () := by
  obtain ⟨destination, sourceIp, resolved, isDestination, isSource, _, resolves, isInfo, fits,
    isCache, large, valid⟩ := buildXdpUdpEndpointCache_eq_ok built
  rw [fixed, Option.getD_some] at fits isCache valid
  subst isInfo isCache
  exact ⟨destination, sourceIp, resolved, isDestination, isSource, resolves, rfl, fixed, fits, rfl,
    rfl, rfl, large, valid⟩

variable {destination : SocketAddrV4} {packet : XdpPacketBuf}

theorem destination_of_ipv4 (isDestination : spec.ipv4Destination = .ok destination) :
    spec.destination = .v4 destination := by
  rw [UdpEndpointSpec.ipv4Destination] at isDestination
  split at isDestination
  case h_1 same =>
    cases isDestination
    exact same
  case h_2 => cases isDestination

/-- The headers of a datagram are those of its endpoint. -/
theorem ipv4UdpHeadersOf_transmit {sourceIp : Ipv4Addr} {ipMtu : Nat}
    (isDestination : spec.ipv4Destination = .ok destination)
    (isSource : spec.ipv4Source udp.localAddr = .ok sourceIp)
    (large : ipv4MinHeaderLen + udpHeaderLen ≤ ipMtu)
    (within : packet.len ≤ ipMtu - (ipv4MinHeaderLen + udpHeaderLen))
    (fits : packet.len + 28 ≤ 65535) :
    ipv4UdpHeadersOf udp.localAddr udp.ttl ipMtu (spec.transmit packet) =
      .ok (writeIpv4UdpHeaders zeroHeaders
        (spec.headerFields udp.localAddr udp.ttl packet.len)) := by
  have source : ipv4SourceOf (spec.transmit packet) udp.localAddr = .ok sourceIp := isSource
  have notOversize : ¬ (spec.transmit packet).packet.len >
      ipMtu - (ipv4MinHeaderLen + udpHeaderLen) := Nat.not_lt.mpr within
  have inRange : ¬ (spec.transmit packet).packet.len + udpHeaderLen + ipv4MinHeaderLen > 65535 := by
    change ¬ packet.len + 8 + 20 > 65535
    omega
  rw [ipv4UdpHeadersOf, show (spec.transmit packet).destination = _ from
    destination_of_ipv4 isDestination]
  dsimp only
  rw [source]
  dsimp only
  rw [if_neg (Nat.not_lt.mpr large), if_neg notOversize, if_neg inRange,
    headerFields_of_ipv4 udp.ttl packet.len isDestination isSource]
  rfl

/-- A datagram on its own is sent with the header that the endpoint caches. -/
theorem prepareUdpTransmit_transmit (built : udp.buildCache spec = .ok (cache, info))
    (fixed : spec.payloadLen = some payloadLen) (isLen : packet.len = payloadLen)
    (room : packet.HasRoom cache.header.length) :
    ∃ frame, (prepareUdpTransmit udp.resolveUdpL2 udp.localAddr udp.ttl udp.routeContext
        (spec.transmit packet)).frame = .ok frame ∧
      frame.bytes = cache.header ++ packet.packet := by
  obtain ⟨destination, sourceIp, resolved, isDestination, isSource, resolves, mtu, _, fits,
    isHeader, _, _, large, valid⟩ := buildCache_of_fixed built fixed
  have within := validateXdpUdpEndpointPayload_le valid
  rw [mtu] at within
  subst isLen
  have headers := ipv4UdpHeadersOf_transmit isDestination isSource large within fits
  have length := length_ipv4UdpHeadersOf headers
  obtain ⟨prepended, prepends, inUmem, start⟩ :=
    XdpPacketBuf.exists_prepend (length ▸ room.headroom)
  have isPacket := (XdpPacketBuf.prepend_spec prepends).2.2
  have l2Fits : resolved.l2Header.length ≤ prepended.start := by
    have fitsStart := room.start
    rw [isHeader, rebuiltHeader, List.length_append] at fitsStart
    omega
  obtain ⟨frame, isFrame, bytes⟩ :=
    XdpPacketBuf.exists_prepareTxFrameWithHeader (inUmem ▸ room.inUmem) l2Fits
  refine ⟨frame, ?_, ?_⟩
  · have inPlace : prepareXdpUdpTransmitInPlace udp.localAddr udp.ttl resolved.ipMtu
        (spec.transmit packet) = .ok (spec.transmit prepended) := by
      rw [prepareXdpUdpTransmitInPlace, headers]
      dsimp only
      rw [show (spec.transmit packet).packet = packet from rfl, prepends]
      rfl
    have written : (spec.transmit prepended).packet.prepareTxFrameWithHeader resolved.l2Header =
        ((prepended.prepareTxFrameWithHeader resolved.l2Header).1, some frame) :=
      Prod.ext rfl isFrame
    rw [prepareUdpTransmit, show (spec.transmit packet).destination = _ from
      destination_of_ipv4 isDestination]
    dsimp only
    rw [resolves]
    dsimp only
    rw [inPlace]
    dsimp only
    rw [written]
  · rw [bytes, isPacket, isHeader, rebuiltHeader, List.append_assoc]

/-- Through the endpoint a packet of the fixed length is sent with the cached header, and
the cache stays as it is whatever is sent. -/
theorem prepareEndpointTransmit_of_fixed (built : udp.buildCache spec = .ok (cache, info))
    (fixed : spec.payloadLen = some payloadLen) (isLen : packet.len = payloadLen)
    (room : packet.HasRoom cache.header.length) :
    ∃ frame, (prepareEndpointTransmit info cache { packet := packet }).frame = .ok frame ∧
      frame.bytes = cache.header ++ packet.packet := by
  obtain ⟨_, _, _, _, _, _, _, isFixed, _, _, _, _, _, valid⟩ := buildCache_of_fixed built fixed
  have unchanged : updateXdpUdpEndpointHeader cache info packet.len = .ok cache := by
    rw [updateXdpUdpEndpointHeader, isLen, valid, isFixed]
    rfl
  obtain ⟨frame, isFrame, bytes⟩ :=
    XdpPacketBuf.exists_prepareTxFrameWithHeader room.inUmem room.start
  refine ⟨frame, ?_, bytes⟩
  rw [prepareEndpointTransmit, unchanged]
  exact frameResult_eq_ok.mpr isFrame

theorem cache_prepareEndpointTransmit (isFixed : info.payloadLen = some payloadLen)
    (tx : UdpEndpointTransmit XdpPacketBuf) :
    (prepareEndpointTransmit info cache tx).cache = cache := by
  fun_cases prepareEndpointTransmit info cache tx with
  | case1 kind refused => rfl
  | case2 next updated written =>
    rcases updateXdpUdpEndpointHeader_eq_ok updated with ⟨_, _, rfl⟩ | ⟨_, varies, _⟩
    · rfl
    · rw [isFixed] at varies
      cases varies

/-- A patch to the length that a header has never loses a carry, so it changes nothing. -/
theorem unpatched_of_same (l2Header : List Byte) {fields : Nat → Ipv4UdpHeaderFields}
    (family : LengthFamily fields) (fits : payloadLen + 28 ≤ 65535) :
    patchedHeader l2Header fields payloadLen payloadLen =
      rebuiltHeader l2Header fields payloadLen :=
  (patchedHeader_eq_iff l2Header family fits fits).mpr fun loses => Nat.lt_irrefl _ loses.1

/-- The direct batch of an endpoint fits where its headers and payloads do, and emits the
cached header. -/
theorem writeFrame_of_fixed (built : udp.buildCache spec = .ok (cache, info))
    (fixed : spec.payloadLen = some payloadLen) (short : cache.l2Len + 24 < 65536) :
    ∃ batch, EndpointBatch.ofCache info cache = some batch ∧ batch.header = cache.header ∧
      (∀ payloadStart frameSize, cache.header.length ≤ payloadStart →
        payloadStart + info.mtu ≤ frameSize → batch.Admits payloadStart frameSize) ∧
      ∀ headerStart frameAddr payload, payload.length = payloadLen →
        ∃ frame, batch.writeFrame headerStart frameAddr payload = .ok frame ∧
          frame.bytes = cache.header ++ payload := by
  obtain ⟨_, _, resolved, _, _, _, mtu, isFixed, fits, isHeader, isL2Len, _, _, valid⟩ :=
    buildCache_of_fixed built fixed
  rw [isL2Len] at short
  have made := ofCache_rebuilt (spec.headerFields udp.localAddr udp.ttl) payloadLen short
  have family := lengthFamily_headerFields spec udp.localAddr udp.ttl
  have unchanged := (patch_rebuilt family made).trans (unpatched_of_same _ family fits)
  rw [← isHeader, ← isL2Len] at made unchanged
  have length : cache.header.length = resolved.l2Header.length + 28 := by
    rw [isHeader, rebuiltHeader_eq, List.length_append, length_headerBytes]
  refine ⟨_, congrArg (Option.map _) made, rfl, ?_, ?_⟩
  · intro payloadStart frameSize inFront inFrame
    refine ⟨inFront, ?_, ?_, ?_, ?_⟩
    · change payloadStart - cache.header.length + (cache.header.length + info.mtu) ≤ frameSize
      omega
    · change cache.l2Len ≤ cache.header.length
      omega
    · change max (max (_ + 2) (_ + 10)) (_ + 24) + 2 ≤ cache.header.length
      omega
    · change cache.header.length < 2 ^ 32
      omega
  · intro headerStart frameAddr payload isLen
    have expected : ¬ info.payloadLen.any (· ≠ payload.length) := by
      rw [isFixed, isLen]
      simp
    have limit : ¬ payload.length > min info.mtu (65535 - (28#16).toNat) := by
      have within := validateXdpUdpEndpointPayload_le valid
      have base : (28#16).toNat = 28 := rfl
      omega
    refine ⟨_, (if_neg expected).trans (if_neg limit), ?_⟩
    dsimp only
    rw [isLen]
    exact congrArg (· ++ payload) unchanged

end Endpoint

end FastSocket.Xdp
