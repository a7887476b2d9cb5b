import FastSocket.Xdp.ParseUdp

/-!
# Built frames are parsed back

The receive path reads from a frame what the transmit path wrote into it: an
Ethernet header with an optional VLAN tag, the IPv4 and UDP headers, the payload and
whatever the link adds behind it.
-/

namespace FastSocket.Packet

open OnesComplement

/-- The ones' complement sum of the words of an IPv4 header. -/
def onesComplementSum (header : List Byte) : Nat :=
  foldAll (2 ^ 16) (sumWords header)

theorem toNat_rebuiltChecksum (fields : Ipv4UdpHeaderFields) :
    (rebuiltChecksum fields).toNat =
      2 ^ 16 - 1 - foldAll (2 ^ 16) (fixedSum fields + fields.totalLen.toNat) := by
  have small := foldAll_lt (by decide : 2 ≤ 2 ^ 16) (fixedSum fields + fields.totalLen.toNat)
  rw [rebuiltChecksum, BitVec.toNat_not, BitVec.toNat_ofNat, Nat.mod_eq_of_lt small]

theorem fixedSum_pos (fields : Ipv4UdpHeaderFields) : 0 < fixedSum fields := by
  simp only [fixedSum, List.cons_append, sumWords, toNat_fromBeBytes]
  have version : (0x45#8).toNat = 69 := rfl
  omega

/-- A written header sums to all ones. -/
theorem onesComplementSum_writeIpv4UdpHeaders (fields : Ipv4UdpHeaderFields) :
    onesComplementSum ((writeIpv4UdpHeaders zeroHeaders fields).take ipv4MinHeaderLen) =
      0xffff := by
  have positive := fixedSum_pos fields
  have small := foldAll_lt (by decide : 2 ≤ 2 ^ 16) (fixedSum fields + fields.totalLen.toNat)
  have residue := foldAll_modEq (by decide : 2 ≤ 2 ^ 16) (fixedSum fields + fields.totalLen.toNat)
  rw [onesComplementSum, writeIpv4UdpHeaders_eq, sumWords_headerBytes, toNat_rebuiltChecksum,
    foldAll_eq_iff (by decide) (by omega) (by decide) (by decide)]
  generalize fixedSum fields + fields.totalLen.toNat = sum at positive small residue
  generalize foldAll (2 ^ 16) sum = folded at small residue
  calc
    0xffff = folded + (2 ^ 16 - 1 - folded) := by omega
    _ ≡ sum + (2 ^ 16 - 1 - folded) [MOD 2 ^ 16 - 1] := residue.add_right _

end FastSocket.Packet

namespace FastSocket.Xdp

open Packet

/-- The header fields of a datagram with a payload of the given length. -/
def udpHeaderFields (source destination : SocketAddrV4) (ttl : Byte) (ecn : Option EcnCodepoint)
    (payloadLen : Nat) : Ipv4UdpHeaderFields :=
  { sourcePort := source.port
    destinationPort := destination.port
    source := source.ip
    destination := destination.ip
    totalLen := BitVec.ofNat 16 (ipv4MinHeaderLen + udpHeaderLen + payloadLen)
    udpLen := BitVec.ofNat 16 (udpHeaderLen + payloadLen)
    ttl := ttl
    ecn := ecn }

/-- The valid bytes of an L2 header. -/
def l2Bytes (egress : XdpEgress) : List Byte :=
  (buildEthernetHeader egress).1.take (buildEthernetHeader egress).2

theorem addrOfOctets_octets (addr : Ipv4Addr) :
    addrOfOctets (BitVec.ofNat 8 (addr.toNat / 2 ^ 24)) (BitVec.ofNat 8 (addr.toNat / 2 ^ 16))
      (BitVec.ofNat 8 (addr.toNat / 2 ^ 8)) (BitVec.ofNat 8 addr.toNat) = addr := by
  have bound := addr.isLt
  apply BitVec.eq_of_toNat_eq
  simp only [addrOfOctets, BitVec.toNat_ofNat]
  omega

theorem ecnFromBits_ecnBits (ecn : Option EcnCodepoint) :
    ecnFromBits (ecnBits ecn &&& 0x03#8) = some (ecn.getD .notEct) := by
  cases ecn with
  | none => decide
  | some codepoint => cases codepoint <;> decide

/-! ## The datagram -/

section Datagram

variable (fields : Ipv4UdpHeaderFields) (checksum : Word) (rest : List Byte)

theorem statedIhl_headerBytes :
    statedIhl (headerBytes fields checksum ++ rest) = ipv4MinHeaderLen := by
  change (0x45#8 &&& 0x0f#8).toNat * 4 = 20
  decide

theorem statedTotalLen_headerBytes :
    statedTotalLen (headerBytes fields checksum ++ rest) = fields.totalLen.toNat :=
  congrArg BitVec.toNat (fromBeBytes_hiByte_loByte fields.totalLen)

theorem statedUdpLen_headerBytes :
    statedUdpLen (headerBytes fields checksum ++ rest) = fields.udpLen.toNat := by
  rw [statedUdpLen, statedIhl_headerBytes]
  exact congrArg BitVec.toNat (fromBeBytes_hiByte_loByte fields.udpLen)

theorem isUdpPacket_headerBytes : IsUdpPacket (headerBytes fields checksum ++ rest) := by
  refine ⟨?_, ?_, ?_, ?_, rfl⟩
  · rw [List.length_append]
    exact Nat.le_add_right_of_le (by decide : 20 ≤ 28)
  · change 0x45#8 >>> 4 = 4#8
    decide
  · rw [statedIhl_headerBytes]
  · change fromBeBytes 0 0 &&& ipv4FragmentMask = 0#16
    decide

theorem datagramOf_headerBytes :
    datagramOf (headerBytes fields checksum ++ rest) =
      { source := fields.source
        destination := fields.destination
        sourcePort := fields.sourcePort
        destinationPort := fields.destinationPort
        ipLen := fields.totalLen.toNat
        payloadOffset := ipv4MinHeaderLen + udpHeaderLen
        payloadLen := fields.udpLen.toNat - udpHeaderLen
        ecn := some (fields.ecn.getD .notEct) } := by
  have source : readAddr (headerBytes fields checksum ++ rest) 12 = fields.source :=
    addrOfOctets_octets fields.source
  have destination : readAddr (headerBytes fields checksum ++ rest) 16 = fields.destination :=
    addrOfOctets_octets fields.destination
  have sourcePort : readBeU16 (headerBytes fields checksum ++ rest) 20 = fields.sourcePort :=
    fromBeBytes_hiByte_loByte fields.sourcePort
  have destinationPort :
      readBeU16 (headerBytes fields checksum ++ rest) 22 = fields.destinationPort :=
    fromBeBytes_hiByte_loByte fields.destinationPort
  have ecn : ecnFromBits ((headerBytes fields checksum ++ rest).getD 1 0 &&& 0x03#8) =
      some (fields.ecn.getD .notEct) :=
    ecnFromBits_ecnBits fields.ecn
  rw [datagramOf, statedIhl_headerBytes, statedTotalLen_headerBytes, statedUdpLen_headerBytes,
    source, destination, ecn, ipv4MinHeaderLen, sourcePort, destinationPort]

end Datagram

theorem lengthsFit_headerBytes {fields : Ipv4UdpHeaderFields} {checksum : Word}
    {rest : List Byte} (udp : udpHeaderLen ≤ fields.udpLen.toNat)
    (total : fields.totalLen.toNat = ipv4MinHeaderLen + fields.udpLen.toNat)
    (inside : fields.udpLen.toNat ≤ udpHeaderLen + rest.length) :
    LengthsFit (headerBytes fields checksum ++ rest) := by
  have length : (headerBytes fields checksum ++ rest).length =
      ipv4MinHeaderLen + udpHeaderLen + rest.length := by
    rw [List.length_append]
    rfl
  constructor
  · rw [statedIhl_headerBytes, statedTotalLen_headerBytes]
    omega
  · rw [statedTotalLen_headerBytes, length]
    omega
  · rw [statedUdpLen_headerBytes]
    exact udp
  · rw [statedIhl_headerBytes, statedTotalLen_headerBytes, statedUdpLen_headerBytes, total]

/-! ## The frame -/

variable {egress : XdpEgress}

theorem l2Bytes_untagged (untagged : egress.vlan = none) :
    l2Bytes egress =
      egress.dstMac.octets ++ egress.srcMac.octets ++ toBeBytes egress.ethertype := by
  rw [l2Bytes, buildEthernetHeader, egressHeaderLen, writeEthernetHeader, untagged]
  rfl

theorem l2Bytes_tagged {tag : Word} (tagged : egress.vlan = some tag) :
    l2Bytes egress = egress.dstMac.octets ++ egress.srcMac.octets ++
      (toBeBytes vlanEthertype ++ toBeBytes tag ++ toBeBytes egress.ethertype) := by
  rw [l2Bytes, buildEthernetHeader, egressHeaderLen, writeEthernetHeader, tagged]
  rfl

/-- An IPv4 packet is parsed behind the header that was built for it. -/
theorem parseEthernetIpv4Udp_l2Bytes (isIpv4 : egress.ethertype = ethertypeIpv4)
    (packet : List Byte) :
    parseEthernetIpv4Udp (l2Bytes egress ++ packet) =
      (parseIpv4UdpDatagram packet).behind (egressHeaderLen egress) := by
  cases tagging : egress.vlan with
  | none =>
    rw [l2Bytes_untagged tagging, isIpv4, egressHeaderLen, tagging]
    generalize frame : egress.dstMac.octets ++ egress.srcMac.octets ++ toBeBytes ethertypeIpv4 ++
      packet = bytes
    have length : ¬ bytes.length < ethernetHeaderLen := by
      rw [← frame, List.length_append]
      exact Nat.not_lt.mpr (Nat.le_add_right 14 _)
    have outer : readBeU16 bytes 12 = ethertypeIpv4 := by
      rw [← frame]
      exact fromBeBytes_hiByte_loByte ethertypeIpv4
    have behind : bytes.drop ethernetHeaderLen = packet := by
      rw [← frame]
      rfl
    rw [parseEthernetIpv4Udp, if_neg length, outer, if_neg (by decide), parseBehind,
      if_neg (by decide), behind]
    rfl
  | some tag =>
    rw [l2Bytes_tagged tagging, isIpv4, egressHeaderLen, tagging]
    generalize frame : egress.dstMac.octets ++ egress.srcMac.octets ++
      (toBeBytes vlanEthertype ++ toBeBytes tag ++ toBeBytes ethertypeIpv4) ++ packet = bytes
    have length : vlanHeaderLen ≤ bytes.length := by
      rw [← frame, List.length_append]
      exact Nat.le_add_right 18 _
    have shorter : ethernetHeaderLen ≤ vlanHeaderLen := by decide
    have outer : readBeU16 bytes 12 = vlanEthertype := by
      rw [← frame]
      exact fromBeBytes_hiByte_loByte vlanEthertype
    have inner : readBeU16 bytes 16 = ethertypeIpv4 := by
      rw [← frame]
      exact fromBeBytes_hiByte_loByte ethertypeIpv4
    have behind : bytes.drop vlanHeaderLen = packet := by
      rw [← frame]
      rfl
    rw [parseEthernetIpv4Udp, if_neg (by omega), if_pos outer, if_neg (by omega), inner,
      parseBehind, if_neg (by decide), behind]
    rfl

/-- A datagram of at most 65507 payload bytes is parsed back from the frame that
the transmit path builds, whatever follows it, and its IPv4 header sums to all
ones. -/
theorem parse_built_frame {egress : XdpEgress} (isIpv4 : egress.ethertype = ethertypeIpv4)
    (source destination : SocketAddrV4) (ttl : Byte) (ecn : Option EcnCodepoint)
    {payload : List Byte} (fits : payload.length ≤ 65507) (trailing : List Byte) :
    let fields := udpHeaderFields source destination ttl ecn payload.length
    parseEthernetIpv4Udp
        (l2Bytes egress ++ (writeIpv4UdpHeaders zeroHeaders fields ++ payload ++ trailing)) =
      .udp {
        source := source.ip
        destination := destination.ip
        sourcePort := source.port
        destinationPort := destination.port
        ipLen := payload.length + 28
        payloadOffset := egressHeaderLen egress + 28
        payloadLen := payload.length
        ecn := some (ecn.getD .notEct) } ∧
      onesComplementSum ((writeIpv4UdpHeaders zeroHeaders fields).take ipv4MinHeaderLen) =
        0xffff := by
  intro fields
  have headers : ipv4MinHeaderLen + udpHeaderLen = 28 := rfl
  have udpHeader : udpHeaderLen = 8 := rfl
  have total : fields.totalLen.toNat = ipv4MinHeaderLen + udpHeaderLen + payload.length :=
    (BitVec.toNat_ofNat _ _).trans (Nat.mod_eq_of_lt (by omega))
  have udp : fields.udpLen.toNat = udpHeaderLen + payload.length :=
    (BitVec.toNat_ofNat _ _).trans (Nat.mod_eq_of_lt (by omega))
  refine ⟨?_, onesComplementSum_writeIpv4UdpHeaders fields⟩
  have lengths : LengthsFit
      (headerBytes fields (rebuiltChecksum fields) ++ (payload ++ trailing)) := by
    apply lengthsFit_headerBytes
    · omega
    · omega
    · rw [List.length_append]
      omega
  rw [parseEthernetIpv4Udp_l2Bytes isIpv4, writeIpv4UdpHeaders_eq, List.append_assoc,
    parseIpv4UdpDatagram_of_fit (isUdpPacket_headerBytes fields _ _) lengths,
    datagramOf_headerBytes, total, udp, Nat.add_sub_cancel_left, headers, Nat.add_comm 28]
  rfl

/-- An untagged frame with one byte of payload and padding behind it. -/
theorem parse_built_frame_sample :
    parseEthernetIpv4Udp (l2Bytes (.ipv4 1 0 2#48 3#48 1500) ++
        (writeIpv4UdpHeaders zeroHeaders (udpHeaderFields ⟨4#32, 5#16⟩ ⟨6#32, 7#16⟩ 64 none 1) ++
          [9#8] ++ [0#8])) =
      .udp {
        source := 4#32
        destination := 6#32
        sourcePort := 5#16
        destinationPort := 7#16
        ipLen := 29
        payloadOffset := 42
        payloadLen := 1
        ecn := some .notEct } :=
  (parse_built_frame rfl ⟨4#32, 5#16⟩ ⟨6#32, 7#16⟩ 64 none (by decide : [9#8].length ≤ 65507)
    [0#8]).1

end FastSocket.Xdp
