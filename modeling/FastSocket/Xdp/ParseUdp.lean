import FastSocket.Xdp.Egress

/-!
# Parsing received UDP frames

The parser of the UDP receive path.  Every read is behind the length check that
the source makes before it, so a read outside of the bytes, which would stop the
program, does not happen; in the model it yields zero.
-/

namespace FastSocket.Xdp

open Packet

/-- The outcome of parsing a frame. -/
inductive UdpParse (α : Type) where
  | udp (parsed : α)
  | fragment
  | drop
deriving DecidableEq, Repr

/-- A parsed UDP datagram.  Offsets count from the start of the parsed bytes. -/
structure ParsedIpv4Udp where
  source : Ipv4Addr
  destination : Ipv4Addr
  sourcePort : Word
  destinationPort : Word
  ipLen : Nat
  payloadOffset : Nat
  payloadLen : Nat
  ecn : Option EcnCodepoint
deriving DecidableEq, Repr

def ipv4FragmentMask : Word := 0x3fff#16

def ecnFromBits (bits : Byte) : Option EcnCodepoint :=
  match (bits &&& 0x03#8).toNat with
  | 0 => some .notEct
  | 1 => some .ect1
  | 2 => some .ect0
  | _ => some .ce

/-- The address with the given bytes, most significant first. -/
def addrOfOctets (first second third fourth : Byte) : Ipv4Addr :=
  BitVec.ofNat 32
    (first.toNat * 2 ^ 24 + second.toNat * 2 ^ 16 + third.toNat * 2 ^ 8 + fourth.toNat)

/-- The address at an offset. -/
def readAddr (bytes : List Byte) (offset : Nat) : Ipv4Addr :=
  addrOfOctets (bytes.getD offset 0) (bytes.getD (offset + 1) 0) (bytes.getD (offset + 2) 0)
    (bytes.getD (offset + 3) 0)

/-- The header length that an IPv4 packet states in its first byte. -/
def statedIhl (packet : List Byte) : Nat :=
  (packet.getD 0 0 &&& 0x0f#8).toNat * 4

/-- The length that an IPv4 packet states. -/
def statedTotalLen (packet : List Byte) : Nat :=
  (readBeU16 packet 2).toNat

/-- The length that the UDP header behind an IPv4 header states. -/
def statedUdpLen (packet : List Byte) : Nat :=
  (readBeU16 packet (statedIhl packet + 4)).toNat

def parseIpv4UdpDatagram (packet : List Byte) : UdpParse ParsedIpv4Udp :=
  if packet.length < ipv4MinHeaderLen then
    .drop
  else if packet.getD 0 0 >>> 4 ≠ 4#8 then
    .drop
  else
    let ihl := statedIhl packet
    if ihl < ipv4MinHeaderLen ∨ packet.length < ihl then
      .drop
    else
      let totalLen := statedTotalLen packet
      if totalLen < ihl ∨ totalLen > packet.length then
        .drop
      else if readBeU16 packet 6 &&& ipv4FragmentMask ≠ 0#16 then
        .fragment
      else if packet.getD 9 0 ≠ udpProtocol ∨ totalLen < ihl + udpHeaderLen then
        .drop
      else
        let udpLen := statedUdpLen packet
        if udpLen < udpHeaderLen ∨ ihl + udpLen > totalLen then
          .drop
        else
          .udp {
            source := readAddr packet 12
            destination := readAddr packet 16
            sourcePort := readBeU16 packet ihl
            destinationPort := readBeU16 packet (ihl + 2)
            ipLen := totalLen
            payloadOffset := ihl + udpHeaderLen
            payloadLen := udpLen - udpHeaderLen
            ecn := ecnFromBits (packet.getD 1 0 &&& 0x03#8) }

/-- The parse of a datagram behind an L2 header. -/
def UdpParse.behind (l2Len : Nat) : UdpParse ParsedIpv4Udp → UdpParse ParsedIpv4Udp
  | .udp parsed => .udp { parsed with payloadOffset := l2Len + parsed.payloadOffset }
  | .fragment => .fragment
  | .drop => .drop

/-- The parse of a frame whose L2 header has the given ethertype and length. -/
def parseBehind (frame : List Byte) (ethertype : Word) (l2Len : Nat) : UdpParse ParsedIpv4Udp :=
  if ethertype ≠ ethertypeIpv4 then
    .drop
  else
    (parseIpv4UdpDatagram (frame.drop l2Len)).behind l2Len

def parseEthernetIpv4Udp (frame : List Byte) : UdpParse ParsedIpv4Udp :=
  if frame.length < ethernetHeaderLen then
    .drop
  else if readBeU16 frame 12 = vlanEthertype then
    if frame.length < vlanHeaderLen then
      .drop
    else
      parseBehind frame (readBeU16 frame 16) vlanHeaderLen
  else
    parseBehind frame (readBeU16 frame 12) ethernetHeaderLen

/-! ## Accepted packets -/

/-- The packet starts with the IPv4 header of an unfragmented UDP packet. -/
structure IsUdpPacket (packet : List Byte) : Prop where
  length : ipv4MinHeaderLen ≤ packet.length
  version : packet.getD 0 0 >>> 4 = 4#8
  ihl : ipv4MinHeaderLen ≤ statedIhl packet
  fragment : readBeU16 packet 6 &&& ipv4FragmentMask = 0#16
  protocol : packet.getD 9 0 = udpProtocol

/-- The lengths that the headers state fit in each other and in the packet. -/
structure LengthsFit (packet : List Byte) : Prop where
  header : statedIhl packet + udpHeaderLen ≤ statedTotalLen packet
  total : statedTotalLen packet ≤ packet.length
  udpHeader : udpHeaderLen ≤ statedUdpLen packet
  datagram : statedIhl packet + statedUdpLen packet ≤ statedTotalLen packet

/-- What is read off an accepted packet. -/
def datagramOf (packet : List Byte) : ParsedIpv4Udp :=
  { source := readAddr packet 12
    destination := readAddr packet 16
    sourcePort := readBeU16 packet (statedIhl packet)
    destinationPort := readBeU16 packet (statedIhl packet + 2)
    ipLen := statedTotalLen packet
    payloadOffset := statedIhl packet + udpHeaderLen
    payloadLen := statedUdpLen packet - udpHeaderLen
    ecn := ecnFromBits (packet.getD 1 0 &&& 0x03#8) }

variable {packet : List Byte} {parsed : ParsedIpv4Udp}

theorem parseIpv4UdpDatagram_of_fit (isUdp : IsUdpPacket packet) (fits : LengthsFit packet) :
    parseIpv4UdpDatagram packet = .udp (datagramOf packet) := by
  have header := fits.header
  have inside := fits.total
  have length := isUdp.length
  have ihl := isUdp.ihl
  have udpHeader := fits.udpHeader
  have datagram := fits.datagram
  rw [parseIpv4UdpDatagram, if_neg (by omega), if_neg (not_not.mpr isUdp.version)]
  simp only
  rw [if_neg (by omega), if_neg (by omega), if_neg (not_not.mpr isUdp.fragment),
    if_neg (not_or.mpr ⟨not_not.mpr isUdp.protocol, by omega⟩), if_neg (by omega)]
  rfl

theorem fit_of_parseIpv4UdpDatagram (accepted : parseIpv4UdpDatagram packet = .udp parsed) :
    IsUdpPacket packet ∧ LengthsFit packet ∧ parsed = datagramOf packet := by
  rw [parseIpv4UdpDatagram] at accepted
  simp only at accepted
  split at accepted
  · cases accepted
  · split at accepted
    · cases accepted
    · split at accepted
      · cases accepted
      · split at accepted
        · cases accepted
        · split at accepted
          · cases accepted
          · split at accepted
            · cases accepted
            · split at accepted
              · cases accepted
              · rename_i length version ihl totalLen fragment protocol udpLen
                cases accepted
                rw [not_or] at ihl totalLen protocol udpLen
                exact ⟨⟨by omega, not_not.mp version, by omega, not_not.mp fragment,
                  not_not.mp protocol.1⟩, ⟨by omega, by omega, by omega, by omega⟩, rfl⟩

/-- The parse behind an L2 header keeps the ports. -/
theorem parseBehind_eq_udp_iff {frame : List Byte} {ethertype : Word} {l2Len : Nat} :
    parseBehind frame ethertype l2Len = .udp parsed ↔
      ethertype = ethertypeIpv4 ∧ IsUdpPacket (frame.drop l2Len) ∧
        LengthsFit (frame.drop l2Len) ∧
        parsed = { datagramOf (frame.drop l2Len) with
          payloadOffset := l2Len + (datagramOf (frame.drop l2Len)).payloadOffset } := by
  rw [parseBehind]
  by_cases isIpv4 : ethertype = ethertypeIpv4
  · rw [if_neg (not_not.mpr isIpv4)]
    cases datagram : parseIpv4UdpDatagram (frame.drop l2Len) with
    | udp inner =>
      obtain ⟨isUdp, fits, rfl⟩ := fit_of_parseIpv4UdpDatagram datagram
      simp only [UdpParse.behind, UdpParse.udp.injEq]
      exact ⟨fun same => ⟨isIpv4, isUdp, fits, same.symm⟩, fun found => found.2.2.2.symm⟩
    | fragment =>
      simp only [UdpParse.behind, reduceCtorEq, false_iff]
      rintro ⟨_, isUdp, fits, _⟩
      rw [parseIpv4UdpDatagram_of_fit isUdp fits] at datagram
      cases datagram
    | drop =>
      simp only [UdpParse.behind, reduceCtorEq, false_iff]
      rintro ⟨_, isUdp, fits, _⟩
      rw [parseIpv4UdpDatagram_of_fit isUdp fits] at datagram
      cases datagram
  · rw [if_pos isIpv4]
    simp only [reduceCtorEq, false_iff]
    exact fun found => isIpv4 found.1

end FastSocket.Xdp
