import FastSocket.Xdp.SendPrepare

/-!
# Parsing received IP frames

The parser of the IP receive path, and the way a UDP datagram is found through it:
the frame is parsed as an IP frame, cut to the IP datagram and parsed again as a UDP
datagram.  The parser of the UDP receive path does this in one pass over the whole
frame.
-/

namespace FastSocket.Xdp

open Packet

/-- The ethertype of a frame behind at most one VLAN tag, and the length of its L2
header. -/
def l2HeaderOf (frame : List Byte) : Option (Word × Nat) :=
  if frame.length < ethernetHeaderLen then
    none
  else if readBeU16 frame 12 = vlanEthertype then
    if frame.length < vlanHeaderLen then none else some (readBeU16 frame 16, vlanHeaderLen)
  else
    some (readBeU16 frame 12, ethernetHeaderLen)

structure ParsedEthernet where
  l2Len : Nat
  ip : ParsedIp
deriving DecidableEq, Repr

/-- The parse of a frame whose L2 header has the given ethertype and length. -/
def parseIpBehind (frame : List Byte) (ethertype : Word) (l2Len : Nat) :
    Option ParsedEthernet :=
  if ethertype ≠ ethertypeIpv4 ∧ ethertype ≠ ethertypeIpv6 then
    none
  else
    (parseIpDatagram (frame.drop l2Len)).map fun ip => { l2Len, ip }

def parseEthernetFrame (frame : List Byte) : Option ParsedEthernet :=
  if frame.length < ethernetHeaderLen then
    none
  else if readBeU16 frame 12 = vlanEthertype then
    if frame.length < vlanHeaderLen then
      none
    else
      parseIpBehind frame (readBeU16 frame 16) vlanHeaderLen
  else
    parseIpBehind frame (readBeU16 frame 12) ethernetHeaderLen

/-- The bytes of the IP datagram in a parsed frame, without L2 header and trailer. -/
def ParsedEthernet.datagram (parsed : ParsedEthernet) (frame : List Byte) : List Byte :=
  (frame.take (parsed.l2Len + parsed.ip.len)).drop parsed.l2Len

/-- The UDP datagram of a frame that is first parsed as an IP frame. -/
def parseLayeredUdp (frame : List Byte) : UdpParse ParsedIpv4Udp :=
  match parseEthernetFrame frame with
  | none => .drop
  | some parsed =>
    if parsed.ip.isFragment then
      .fragment
    else
      (parseIpv4UdpDatagram (parsed.datagram frame)).behind parsed.l2Len

/-! ## L2 headers -/

section L2Header

variable {frame : List Byte} {ethertype : Word} {l2Len : Nat}

theorem l2HeaderOf_cases (frame : List Byte) :
    (l2HeaderOf frame = none ∧ parseEthernetFrame frame = none ∧
        parseEthernetIpv4Udp frame = .drop) ∨
      ∃ ethertype l2Len, l2HeaderOf frame = some (ethertype, l2Len) ∧ l2Len ≤ frame.length ∧
        parseEthernetFrame frame = parseIpBehind frame ethertype l2Len ∧
        parseEthernetIpv4Udp frame = parseBehind frame ethertype l2Len := by
  simp only [l2HeaderOf, parseEthernetFrame, parseEthernetIpv4Udp]
  by_cases short : frame.length < ethernetHeaderLen
  · simp only [if_pos short]
    simp
  · simp only [if_neg short]
    by_cases tagged : readBeU16 frame 12 = vlanEthertype
    · simp only [if_pos tagged]
      by_cases shortTag : frame.length < vlanHeaderLen
      · simp only [if_pos shortTag]
        simp
      · simp only [if_neg shortTag]
        exact .inr ⟨_, _, rfl, not_lt.mp shortTag, rfl, rfl⟩
    · simp only [if_neg tagged]
      exact .inr ⟨_, _, rfl, not_lt.mp short, rfl, rfl⟩

theorem of_l2HeaderOf (header : l2HeaderOf frame = some (ethertype, l2Len)) :
    l2Len ≤ frame.length ∧
      parseEthernetFrame frame = parseIpBehind frame ethertype l2Len ∧
      parseEthernetIpv4Udp frame = parseBehind frame ethertype l2Len := by
  rcases l2HeaderOf_cases frame with ⟨missing, _⟩ | ⟨_, _, found, parses⟩
  · rw [missing] at header
    cases header
  · rw [found] at header
    cases header
    exact parses

theorem parseEthernetFrame_eq_some {parsed : ParsedEthernet}
    (accepted : parseEthernetFrame frame = some parsed) :
    ∃ ethertype, l2HeaderOf frame = some (ethertype, parsed.l2Len) ∧
      (ethertype = ethertypeIpv4 ∨ ethertype = ethertypeIpv6) ∧
      parseIpDatagram (frame.drop parsed.l2Len) = some parsed.ip := by
  rcases l2HeaderOf_cases frame with ⟨_, rejected, _⟩ | ⟨ethertype, l2Len, header, _, parses, _⟩
  · rw [rejected] at accepted
    cases accepted
  · rw [parses, parseIpBehind] at accepted
    split at accepted
    · cases accepted
    · rename_i isIp
      obtain ⟨ip, datagram, rfl⟩ := Option.map_eq_some_iff.mp accepted
      exact ⟨ethertype, header, by tauto, datagram⟩

end L2Header

/-! ## Reads behind a cut -/

section Cut

variable {packet : List Byte} {offset len : Nat}

theorem getD_take (lt : offset < len) : (packet.take len).getD offset 0 = packet.getD offset 0 := by
  rw [List.getD_eq_getElem?_getD, List.getD_eq_getElem?_getD, List.getElem?_take, if_pos lt]

theorem readBeU16_take (lt : offset + 1 < len) :
    readBeU16 (packet.take len) offset = readBeU16 packet offset := by
  rw [readBeU16, readBeU16, getD_take (by omega), getD_take lt]

theorem readAddr_take (lt : offset + 3 < len) :
    readAddr (packet.take len) offset = readAddr packet offset := by
  rw [readAddr, readAddr, getD_take (by omega), getD_take (by omega), getD_take (by omega),
    getD_take lt]

theorem statedIhl_take (positive : 0 < len) : statedIhl (packet.take len) = statedIhl packet := by
  rw [statedIhl, statedIhl, getD_take positive]

theorem statedTotalLen_take (lt : 3 < len) :
    statedTotalLen (packet.take len) = statedTotalLen packet := by
  rw [statedTotalLen, statedTotalLen, readBeU16_take lt]

theorem statedUdpLen_take (lt : statedIhl packet + 5 < len) :
    statedUdpLen (packet.take len) = statedUdpLen packet := by
  rw [statedUdpLen, statedUdpLen, statedIhl_take (by omega), readBeU16_take (by omega)]

theorem datagramOf_take (minimal : ipv4MinHeaderLen ≤ statedIhl packet)
    (lt : statedIhl packet + udpHeaderLen ≤ len) :
    datagramOf (packet.take len) = datagramOf packet := by
  simp only [ipv4MinHeaderLen, udpHeaderLen] at minimal lt
  simp only [datagramOf]
  rw [statedIhl_take (by omega), statedTotalLen_take (by omega), statedUdpLen_take (by omega),
    readAddr_take (by omega), readAddr_take (by omega), readBeU16_take (by omega),
    readBeU16_take (by omega), getD_take (by omega)]

end Cut

/-! ## IPv4 datagrams -/

/-- The lengths that an IPv4 header states fit in each other and in the packet. -/
structure Ipv4Fits (packet : List Byte) : Prop where
  minimal : ipv4MinHeaderLen ≤ statedIhl packet
  header : statedIhl packet ≤ statedTotalLen packet
  total : statedTotalLen packet ≤ packet.length

/-- What the parser of IPv4 datagrams reads off a header. -/
def ipv4Of (packet : List Byte) : ParsedIp :=
  { version := .v4
    len := statedTotalLen packet
    isFragment := readBeU16 packet 6 &&& ipv4FragmentMask ≠ 0#16 }

section Ipv4

variable {packet : List Byte}

theorem parseIpv4Datagram_eq_some_iff {ip : ParsedIp} :
    parseIpv4Datagram packet = some ip ↔ Ipv4Fits packet ∧ ip = ipv4Of packet := by
  rw [parseIpv4Datagram]
  constructor
  · intro accepted
    split at accepted
    · cases accepted
    · split at accepted
      · cases accepted
      · split at accepted
        · cases accepted
        · cases accepted
          exact ⟨⟨by omega, by omega, by omega⟩, rfl⟩
  · rintro ⟨⟨minimal, header, total⟩, rfl⟩
    rw [if_neg (by omega), if_neg (by omega), if_neg (by omega)]
    rfl

/-- Behind the length checks, the UDP parser looks at the fragment field, the
protocol and the UDP length. -/
theorem parseIpv4UdpDatagram_of_ipv4Fits (version : packet.getD 0 0 >>> 4 = 4#8)
    (fits : Ipv4Fits packet) :
    parseIpv4UdpDatagram packet =
      if readBeU16 packet 6 &&& ipv4FragmentMask ≠ 0#16 then
        .fragment
      else if packet.getD 9 0 ≠ udpProtocol ∨
          statedTotalLen packet < statedIhl packet + udpHeaderLen then
        .drop
      else if statedUdpLen packet < udpHeaderLen ∨
          statedIhl packet + statedUdpLen packet > statedTotalLen packet then
        .drop
      else
        .udp (datagramOf packet) := by
  obtain ⟨minimal, header, total⟩ := fits
  rw [parseIpv4UdpDatagram, if_neg (by omega), if_neg (not_not.mpr version)]
  simp only
  rw [if_neg (by omega), if_neg (by omega)]
  rfl

theorem parseIpv4UdpDatagram_of_not_ipv4Fits (misfit : ¬ Ipv4Fits packet) :
    parseIpv4UdpDatagram packet = .drop := by
  rw [parseIpv4UdpDatagram]
  split
  · rfl
  · split
    · rfl
    · simp only
      split
      · rfl
      · split
        · rfl
        · exact absurd ⟨by omega, by omega, by omega⟩ misfit

theorem Ipv4Fits.take (fits : Ipv4Fits packet) :
    Ipv4Fits (packet.take (statedTotalLen packet)) := by
  obtain ⟨minimal, header, total⟩ := fits
  simp only [ipv4MinHeaderLen] at minimal
  constructor
  · rwa [statedIhl_take (by omega)]
  · rwa [statedIhl_take (by omega), statedTotalLen_take (by omega)]
  · rw [statedTotalLen_take (by omega), List.length_take]
    omega

/-- Cutting the trailer off an unfragmented packet does not change its parse. -/
theorem parseIpv4UdpDatagram_take (version : packet.getD 0 0 >>> 4 = 4#8)
    (fits : Ipv4Fits packet) (whole : readBeU16 packet 6 &&& ipv4FragmentMask = 0#16) :
    parseIpv4UdpDatagram (packet.take (statedTotalLen packet)) = parseIpv4UdpDatagram packet := by
  have long : 20 ≤ statedTotalLen packet := fits.minimal.trans fits.header
  rw [parseIpv4UdpDatagram_of_ipv4Fits version fits,
    parseIpv4UdpDatagram_of_ipv4Fits (by rwa [getD_take (by omega)]) fits.take,
    readBeU16_take (by omega), if_neg (not_not.mpr whole), if_neg (not_not.mpr whole),
    getD_take (by omega), statedTotalLen_take (by omega), statedIhl_take (by omega)]
  by_cases tooShort : statedTotalLen packet < statedIhl packet + udpHeaderLen
  · rw [if_pos (.inr tooShort), if_pos (.inr tooShort)]
  · rw [not_lt] at tooShort
    rw [statedUdpLen_take (Nat.lt_of_lt_of_le (by simp [udpHeaderLen]) tooShort),
      datagramOf_take fits.minimal tooShort]

end Ipv4

/-! ## The parsers agree -/

/-- The frame states that it holds an IPv4 packet, in its ethertype and in the version
of the packet. -/
def StatesIpv4 (frame : List Byte) : Prop :=
  ∃ l2Len, l2HeaderOf frame = some (ethertypeIpv4, l2Len) ∧
    ∃ byte, frame[l2Len]? = some byte ∧ byte >>> 4 = 4#8

theorem parseIpDatagram_of_version_four {packet : List Byte} {byte : Byte}
    (first : packet[0]? = some byte) (version : byte >>> 4 = 4#8) :
    parseIpDatagram packet = parseIpv4Datagram packet := by
  cases packet with
  | nil => cases first
  | cons head rest =>
    cases first
    exact if_pos version

variable {frame : List Byte}

theorem parseEthernetIpv4Udp_eq_parseLayeredUdp (isIpv4 : StatesIpv4 frame) :
    parseEthernetIpv4Udp frame = parseLayeredUdp frame := by
  obtain ⟨l2Len, header, byte, at_, nibble⟩ := isIpv4
  obtain ⟨inside, ipParse, udpParse⟩ := of_l2HeaderOf header
  have first : (frame.drop l2Len)[0]? = some byte := by
    rw [List.getElem?_drop]
    exact at_
  have version : (frame.drop l2Len).getD 0 0 >>> 4 = 4#8 := by
    rw [List.getD_eq_getElem?_getD, first]
    exact nibble
  rw [udpParse, parseBehind, if_neg (not_not.mpr rfl), parseLayeredUdp, ipParse, parseIpBehind,
    if_neg (fun other => other.1 rfl), parseIpDatagram_of_version_four first nibble]
  by_cases fits : Ipv4Fits (frame.drop l2Len)
  · rw [parseIpv4Datagram_eq_some_iff.mpr ⟨fits, rfl⟩]
    simp only [Option.map_some, ipv4Of, decide_eq_true_eq]
    by_cases whole : readBeU16 (frame.drop l2Len) 6 &&& ipv4FragmentMask = 0#16
    · rw [if_neg (not_not.mpr whole), ParsedEthernet.datagram, List.drop_take,
        Nat.add_sub_cancel_left, parseIpv4UdpDatagram_take version fits whole]
    · rw [if_pos whole, parseIpv4UdpDatagram_of_ipv4Fits version fits, if_pos whole]
      rfl
  · rw [parseIpv4UdpDatagram_of_not_ipv4Fits fits]
    cases accepted : parseIpv4Datagram (frame.drop l2Len) with
    | none => rfl
    | some ip => exact absurd (parseIpv4Datagram_eq_some_iff.mp accepted).1 fits

/-- An accepted payload lies in its IPv4 datagram, which lies in the frame. -/
theorem range_of_parseEthernetIpv4Udp {parsed : ParsedIpv4Udp}
    (accepted : parseEthernetIpv4Udp frame = .udp parsed) :
    ∃ l2Len, l2HeaderOf frame = some (ethertypeIpv4, l2Len) ∧
      l2Len ≤ parsed.payloadOffset ∧
      parsed.payloadOffset + parsed.payloadLen ≤ l2Len + parsed.ipLen ∧
      l2Len + parsed.ipLen ≤ frame.length := by
  rcases l2HeaderOf_cases frame with ⟨_, _, dropped⟩ | ⟨_, l2Len, header, inside, _, parses⟩
  · rw [dropped] at accepted
    cases accepted
  · rw [parses] at accepted
    obtain ⟨rfl, isUdp, fits, rfl⟩ := parseBehind_eq_udp_iff.mp accepted
    have total := fits.total
    have datagram := fits.datagram
    have udpHeader := fits.udpHeader
    rw [List.length_drop] at total
    refine ⟨l2Len, header, Nat.le_add_right _ _, ?_, ?_⟩
    · simp only [datagramOf]
      omega
    · simp only [datagramOf]
      omega

end FastSocket.Xdp
