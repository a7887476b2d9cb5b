import FastSocket.Ebpf.Redirect
import FastSocket.Xdp.ParseUdp

/-!
# The redirect programs and the receive path agree

The programs decide by the headers alone, the receive path also by the lengths
that they state.  Behind the same L2 header, the programs find a port in every
packet that the receive path accepts, and the receive path accepts every packet
with a port whose lengths fit.  The programs also look behind an outer 802.1ad tag,
which the receive path does not know.
-/

variable {bytes : List Byte} {size offset : Nat}

namespace FastSocket.Packet

theorem getD_take {index : Nat} (inside : index < size) :
    (bytes.take size).getD index 0 = bytes.getD index 0 := by
  rw [List.getD_eq_getElem?_getD, List.getD_eq_getElem?_getD, List.getElem?_take_of_lt inside]

theorem readBeU16_take (inside : offset + 1 < size) :
    readBeU16 (bytes.take size) offset = readBeU16 bytes offset := by
  rw [readBeU16, readBeU16, getD_take inside, getD_take (by omega)]

theorem readBeU16_drop (bytes : List Byte) (skipped offset : Nat) :
    readBeU16 (bytes.drop skipped) offset = readBeU16 bytes (skipped + offset) := by
  simp only [readBeU16, List.getD_eq_getElem?_getD, List.getElem?_drop, Nat.add_assoc]

end FastSocket.Packet

namespace FastSocket.Ebpf

open Packet Xdp

variable {packet frame : List Byte} {l2Len : Nat} {parsed : ParsedIpv4Udp} {ethertype : Word}

theorem readArray_of_le (inside : offset + size ≤ packet.length) :
    readArray packet size offset = .ok ((packet.drop offset).take size) :=
  if_neg (by omega)

theorem readArray_eq_ok (read : readArray packet size offset = .ok bytes) :
    offset + size ≤ packet.length ∧ bytes = (packet.drop offset).take size := by
  rw [readArray] at read
  split at read
  · cases read
  · cases read
    exact ⟨by omega, rfl⟩

theorem readU16Be_of_le (inside : offset + 2 ≤ packet.length) :
    readU16Be packet offset = .ok (readBeU16 packet offset) := by
  rw [readU16Be, readArray_of_le inside]
  change Except.ok (readBeU16 ((packet.drop offset).take 2) 0) = _
  rw [readBeU16_take (by omega), readBeU16_drop, Nat.add_zero]

theorem readU16Be_of_lt (outside : packet.length < offset + 2) :
    readU16Be packet offset = .error () := by
  rw [readU16Be, readArray, if_pos outside]
  rfl

/-! ## The IPv4 and UDP headers -/

theorem statedIhl_take (packet : List Byte) :
    ((packet.take ipv4MinHeaderLen).getD 0 0 &&& 0x0f#8).toNat * 4 = statedIhl packet := by
  rw [getD_take (by decide), statedIhl]

/-- A program finds the port of a UDP packet whose header lies in the frame. -/
theorem ipv4UdpDestinationPort_of_udp (isUdp : IsUdpPacket (frame.drop l2Len))
    (inside : statedIhl (frame.drop l2Len) + udpHeaderLen ≤ (frame.drop l2Len).length) :
    ipv4UdpDestinationPort frame l2Len =
      .ok (some (readBeU16 (frame.drop l2Len) (statedIhl (frame.drop l2Len) + 2))) := by
  have length := isUdp.length
  have ihl := isUdp.ihl
  rw [List.length_drop] at length inside
  have positive : 0 < ipv4MinHeaderLen := by decide
  have unfragmented : readBeU16 (frame.drop l2Len) 6 &&& ipv4FragmentMask = 0#16 := isUdp.fragment
  rw [ipv4UdpDestinationPort, readArray_of_le (by omega)]
  change (if _ then _ else _) = _
  rw [getD_take (by decide), if_neg (not_not.mpr isUdp.version), ← statedIhl, if_neg (by omega), readBeU16_take (by decide),
    if_neg (not_not.mpr unfragmented), getD_take (by decide),
    if_neg (not_not.mpr isUdp.protocol), readArray_of_le (by omega)]
  change Except.ok (some (readBeU16 (List.take _ _) 2)) = _
  rw [readBeU16_take (by decide), readBeU16_drop, readBeU16_drop, Nat.add_assoc]

theorem udp_of_ipv4UdpDestinationPort {port : Word}
    (found : ipv4UdpDestinationPort frame l2Len = .ok (some port)) :
    IsUdpPacket (frame.drop l2Len) ∧
      port = readBeU16 (frame.drop l2Len) (statedIhl (frame.drop l2Len) + 2) := by
  rw [ipv4UdpDestinationPort] at found
  cases header : readArray frame ipv4MinHeaderLen l2Len with
  | error failure =>
    rw [header] at found
    cases found
  | ok bytes =>
    obtain ⟨inside, rfl⟩ := readArray_eq_ok header
    rw [header] at found
    change (if _ then _ else _) = _ at found
    rw [getD_take (by decide), ← statedIhl, readBeU16_take (by decide),
      getD_take (by decide)] at found
    split at found
    · cases found
    · split at found
      · cases found
      · split at found
        · cases found
        · split at found
          · cases found
          · rename_i version ihl fragment protocol
            cases udp : readArray frame udpHeaderLen (l2Len + statedIhl (frame.drop l2Len)) with
            | error failure =>
              rw [udp] at found
              cases found
            | ok udpHeader =>
              obtain ⟨_, rfl⟩ := readArray_eq_ok udp
              rw [udp] at found
              cases found
              rw [readBeU16_take (by decide), readBeU16_drop, readBeU16_drop, Nat.add_assoc]
              have length : ipv4MinHeaderLen ≤ (frame.drop l2Len).length := by
                rw [List.length_drop]
                omega
              exact ⟨⟨length, not_not.mp version, by omega, not_not.mp fragment,
                not_not.mp protocol⟩, rfl⟩

/-! ## The L2 header -/

/-- The L2 headers that the receive path and the programs both know: an untagged
one and one with a single 802.1Q tag. -/
def HasL2Header (frame : List Byte) (ethertype : Word) (l2Len : Nat) : Prop :=
  if readBeU16 frame 12 = vlanEthertype then
    vlanHeaderLen ≤ frame.length ∧ ethertype = readBeU16 frame 16 ∧ l2Len = vlanHeaderLen
  else
    ethernetHeaderLen ≤ frame.length ∧ ethertype = readBeU16 frame 12 ∧ l2Len = ethernetHeaderLen

theorem parseEthernetIpv4Udp_eq_udp_iff :
    parseEthernetIpv4Udp frame = .udp parsed ↔
      ∃ ethertype l2Len, HasL2Header frame ethertype l2Len ∧
        parseBehind frame ethertype l2Len = .udp parsed := by
  have shorter : ethernetHeaderLen ≤ vlanHeaderLen := by decide
  rw [parseEthernetIpv4Udp]
  by_cases tagged : readBeU16 frame 12 = vlanEthertype
  · simp only [HasL2Header, if_pos tagged]
    constructor
    · intro accepted
      split at accepted
      · cases accepted
      · split at accepted
        · cases accepted
        · exact ⟨_, _, ⟨by omega, rfl, rfl⟩, accepted⟩
    · rintro ⟨_, _, ⟨length, rfl, rfl⟩, accepted⟩
      rw [if_neg (by omega), if_neg (by omega)]
      exact accepted
  · simp only [HasL2Header, if_neg tagged]
    constructor
    · intro accepted
      split at accepted
      · cases accepted
      · exact ⟨_, _, ⟨by omega, rfl, rfl⟩, accepted⟩
    · rintro ⟨_, _, ⟨length, rfl, rfl⟩, accepted⟩
      rw [if_neg (by omega)]
      exact accepted

/-- Without an outer 802.1ad tag, the programs see the L2 header of the receive
path. -/
theorem packetEthertype_eq_ok_iff (known : readBeU16 frame etherTypeOffset ≠ ethertypeQinq) :
    packetEthertype frame = .ok (ethertype, l2Len) ↔ HasL2Header frame ethertype l2Len := by
  have untaggedLen : ethernetHeaderLen = etherTypeOffset + 2 := rfl
  have taggedLen : vlanHeaderLen = vlanInnerEtherTypeOffset + 2 := rfl
  have shorter : ethernetHeaderLen ≤ vlanHeaderLen := by decide
  by_cases length : etherTypeOffset + 2 ≤ frame.length
  · rw [packetEthertype, readU16Be_of_le length]
    change (if readBeU16 frame 12 = vlanEthertype then _ else _) = _ ↔ _
    by_cases tagged : readBeU16 frame 12 = vlanEthertype
    · rw [if_pos tagged, HasL2Header, if_pos tagged]
      by_cases inner : vlanInnerEtherTypeOffset + 2 ≤ frame.length
      · rw [readU16Be_of_le inner]
        change Except.ok (readBeU16 frame 16, 18) = _ ↔ _
        rw [Except.ok.injEq, Prod.mk.injEq]
        exact ⟨fun same => ⟨inner, same.1.symm, same.2.symm⟩,
          fun same => ⟨same.2.1.symm, same.2.2.symm⟩⟩
      · rw [readU16Be_of_lt (by omega)]
        constructor
        · rintro ⟨⟩
        · rintro ⟨long, _⟩
          omega
    · rw [if_neg tagged, if_neg known, HasL2Header, if_neg tagged]
      change Except.ok (readBeU16 frame 12, 14) = _ ↔ _
      rw [Except.ok.injEq, Prod.mk.injEq]
      exact ⟨fun same => ⟨length, same.1.symm, same.2.symm⟩,
        fun same => ⟨same.2.1.symm, same.2.2.symm⟩⟩
  · rw [packetEthertype, readU16Be_of_lt (by omega), HasL2Header]
    constructor
    · rintro ⟨⟩
    · intro header
      split at header
      · omega
      · omega

theorem not_parsed_of_qinq (outer : readBeU16 frame etherTypeOffset = ethertypeQinq)
    (parsed : ParsedIpv4Udp) : parseEthernetIpv4Udp frame ≠ .udp parsed := by
  intro accepted
  obtain ⟨ethertype, l2Len, header, behind⟩ := parseEthernetIpv4Udp_eq_udp_iff.mp accepted
  have isIpv4 := (parseBehind_eq_udp_iff.mp behind).1
  have untagged : readBeU16 frame 12 ≠ vlanEthertype := by
    rw [show readBeU16 frame 12 = ethertypeQinq from outer]
    decide
  rw [HasL2Header, if_neg untagged] at header
  rw [header.2.1, show readBeU16 frame 12 = ethertypeQinq from outer] at isIpv4
  exact absurd isIpv4 (by decide)

/-! ## Frames -/

theorem packetUdpDestinationPort_eq (read : packetEthertype frame = .ok (ethertype, l2Len)) :
    packetUdpDestinationPort frame =
      if ethertype ≠ ethertypeIpv4 then .ok none else ipv4UdpDestinationPort frame l2Len := by
  rw [packetUdpDestinationPort, read]
  rfl

/-- A program finds the port of every frame that the receive path accepts. -/
theorem packetUdpDestinationPort_of_parsed (accepted : parseEthernetIpv4Udp frame = .udp parsed) :
    packetUdpDestinationPort frame = .ok (some parsed.destinationPort) := by
  have known : readBeU16 frame etherTypeOffset ≠ ethertypeQinq := by
    intro outer
    exact not_parsed_of_qinq outer parsed accepted
  obtain ⟨ethertype, l2Len, header, behind⟩ := parseEthernetIpv4Udp_eq_udp_iff.mp accepted
  obtain ⟨isIpv4, isUdp, fits, rfl⟩ := parseBehind_eq_udp_iff.mp behind
  have inside : statedIhl (frame.drop l2Len) + udpHeaderLen ≤ (frame.drop l2Len).length :=
    fits.header.trans fits.total
  have isIpv4 : ethertype = ethertypeIpv4 := isIpv4
  rw [packetUdpDestinationPort_eq ((packetEthertype_eq_ok_iff known).mpr header),
    if_neg (not_not.mpr isIpv4), ipv4UdpDestinationPort_of_udp isUdp inside]
  rfl

/-- A frame in which a program finds a port, and whose stated lengths fit, is
accepted with that port exactly when it has no outer 802.1ad tag. -/
theorem parsed_iff_not_qinq {frame : List Byte} {port ethertype : Word} {l2Len : Nat}
    (extracted : packetUdpDestinationPort frame = .ok (some port))
    (read : packetEthertype frame = .ok (ethertype, l2Len))
    (fits : LengthsFit (frame.drop l2Len)) :
    (∃ parsed, parseEthernetIpv4Udp frame = .udp parsed ∧ parsed.destinationPort = port) ↔
      readBeU16 frame etherTypeOffset ≠ ethertypeQinq := by
  constructor
  · rintro ⟨parsed, accepted, _⟩ outer
    exact not_parsed_of_qinq outer parsed accepted
  · intro known
    rw [packetUdpDestinationPort_eq read] at extracted
    split at extracted
    case isTrue => cases extracted
    case isFalse isIpv4 =>
      obtain ⟨isUdp, rfl⟩ := udp_of_ipv4UdpDestinationPort extracted
      refine ⟨_, parseEthernetIpv4Udp_eq_udp_iff.mpr ⟨ethertype, l2Len,
        (packetEthertype_eq_ok_iff known).mp read,
        parseBehind_eq_udp_iff.mpr ⟨not_not.mp isIpv4, isUdp, fits, rfl⟩⟩, rfl⟩

/-- A UDP datagram without payload from port 5000 to port 5001. -/
def sampleDatagram : List Byte :=
  [0x45, 0, 0, 28, 0, 0, 0, 0, 64, 17, 0, 0, 10, 0, 0, 1, 10, 0, 0, 2,
    0x13, 0x88, 0x13, 0x89, 0, 8, 0, 0]

/-- The datagram in a frame with the given bytes behind the link addresses. -/
def sampleFrame (tags : List Byte) : List Byte :=
  List.replicate 12 0 ++ tags ++ sampleDatagram

theorem parsed_iff_not_qinq_untagged :
    packetUdpDestinationPort (sampleFrame [0x08, 0x00]) = .ok (some 5001#16) ∧
      ∃ parsed, parseEthernetIpv4Udp (sampleFrame [0x08, 0x00]) = .udp parsed ∧
        parsed.destinationPort = 5001#16 := by
  have extracted : packetUdpDestinationPort (sampleFrame [0x08, 0x00]) = .ok (some 5001#16) := by
    decide
  have read : packetEthertype (sampleFrame [0x08, 0x00]) = .ok (ethertypeIpv4, 14) := by decide
  have fits : LengthsFit ((sampleFrame [0x08, 0x00]).drop 14) :=
    ⟨by decide, by decide, by decide, by decide⟩
  exact ⟨extracted, (parsed_iff_not_qinq extracted read fits).mpr (by decide)⟩

/-- The programs take a frame with an 802.1ad and an 802.1Q tag away from the
kernel, and the receive path drops it. -/
theorem qinq_dropped :
    packetUdpDestinationPort (sampleFrame [0x88, 0xa8, 0, 1, 0x81, 0x00, 0, 2, 0x08, 0x00]) =
        .ok (some 5001#16) ∧
      packetEthertype (sampleFrame [0x88, 0xa8, 0, 1, 0x81, 0x00, 0, 2, 0x08, 0x00]) =
        .ok (ethertypeIpv4, 22) ∧
      LengthsFit ((sampleFrame [0x88, 0xa8, 0, 1, 0x81, 0x00, 0, 2, 0x08, 0x00]).drop 22) ∧
      parseEthernetIpv4Udp (sampleFrame [0x88, 0xa8, 0, 1, 0x81, 0x00, 0, 2, 0x08, 0x00]) =
        .drop :=
  ⟨by decide, by decide, ⟨by decide, by decide, by decide, by decide⟩, by decide⟩

end FastSocket.Ebpf
