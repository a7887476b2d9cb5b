import FastSocket.Xdp.ReceiveAccounts

/-!
# Ethertype and version of received datagrams

The IP receive loop checks the ethertype of a frame and the version of its datagram, but
not one against the other.  The transmit path does: a datagram is sent only under the
ethertype of its version.
-/

namespace FastSocket.Xdp

open Packet Buffer

/-! ## Datagrams cut out of their frame -/

section Datagram

variable {packet : List Byte} {ip : ParsedIp}

/-- The length that an IPv6 header states, with the header. -/
def statedIpv6Len (packet : List Byte) : Nat :=
  ipv6HeaderLen + (readBeU16 packet 4).toNat

theorem parseIpv6Datagram_eq_some_iff :
    parseIpv6Datagram packet = some ip ↔
      statedIpv6Len packet ≤ packet.length ∧
        ip = {
          version := .v6
          len := statedIpv6Len packet
          isFragment := hasIpv6FragmentHeader (packet.take (statedIpv6Len packet)) } := by
  have header : ipv6HeaderLen ≤ statedIpv6Len packet := Nat.le_add_right _ _
  rw [parseIpv6Datagram]
  simp only
  constructor
  · intro accepted
    split at accepted
    · cases accepted
    · split at accepted
      · cases accepted
      · rename_i inside
        cases accepted
        exact ⟨not_lt.mp inside, rfl⟩
  · rintro ⟨inside, rfl⟩
    rw [if_neg (not_lt.mpr (header.trans inside))]
    exact if_neg (not_lt.mpr inside)

theorem parseIpDatagram_eq_some_iff :
    parseIpDatagram packet = some ip ↔
      ∃ byte : Byte, packet[0]? = some byte ∧
        (byte >>> 4 = 4#8 ∧ parseIpv4Datagram packet = some ip ∨
          byte >>> 4 = 6#8 ∧ parseIpv6Datagram packet = some ip) := by
  cases packet with
  | nil => simp [parseIpDatagram]
  | cons byte rest =>
    rw [parseIpDatagram, List.getElem?_cons_zero]
    simp only [Option.some.injEq, exists_eq_left']
    by_cases four : byte >>> 4 = 4#8
    · simp [four]
    · by_cases six : byte >>> 4 = 6#8
      · simp [six]
      · simp [four, six]

/-- A parsed datagram without its trailer is parsed alike. -/
theorem parseIpDatagram_take (accepted : parseIpDatagram packet = some ip) :
    parseIpDatagram (packet.take ip.len) = some ip := by
  obtain ⟨byte, first, ⟨four, isIpv4⟩ | ⟨six, isIpv6⟩⟩ := parseIpDatagram_eq_some_iff.mp accepted
  · obtain ⟨fits, rfl⟩ := parseIpv4Datagram_eq_some_iff.mp isIpv4
    have long : 20 ≤ statedTotalLen packet := fits.minimal.trans fits.header
    refine parseIpDatagram_eq_some_iff.mpr ⟨byte, ?_, .inl ⟨four, ?_⟩⟩
    · rw [← first]
      exact List.getElem?_take_of_lt (Nat.lt_of_lt_of_le (by decide) long)
    · refine parseIpv4Datagram_eq_some_iff.mpr ⟨fits.take, ?_⟩
      rw [ipv4Of, ipv4Of]
      simp only
      rw [statedTotalLen_take (by omega), readBeU16_take (by omega)]
  · obtain ⟨inside, rfl⟩ := parseIpv6Datagram_eq_some_iff.mp isIpv6
    have long : 40 ≤ statedIpv6Len packet := Nat.le_add_right _ _
    have same : statedIpv6Len (packet.take (statedIpv6Len packet)) = statedIpv6Len packet := by
      rw [statedIpv6Len, readBeU16_take (by omega)]
      rfl
    refine parseIpDatagram_eq_some_iff.mpr ⟨byte, ?_, .inr ⟨six, ?_⟩⟩
    · rw [← first]
      exact List.getElem?_take_of_lt (Nat.lt_of_lt_of_le (by decide) long)
    · refine parseIpv6Datagram_eq_some_iff.mpr ⟨?_, ?_⟩
      · rw [same, List.length_take, Nat.min_eq_left inside]
      · rw [same, List.take_take, Nat.min_self]

theorem len_le_of_parseIpDatagram (accepted : parseIpDatagram packet = some ip) :
    ip.len ≤ packet.length := by
  obtain ⟨_, _, ⟨_, isIpv4⟩ | ⟨_, isIpv6⟩⟩ := parseIpDatagram_eq_some_iff.mp accepted
  · obtain ⟨fits, rfl⟩ := parseIpv4Datagram_eq_some_iff.mp isIpv4
    exact fits.total
  · obtain ⟨inside, rfl⟩ := parseIpv6Datagram_eq_some_iff.mp isIpv6
    exact inside

/-- The first bits of a parsed datagram are its version. -/
theorem version_of_parseIpDatagram (accepted : parseIpDatagram packet = some ip) :
    ∃ byte : Byte, packet[0]? = some byte ∧
      (byte >>> 4 = 4#8 ∧ ip.version = .v4 ∨ byte >>> 4 = 6#8 ∧ ip.version = .v6) := by
  obtain ⟨byte, first, ⟨four, isIpv4⟩ | ⟨six, isIpv6⟩⟩ := parseIpDatagram_eq_some_iff.mp accepted
  · obtain ⟨_, rfl⟩ := parseIpv4Datagram_eq_some_iff.mp isIpv4
    exact ⟨byte, first, .inl ⟨four, rfl⟩⟩
  · obtain ⟨_, rfl⟩ := parseIpv6Datagram_eq_some_iff.mp isIpv6
    exact ⟨byte, first, .inr ⟨six, rfl⟩⟩

/-- A datagram passes the transmit check exactly under the ethertype of its version. -/
theorem validTxDatagram_take_iff (accepted : parseIpDatagram packet = some ip)
    (whole : ip.isFragment = false) (ethertype : Word) :
    validTxDatagram (packet.take ip.len) ethertype = true ↔
      ip.version = .v4 ∧ ethertype = ethertypeIpv4 ∨
        ip.version = .v6 ∧ ethertype = ethertypeIpv6 := by
  have length : (packet.take ip.len).length = ip.len := by
    rw [List.length_take, Nat.min_eq_left (len_le_of_parseIpDatagram accepted)]
  rw [validTxDatagram, parseIpDatagram_take accepted]
  simp only [length, ne_eq, not_true, if_false]
  cases ip.version with
  | v4 => simp [whole]
  | v6 => simp [whole]

end Datagram

/-! ## Delivered packets -/

section Delivered

variable {side : RxSide} {desc : XdpDesc} {frameAddr : Addr} {frame : List Byte}

theorem ipVerdict_eq_deliver {item : IpPacketReceive XdpPacketBufMut}
    (sliced : side.mapping.descriptorSlice desc.addr desc.len = some (frameAddr, frame))
    (delivered : ipVerdict side desc = .deliver item) :
    ∃ parsed, parseEthernetFrame frame = some parsed ∧ parsed.ip.isFragment = false ∧
      side.wrapRxFrame desc.addr parsed.l2Len parsed.ip.len = some item.packet ∧
      item.info.version = parsed.ip.version := by
  rw [ipVerdict, sliced] at delivered
  simp only at delivered
  split at delivered
  · cases delivered
  · rename_i parsed accepted
    split at delivered
    · cases delivered
    · rename_i whole
      split at delivered
      · cases delivered
      · rename_i packet wrapped
        cases delivered
        exact ⟨parsed, accepted, Bool.eq_false_iff.mpr whole, wrapped, rfl⟩

variable {packet : XdpPacketBufMut}

theorem ipVerdict_of_wrapRxFrame {parsed : ParsedEthernet}
    (sliced : side.mapping.descriptorSlice desc.addr desc.len = some (frameAddr, frame))
    (accepted : parseEthernetFrame frame = some parsed) (whole : parsed.ip.isFragment = false)
    (wrapped : side.wrapRxFrame desc.addr parsed.l2Len parsed.ip.len = some packet) :
    ipVerdict side desc = .deliver {
      packet
      info := { version := parsed.ip.version, len := parsed.ip.len, checksum := .notChecked } } := by
  simp [ipVerdict, sliced, accepted, whole, wrapped]

/-- A wrapped packet reads the bytes that the range has in the descriptor's slice. -/
theorem asSlice_of_wrapRxFrame {offset len : Nat}
    (sliced : side.mapping.descriptorSlice desc.addr desc.len = some (frameAddr, frame))
    (wrapped : side.wrapRxFrame desc.addr offset len = some packet)
    (inside : offset + len ≤ frame.length) :
    packet.asSlice = .ok ((frame.drop offset).take len) := by
  obtain ⟨start, stop, inFrame, rfl⟩ := UmemMapping.descriptorSlice_eq_some sliced
  obtain ⟨rfl, rfl, ends⟩ := Umem.descriptorSlice_range inFrame
  have backing := ends.trans side.mapping.le_length
  have below : (side.mapping.umem.frameOf desc.addr).toNat ≤ desc.addr.toNat := by
    rw [Umem.toNat_frameOf]
    exact Nat.sub_le _ _
  rw [List.length_drop, List.length_take, Nat.min_eq_left backing] at inside
  simp only [RxSide.wrapRxFrame, XdpRxPool.wrapRxFrame, Umem.sub_mod_eq_frameOf] at wrapped
  split at wrapped
  · split at wrapped
    · cases wrapped
    · cases wrapped
      have offsetInFrame : (desc.addr - side.mapping.umem.frameOf desc.addr).toNat =
          desc.addr.toNat - (side.mapping.umem.frameOf desc.addr).toNat :=
        BitVec.toNat_sub_of_le below
      rw [PacketInner.asSlice, PacketInner.len, subUsize, if_pos (Nat.le_add_right _ _),
        Nat.add_sub_cancel_left]
      simp only [bind, Except.bind, PacketStorage.read, XdpStorage.read, offsetInFrame]
      rw [if_pos (by omega), List.drop_drop, List.drop_take, List.take_take,
        Nat.min_eq_left (by omega)]
      congr 3
      omega
  · cases wrapped

/-- The version of the delivered datagram is that of the frame's ethertype, under which
the datagram can be sent again. -/
def MatchesEthertype (frame : List Byte) (item : IpPacketReceive XdpPacketBufMut) : Prop :=
  ∃ ethertype l2Len, l2HeaderOf frame = some (ethertype, l2Len) ∧
    (ethertype = ethertypeIpv4 ↔ item.info.version = .v4) ∧
    (ethertype = ethertypeIpv6 ↔ item.info.version = .v6) ∧
    ∃ datagram, item.packet.asSlice = .ok datagram ∧ validTxDatagram datagram ethertype = true

/-- The ethertype of a frame and the first bits of its datagram state the same
version. -/
def StatesOneVersion (frame : List Byte) : Prop :=
  ∃ ethertype l2Len, l2HeaderOf frame = some (ethertype, l2Len) ∧
    ∃ byte, frame[l2Len]? = some byte ∧
      (ethertype = ethertypeIpv4 ∧ byte >>> 4 = 4#8 ∨ ethertype = ethertypeIpv6 ∧ byte >>> 4 = 6#8)

/-- The receive loop delivers a datagram of the version of its ethertype exactly when the
frame states one version. -/
theorem delivered_matches_ethertype_iff {item : IpPacketReceive XdpPacketBufMut}
    (sliced : side.mapping.descriptorSlice desc.addr desc.len = some (frameAddr, frame))
    (delivered : ipVerdict side desc = .deliver item) :
    MatchesEthertype frame item ↔ StatesOneVersion frame := by
  obtain ⟨parsed, accepted, whole, wrapped, version⟩ := ipVerdict_eq_deliver sliced delivered
  obtain ⟨ethertype, header, isIp, datagram⟩ := parseEthernetFrame_eq_some accepted
  have inside := len_le_of_parseIpDatagram datagram
  have l2Inside := (of_l2HeaderOf header).1
  rw [List.length_drop] at inside
  have bytes := asSlice_of_wrapRxFrame sliced wrapped (by omega)
  have sendable := validTxDatagram_take_iff datagram whole ethertype
  obtain ⟨byte, first, isVersion⟩ := version_of_parseIpDatagram datagram
  rw [List.getElem?_drop, Nat.add_zero] at first
  constructor
  · rintro ⟨_, _, isHeader, _, _, _, isBytes, valid⟩
    rw [header] at isHeader
    cases isHeader
    rw [bytes] at isBytes
    cases isBytes
    refine ⟨ethertype, parsed.l2Len, header, byte, first, ?_⟩
    rcases sendable.mp valid with ⟨isFour, isIpv4⟩ | ⟨isSix, isIpv6⟩
    · rw [isFour] at isVersion
      exact .inl ⟨isIpv4, by simpa using isVersion⟩
    · rw [isSix] at isVersion
      exact .inr ⟨isIpv6, by simpa using isVersion⟩
  · rintro ⟨_, _, isHeader, _, isFirst, states⟩
    rw [header] at isHeader
    cases isHeader
    rw [first] at isFirst
    cases isFirst
    -- Both ways to state the version agree, so that only two cases are left.
    have agree : parsed.ip.version = .v4 ∧ ethertype = ethertypeIpv4 ∨
        parsed.ip.version = .v6 ∧ ethertype = ethertypeIpv6 := by
      rcases states with ⟨isIpv4, four⟩ | ⟨isIpv6, six⟩
      · rw [four] at isVersion
        exact .inl ⟨by simpa using isVersion, isIpv4⟩
      · rw [six] at isVersion
        exact .inr ⟨by simpa using isVersion, isIpv6⟩
    refine ⟨ethertype, parsed.l2Len, header, ?_, ?_, _, bytes, sendable.mpr agree⟩
    · rw [version]
      rcases agree with ⟨isFour, rfl⟩ | ⟨isSix, rfl⟩
      · exact iff_of_true rfl isFour
      · rw [isSix]
        decide
    · rw [version]
      rcases agree with ⟨isFour, rfl⟩ | ⟨isSix, rfl⟩
      · rw [isFour]
        decide
      · exact iff_of_true rfl isSix

end Delivered

/-- The first frame has an IPv4 ethertype and holds an IPv6 header. -/
def sampleMixedSide : RxSide :=
  { sampleRxSide with
    mapping := {
      umem := sampleRxSide.mapping.umem
      backing := List.replicate 12 0#8 ++ [0x08#8, 0x00#8] ++
        [0x60#8, 0#8, 0#8, 0#8, 0#8, 0#8, 59#8, 64#8] ++ List.replicate 234 0#8
      le_length := by decide +kernel } }

/-- An IPv6 datagram behind an IPv4 ethertype is delivered. -/
theorem ipVerdict_delivers_mixed_frame :
    ∃ frame item,
      sampleMixedSide.mapping.descriptorSlice 0#64 54 = some (0#64, frame) ∧
      ipVerdict sampleMixedSide ⟨0#64, 54, 0⟩ = .deliver item ∧
      item.info.version = .v6 ∧ ¬ MatchesEthertype frame item := by
  have sliced : sampleMixedSide.mapping.descriptorSlice 0#64 54 =
      some (0#64, sampleMixedSide.mapping.backing.take 54) := by
    decide +kernel
  have accepted : parseEthernetFrame (sampleMixedSide.mapping.backing.take 54) =
      some { l2Len := 14, ip := { version := .v6, len := 40, isFragment := false } } := by
    decide +kernel
  have header : l2HeaderOf (sampleMixedSide.mapping.backing.take 54) =
      some (ethertypeIpv4, 14) := by
    decide +kernel
  have fits : (sampleMixedSide.wrapRxFrame 0#64 14 40).isSome := by
    decide +kernel
  obtain ⟨packet, wrapped⟩ := Option.isSome_iff_exists.mp fits
  refine ⟨_, _, sliced, ipVerdict_of_wrapRxFrame sliced accepted rfl wrapped, rfl, ?_⟩
  rintro ⟨ethertype, l2Len, isHeader, four, _⟩
  rw [header] at isHeader
  cases isHeader
  cases four.mp rfl

theorem delivered_matches_ethertype_of_ipv4 :
    ∃ frame item,
      sampleRxSide.mapping.descriptorSlice 0#64 34 = some (0#64, frame) ∧
      ipVerdict sampleRxSide ⟨0#64, 34, 0⟩ = .deliver item ∧
      StatesOneVersion frame ∧ MatchesEthertype frame item := by
  have sliced : sampleRxSide.mapping.descriptorSlice 0#64 34 =
      some (0#64, sampleRxSide.mapping.backing.take 34) := by
    decide +kernel
  have accepted : parseEthernetFrame (sampleRxSide.mapping.backing.take 34) =
      some { l2Len := 14, ip := { version := .v4, len := 20, isFragment := false } } := by
    decide +kernel
  have fits : (sampleRxSide.wrapRxFrame 0#64 14 20).isSome := by
    decide +kernel
  obtain ⟨packet, wrapped⟩ := Option.isSome_iff_exists.mp fits
  have delivered := @ipVerdict_of_wrapRxFrame _ ⟨0#64, 34, 0⟩ _ _ _ _ sliced accepted rfl wrapped
  have states : StatesOneVersion (sampleRxSide.mapping.backing.take 34) :=
    ⟨ethertypeIpv4, 14, by decide +kernel, 0x45#8, by decide +kernel, .inl ⟨rfl, by decide⟩⟩
  exact ⟨_, _, sliced, delivered, states,
    (@delivered_matches_ethertype_iff _ ⟨0#64, 34, 0⟩ _ _ _ sliced delivered).mpr states⟩

end FastSocket.Xdp
