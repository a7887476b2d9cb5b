import FastSocket.Xdp.ParseFrame

/-!
# The parsers read inside of their bytes

The parsers with every access checked, in the order in which the source makes the
accesses: an index or a range outside of the bytes, which stops the program, yields
`none`.  No byte string makes them stop, and they answer what the parsers with total
reads answer.
-/

namespace FastSocket.Xdp

open Packet

/-! ## Checked accesses -/

/-- The word in network order at an offset. -/
def readBeU16? (bytes : List Byte) (offset : Nat) : Option Word := do
  let hi ← bytes[offset]?
  let lo ← bytes[offset + 1]?
  return fromBeBytes hi lo

/-- The address at an offset. -/
def readAddr? (bytes : List Byte) (offset : Nat) : Option Ipv4Addr := do
  let first ← bytes[offset]?
  let second ← bytes[offset + 1]?
  let third ← bytes[offset + 2]?
  let fourth ← bytes[offset + 3]?
  return addrOfOctets first second third fourth

/-- The bytes from `start` up to `stop`. -/
def slice? (bytes : List Byte) (start stop : Nat) : Option (List Byte) :=
  if start ≤ stop ∧ stop ≤ bytes.length then some ((bytes.take stop).drop start) else none

variable {α : Type} {frame packet : List Byte} {l2Len : Nat}

section Accesses

variable {bytes : List Byte} {offset : Nat}

theorem getElem?_eq_some_getD (lt : offset < bytes.length) :
    bytes[offset]? = some (bytes.getD offset 0) := by
  rw [List.getD_eq_getElem?_getD, List.getElem?_eq_getElem lt]
  rfl

theorem readBeU16?_eq (lt : offset + 1 < bytes.length) :
    readBeU16? bytes offset = some (readBeU16 bytes offset) := by
  rw [readBeU16?, getElem?_eq_some_getD lt, getElem?_eq_some_getD (by omega)]
  rfl

theorem readAddr?_eq (lt : offset + 3 < bytes.length) :
    readAddr? bytes offset = some (readAddr bytes offset) := by
  rw [readAddr?, getElem?_eq_some_getD lt, getElem?_eq_some_getD (by omega),
    getElem?_eq_some_getD (by omega), getElem?_eq_some_getD (by omega)]
  rfl

variable {start stop : Nat}

theorem slice?_eq (ordered : start ≤ stop) (inside : stop ≤ bytes.length) :
    slice? bytes start stop = some ((bytes.take stop).drop start) :=
  if_pos ⟨ordered, inside⟩

/-- A word of a slice is a word of the bytes. -/
theorem readBeU16_slice (lt : start + offset + 1 < stop) :
    readBeU16 ((bytes.take stop).drop start) offset = readBeU16 bytes (start + offset) := by
  simp only [readBeU16, List.getD_eq_getElem?_getD, List.getElem?_drop, List.getElem?_take]
  rw [if_pos (by omega), if_pos (by omega), Nat.add_assoc]

theorem ite_eq_some_ite {condition : Prop} [Decidable condition] {first second : Option α}
    {yes no : α} (pos : condition → first = some yes) (neg : ¬ condition → second = some no) :
    (if condition then first else second) = some (if condition then yes else no) := by
  split
  · exact pos ‹_›
  · exact neg ‹_›

end Accesses

/-! ## UDP datagrams -/

def parseIpv4UdpDatagram? (packet : List Byte) : Option (UdpParse ParsedIpv4Udp) :=
  if packet.length < ipv4MinHeaderLen then
    some .drop
  else do
    let first : Byte ← packet[0]?
    if first >>> 4 ≠ 4#8 then
      some .drop
    else
      let ihl := (first &&& 0x0f#8).toNat * 4
      if ihl < ipv4MinHeaderLen ∨ packet.length < ihl then
        some .drop
      else do
        let totalLen := (← readBeU16? packet 2).toNat
        if totalLen < ihl ∨ totalLen > packet.length then
          some .drop
        else do
          let fragment ← readBeU16? packet 6
          if fragment &&& ipv4FragmentMask ≠ 0#16 then
            some .fragment
          else do
            let protocol : Byte ← packet[9]?
            if protocol ≠ udpProtocol ∨ totalLen < ihl + udpHeaderLen then
              some .drop
            else do
              let udp ← slice? packet ihl (ihl + udpHeaderLen)
              let udpLen := (← readBeU16? udp 4).toNat
              if udpLen < udpHeaderLen ∨ ihl + udpLen > totalLen then
                some .drop
              else do
                let source ← readAddr? packet 12
                let destination ← readAddr? packet 16
                let sourcePort ← readBeU16? udp 0
                let destinationPort ← readBeU16? udp 2
                let tos : Byte ← packet[1]?
                some (.udp {
                  source
                  destination
                  sourcePort
                  destinationPort
                  ipLen := totalLen
                  payloadOffset := ihl + udpHeaderLen
                  payloadLen := udpLen - udpHeaderLen
                  ecn := ecnFromBits (tos &&& 0x03#8) })

/-- The parse of a frame whose L2 header has the given ethertype and length. -/
def parseBehind? (frame : List Byte) (ethertype : Word) (l2Len : Nat) :
    Option (UdpParse ParsedIpv4Udp) :=
  if ethertype ≠ ethertypeIpv4 then
    some .drop
  else do
    let packet ← slice? frame l2Len frame.length
    let parsed ← parseIpv4UdpDatagram? packet
    some (parsed.behind l2Len)

/-- The frame's ethertype and the length of its L2 header handed to the parser of what
is behind it; a frame that is too short for its header is rejected. -/
def behindL2Header? {α : Type} (frame : List Byte) (rejected : α)
    (parse : Word → Nat → Option α) : Option α :=
  if frame.length < ethernetHeaderLen then
    some rejected
  else do
    let ethertype ← readBeU16? frame 12
    if ethertype = vlanEthertype then
      if frame.length < vlanHeaderLen then
        some rejected
      else do
        let inner ← readBeU16? frame 16
        parse inner vlanHeaderLen
    else
      parse ethertype ethernetHeaderLen

def parseEthernetIpv4Udp? (frame : List Byte) : Option (UdpParse ParsedIpv4Udp) :=
  behindL2Header? frame .drop (parseBehind? frame)

theorem parseIpv4UdpDatagram?_eq (packet : List Byte) :
    parseIpv4UdpDatagram? packet = some (parseIpv4UdpDatagram packet) := by
  rw [parseIpv4UdpDatagram?, parseIpv4UdpDatagram]
  apply ite_eq_some_ite (fun _ => rfl)
  intro long
  simp only [ipv4MinHeaderLen, not_lt] at long
  simp only [getElem?_eq_some_getD (show 0 < packet.length by omega),
    getElem?_eq_some_getD (show 1 < packet.length by omega),
    getElem?_eq_some_getD (show 9 < packet.length by omega),
    readBeU16?_eq (show 2 + 1 < packet.length by omega),
    readBeU16?_eq (show 6 + 1 < packet.length by omega),
    readAddr?_eq (show 12 + 3 < packet.length by omega),
    readAddr?_eq (show 16 + 3 < packet.length by omega), Option.bind_eq_bind, Option.bind_some]
  apply ite_eq_some_ite (fun _ => rfl)
  intro _
  apply ite_eq_some_ite (fun _ => rfl)
  intro _
  apply ite_eq_some_ite (fun _ => rfl)
  intro totalInside
  apply ite_eq_some_ite (fun _ => rfl)
  intro _
  apply ite_eq_some_ite (fun _ => rfl)
  intro udpInside
  -- The UDP header lies in the packet, so its slice has eight bytes.
  have inside : statedIhl packet + udpHeaderLen ≤ packet.length := by
    rw [not_or] at totalInside udpInside
    exact (not_lt.mp udpInside.2).trans (not_lt.mp totalInside.2)
  have slice := slice?_eq (Nat.le_add_right (statedIhl packet) udpHeaderLen) inside
  have len : ((packet.take (statedIhl packet + udpHeaderLen)).drop (statedIhl packet)).length =
      8 := by
    rw [List.length_drop, List.length_take, Nat.min_eq_left inside, Nat.add_sub_cancel_left]
    rfl
  change (slice? packet (statedIhl packet) (statedIhl packet + udpHeaderLen)).bind _ = _
  rw [slice, Option.bind_some, readBeU16?_eq (by omega), Option.bind_some, readBeU16?_eq (by omega),
    readBeU16?_eq (by omega), readBeU16_slice (by simp [udpHeaderLen]),
    readBeU16_slice (by simp [udpHeaderLen]), readBeU16_slice (by simp [udpHeaderLen])]
  apply ite_eq_some_ite (fun _ => rfl)
  intro _
  rfl

theorem parseBehind?_eq (ethertype : Word) (inside : l2Len ≤ frame.length) :
    parseBehind? frame ethertype l2Len = some (parseBehind frame ethertype l2Len) := by
  apply ite_eq_some_ite (fun _ => rfl)
  intro _
  rw [slice?_eq inside le_rfl, Option.bind_eq_bind, Option.bind_some, parseIpv4UdpDatagram?_eq,
    List.take_length]
  rfl

/-- The header is read inside of the frame, so a parser that does not stop behind it
does not stop at all. -/
theorem behindL2Header?_eq {rejected : α} {parse? : Word → Nat → Option α} {parse : Word → Nat → α}
    (answers : ∀ ethertype l2Len, l2Len ≤ frame.length →
      parse? ethertype l2Len = some (parse ethertype l2Len)) :
    behindL2Header? frame rejected parse? =
      some (if frame.length < ethernetHeaderLen then rejected
        else if readBeU16 frame 12 = vlanEthertype then
          if frame.length < vlanHeaderLen then rejected
          else parse (readBeU16 frame 16) vlanHeaderLen
        else parse (readBeU16 frame 12) ethernetHeaderLen) := by
  apply ite_eq_some_ite (fun _ => rfl)
  intro long
  rw [readBeU16?_eq (Nat.lt_of_lt_of_le (by decide) (not_lt.mp long)), Option.bind_eq_bind,
    Option.bind_some]
  apply ite_eq_some_ite
  · intro _
    apply ite_eq_some_ite (fun _ => rfl)
    intro longTag
    rw [readBeU16?_eq (Nat.lt_of_lt_of_le (by decide) (not_lt.mp longTag)), Option.bind_some]
    exact answers _ _ (not_lt.mp longTag)
  · intro _
    exact answers _ _ (not_lt.mp long)

theorem parseEthernetIpv4Udp?_eq (frame : List Byte) :
    parseEthernetIpv4Udp? frame = some (parseEthernetIpv4Udp frame) :=
  behindL2Header?_eq fun ethertype _ inside => parseBehind?_eq ethertype inside

/-! ## IP datagrams -/

/-- The loop over IPv6 extension headers; it also yields `none` when it runs out of
rounds. -/
def hasFragmentHeaderFrom? (packet : List Byte) : (rounds : Nat) → Byte → Nat → Option Bool
  | 0, _, _ => none
  | rounds + 1, next, offset =>
    let skip (extensionLen : Byte → Nat) : Option Bool :=
      if offset + 2 > packet.length then
        some false
      else do
        let nextHeader ← packet[offset]?
        let units ← packet[offset + 1]?
        if offset + extensionLen units > packet.length then
          some false
        else
          hasFragmentHeaderFrom? packet rounds nextHeader (offset + extensionLen units)
    if next = ipv6NextHeaderFragment then
      some true
    else if next = 0#8 ∨ next = 43#8 ∨ next = 60#8 then
      skip fun units => (units.toNat + 1) * 8
    else if next = 51#8 then
      skip fun units => (units.toNat + 2) * 4
    else
      some false

def hasIpv6FragmentHeader? (packet : List Byte) : Option Bool := do
  let next ← packet[6]?
  hasFragmentHeaderFrom? packet packet.length next ipv6HeaderLen

def parseIpv4Datagram? (packet : List Byte) : Option (Option ParsedIp) :=
  if packet.length < ipv4MinHeaderLen then
    some none
  else do
    let first : Byte ← packet[0]?
    let ihl := (first &&& 0x0f#8).toNat * 4
    if ihl < ipv4MinHeaderLen ∨ packet.length < ihl then
      some none
    else do
      let totalLen := (← readBeU16? packet 2).toNat
      if totalLen < ihl ∨ totalLen > packet.length then
        some none
      else do
        let fragment ← readBeU16? packet 6
        some (some {
          version := .v4
          len := totalLen
          isFragment := fragment &&& ipv4FragmentMask ≠ 0#16 })

def parseIpv6Datagram? (packet : List Byte) : Option (Option ParsedIp) :=
  if packet.length < ipv6HeaderLen then
    some none
  else do
    let payloadLen := (← readBeU16? packet 4).toNat
    let totalLen := ipv6HeaderLen + payloadLen
    if totalLen > packet.length then
      some none
    else do
      let datagram ← slice? packet 0 totalLen
      let isFragment ← hasIpv6FragmentHeader? datagram
      some (some { version := .v6, len := totalLen, isFragment })

def parseIpDatagram? (packet : List Byte) : Option (Option ParsedIp) :=
  match packet with
  | [] => some none
  | byte :: _ =>
    if byte >>> 4 = 4#8 then parseIpv4Datagram? packet
    else if byte >>> 4 = 6#8 then parseIpv6Datagram? packet
    else some none

/-- The parse of a frame whose L2 header has the given ethertype and length. -/
def parseIpBehind? (frame : List Byte) (ethertype : Word) (l2Len : Nat) :
    Option (Option ParsedEthernet) :=
  if ethertype ≠ ethertypeIpv4 ∧ ethertype ≠ ethertypeIpv6 then
    some none
  else do
    let packet ← slice? frame l2Len frame.length
    let parsed ← parseIpDatagram? packet
    some (parsed.map fun ip => { l2Len, ip })

def parseEthernetFrame? (frame : List Byte) : Option (Option ParsedEthernet) :=
  behindL2Header? frame none (parseIpBehind? frame)

/-- An extension header has eight bytes at least, so the rounds outlast the packet. -/
theorem hasFragmentHeaderFrom?_eq {rounds : Nat} (next : Byte) {offset : Nat}
    (inside : offset ≤ packet.length) (enough : packet.length < offset + rounds) :
    hasFragmentHeaderFrom? packet rounds next offset =
      some (hasFragmentHeaderFrom packet rounds next offset) := by
  induction rounds generalizing next offset with
  | zero => exact absurd enough (Nat.not_lt.mpr inside)
  | succ rounds ih =>
    rw [hasFragmentHeaderFrom?, hasFragmentHeaderFrom]
    apply ite_eq_some_ite (fun _ => rfl)
    intro _
    apply ite_eq_some_ite
    · intro _
      apply ite_eq_some_ite (fun _ => rfl)
      intro readable
      rw [getElem?_eq_some_getD (by omega), getElem?_eq_some_getD (by omega)]
      apply ite_eq_some_ite (fun _ => rfl)
      intro fits
      simp only [not_lt] at fits
      apply ih _ fits
      omega
    · intro _
      apply ite_eq_some_ite
      · intro _
        apply ite_eq_some_ite (fun _ => rfl)
        intro readable
        rw [getElem?_eq_some_getD (by omega), getElem?_eq_some_getD (by omega)]
        apply ite_eq_some_ite (fun _ => rfl)
        intro fits
        simp only [not_lt] at fits
        apply ih _ fits
        omega
      · intro _
        rfl

theorem hasIpv6FragmentHeader?_eq (long : ipv6HeaderLen ≤ packet.length) :
    hasIpv6FragmentHeader? packet = some (hasIpv6FragmentHeader packet) := by
  have positive : 0 < ipv6HeaderLen := by decide
  rw [hasIpv6FragmentHeader?,
    getElem?_eq_some_getD (Nat.lt_of_lt_of_le (by decide : 6 < ipv6HeaderLen) long)]
  apply hasFragmentHeaderFrom?_eq _ long
  omega

theorem parseIpv4Datagram?_eq (packet : List Byte) :
    parseIpv4Datagram? packet = some (parseIpv4Datagram packet) := by
  apply ite_eq_some_ite (fun _ => rfl)
  intro long
  simp only [ipv4MinHeaderLen, not_lt] at long
  simp only [getElem?_eq_some_getD (show 0 < packet.length by omega),
    readBeU16?_eq (show 2 + 1 < packet.length by omega),
    readBeU16?_eq (show 6 + 1 < packet.length by omega), Option.bind_eq_bind, Option.bind_some]
  apply ite_eq_some_ite (fun _ => rfl)
  intro _
  apply ite_eq_some_ite (fun _ => rfl)
  intro _
  rfl

theorem parseIpv6Datagram?_eq (packet : List Byte) :
    parseIpv6Datagram? packet = some (parseIpv6Datagram packet) := by
  apply ite_eq_some_ite (fun _ => rfl)
  intro long
  rw [readBeU16?_eq (Nat.lt_of_lt_of_le (by decide) (not_lt.mp long)), Option.bind_eq_bind,
    Option.bind_some]
  apply ite_eq_some_ite (fun _ => rfl)
  intro inside
  rw [slice?_eq (Nat.zero_le _) (not_lt.mp inside), Option.bind_eq_bind,
    Option.bind_some, List.drop_zero, hasIpv6FragmentHeader?_eq, Option.bind_eq_bind,
    Option.bind_some]
  rw [List.length_take, Nat.min_eq_left (not_lt.mp inside)]
  exact Nat.le_add_right _ _

theorem parseIpDatagram?_eq (packet : List Byte) :
    parseIpDatagram? packet = some (parseIpDatagram packet) := by
  cases packet with
  | nil => rfl
  | cons byte rest =>
    apply ite_eq_some_ite (fun _ => parseIpv4Datagram?_eq _)
    intro _
    apply ite_eq_some_ite (fun _ => parseIpv6Datagram?_eq _)
    intro _
    rfl

theorem parseIpBehind?_eq (ethertype : Word) (inside : l2Len ≤ frame.length) :
    parseIpBehind? frame ethertype l2Len = some (parseIpBehind frame ethertype l2Len) := by
  apply ite_eq_some_ite (fun _ => rfl)
  intro _
  rw [slice?_eq inside le_rfl, Option.bind_eq_bind, Option.bind_some, parseIpDatagram?_eq,
    List.take_length]
  rfl

theorem parseEthernetFrame?_eq (frame : List Byte) :
    parseEthernetFrame? frame = some (parseEthernetFrame frame) :=
  behindL2Header?_eq fun ethertype _ inside => parseIpBehind?_eq ethertype inside

/-! ## The direct parser and the layered one -/

/-- The parser of the UDP receive path answers what parsing in layers answers, no parser
reads outside of its bytes, and an accepted payload lies in its datagram in the
frame. -/
theorem parseEthernetIpv4Udp_agrees (frame : List Byte) :
    (StatesIpv4 frame → parseEthernetIpv4Udp frame = parseLayeredUdp frame) ∧
      parseEthernetIpv4Udp? frame = some (parseEthernetIpv4Udp frame) ∧
      parseEthernetFrame? frame = some (parseEthernetFrame frame) ∧
      (∀ packet, parseIpv4UdpDatagram? packet = some (parseIpv4UdpDatagram packet)) ∧
      ∀ parsed, parseEthernetIpv4Udp frame = .udp parsed →
        ∃ l2Len, l2HeaderOf frame = some (ethertypeIpv4, l2Len) ∧
          l2Len ≤ parsed.payloadOffset ∧
          parsed.payloadOffset + parsed.payloadLen ≤ l2Len + parsed.ipLen ∧
          l2Len + parsed.ipLen ≤ frame.length :=
  ⟨parseEthernetIpv4Udp_eq_parseLayeredUdp, parseEthernetIpv4Udp?_eq frame,
    parseEthernetFrame?_eq frame, parseIpv4UdpDatagram?_eq,
    fun _ => range_of_parseEthernetIpv4Udp⟩

/-- A tagged frame with a four byte payload and two bytes of trailer. -/
def sampleTaggedFrame : List Byte :=
  List.replicate 12 0#8 ++ [0x81#8, 0x00#8, 0x00#8, 0x07#8, 0x08#8, 0x00#8] ++
    [0x45#8, 0x02#8, 0x00#8, 0x20#8, 0#8, 0#8, 0#8, 0#8, 64#8, 17#8, 0#8, 0#8,
      10#8, 0#8, 0#8, 1#8, 10#8, 0#8, 0#8, 2#8] ++
    [0x03#8, 0xe8#8, 0x07#8, 0xd0#8, 0x00#8, 0x0c#8, 0#8, 0#8] ++
    [1#8, 2#8, 3#8, 4#8] ++ [0#8, 0#8]

theorem parseEthernetIpv4Udp_agrees_on_tagged :
    StatesIpv4 sampleTaggedFrame ∧
      parseLayeredUdp sampleTaggedFrame =
        .udp {
          source := 0x0a000001#32
          destination := 0x0a000002#32
          sourcePort := 1000#16
          destinationPort := 2000#16
          ipLen := 32
          payloadOffset := 46
          payloadLen := 4
          ecn := some .ect0 } := by
  have isIpv4 : StatesIpv4 sampleTaggedFrame :=
    ⟨18, by decide +kernel, 0x45#8, by decide +kernel, by decide⟩
  refine ⟨isIpv4, ?_⟩
  rw [← (parseEthernetIpv4Udp_agrees sampleTaggedFrame).1 isIpv4]
  decide +kernel

end FastSocket.Xdp
