import FastSocket.Xdp.CheckedParse
import FastSocket.Xdp.ReceiveVersion

/-!
# IPv6 fragments

A fragment is behind a chain of extension headers.  The loop over the headers answers
whether the chain leads to a fragment header, after as many rounds as the datagram has
room for headers.
-/

namespace FastSocket.Xdp

open Packet Spsc

/-- The length of an extension header of the given type, by its length byte. -/
def extensionLen? (next : Byte) : Option (Byte → Nat) :=
  if next = 0#8 ∨ next = 43#8 ∨ next = 60#8 then some fun units => (units.toNat + 1) * 8
  else if next = 51#8 then some fun units => (units.toNat + 2) * 4
  else none

/-- Extension headers that lie in the packet lead from a header to a fragment header. -/
inductive FragmentChain (packet : List Byte) : Byte → Nat → Prop
  | fragment {offset : Nat} : FragmentChain packet ipv6NextHeaderFragment offset
  | skip {next nextHeader units : Byte} {offset : Nat} {len : Byte → Nat}
      (isLen : extensionLen? next = some len) (first : packet[offset]? = some nextHeader)
      (second : packet[offset + 1]? = some units) (inside : offset + len units ≤ packet.length)
      (rest : FragmentChain packet nextHeader (offset + len units)) :
      FragmentChain packet next offset

/-- The packet is an IPv6 datagram with a fragment header. -/
def IsIpv6Fragment (packet : List Byte) : Prop :=
  (∃ byte : Byte, packet[0]? = some byte ∧ byte >>> 4 = 6#8) ∧
    ∃ next, packet[6]? = some next ∧ FragmentChain packet next ipv6HeaderLen

/-! ## The loop -/

section Loop

variable {packet : List Byte} {next : Byte} {offset : Nat}

theorem eight_le_of_extensionLen? {len : Byte → Nat} (isLen : extensionLen? next = some len)
    (units : Byte) : 8 ≤ len units := by
  rw [extensionLen?] at isLen
  split at isLen
  · cases isLen
    dsimp only
    omega
  · obtain ⟨_, ⟨⟩⟩ := Option.ite_none_right_eq_some.mp isLen
    dsimp only
    omega

/-- A chain that starts with another header goes on behind it. -/
theorem fragmentChain_iff (isOther : next ≠ ipv6NextHeaderFragment) :
    FragmentChain packet next offset ↔
      ∃ len nextHeader units, extensionLen? next = some len ∧ packet[offset]? = some nextHeader ∧
        packet[offset + 1]? = some units ∧ offset + len units ≤ packet.length ∧
        FragmentChain packet nextHeader (offset + len units) := by
  constructor
  · intro chain
    cases chain with
    | fragment => exact absurd rfl isOther
    | skip isLen first second inside rest => exact ⟨_, _, _, isLen, first, second, inside, rest⟩
  · rintro ⟨_, _, _, isLen, first, second, inside, rest⟩
    exact .skip isLen first second inside rest

/-- The round of the loop at another header. -/
theorem hasFragmentHeaderFrom?_succ (rounds : Nat) (isOther : next ≠ ipv6NextHeaderFragment) :
    hasFragmentHeaderFrom? packet (rounds + 1) next offset =
      match extensionLen? next with
      | none => some false
      | some len =>
        if offset + 2 > packet.length then some false
        else
          packet[offset]?.bind fun nextHeader => packet[offset + 1]?.bind fun units =>
            if offset + len units > packet.length then some false
            else hasFragmentHeaderFrom? packet rounds nextHeader (offset + len units) := by
  rw [hasFragmentHeaderFrom?, if_neg isOther]
  by_cases options : next = 0#8 ∨ next = 43#8 ∨ next = 60#8
  · simp [extensionLen?, options]
  · by_cases authentication : next = 51#8
    · simp [extensionLen?, authentication]
    · simp [extensionLen?, options, authentication]

/-- The loop answers whether the chain leads to a fragment header.  A header has eight bytes
at least, so that the rounds outlast the packet. -/
theorem hasFragmentHeaderFrom?_spec {rounds : Nat} (inside : offset ≤ packet.length)
    (enough : (packet.length - offset) / 8 < rounds) :
    ∃ answer, hasFragmentHeaderFrom? packet rounds next offset = some answer ∧
      (answer = true ↔ FragmentChain packet next offset) := by
  induction rounds generalizing next offset with
  | zero => omega
  | succ rounds ih =>
    by_cases isFragment : next = ipv6NextHeaderFragment
    · subst isFragment
      exact ⟨true, by simp [hasFragmentHeaderFrom?], iff_of_true rfl .fragment⟩
    · rw [hasFragmentHeaderFrom?_succ rounds isFragment, fragmentChain_iff isFragment]
      cases isLen : extensionLen? next with
      | none => exact ⟨false, rfl, by simp⟩
      | some len =>
        dsimp only
        split
        · rename_i short
          refine ⟨false, rfl, iff_of_false Bool.false_ne_true ?_⟩
          rintro ⟨_, _, _, _, _, second, _⟩
          have := (List.getElem?_eq_some_iff.mp second).1
          omega
        · have first := List.getElem?_eq_getElem (by omega : offset < packet.length)
          have second := List.getElem?_eq_getElem (by omega : offset + 1 < packet.length)
          simp only [first, second, Option.bind_some, Option.some.injEq, exists_and_left,
            exists_eq_left']
          split
          · exact ⟨false, rfl, by simp; omega⟩
          · have long := eight_le_of_extensionLen? isLen packet[offset + 1]
            obtain ⟨answer, answers, isAnswer⟩ :=
              @ih packet[offset] (offset + len packet[offset + 1]) (by omega) (by omega)
            exact ⟨answer, answers, isAnswer.trans (and_iff_right (by omega)).symm⟩

end Loop

/-! ## Datagrams -/

section Datagram

variable {packet : List Byte} {ip : ParsedIp}

/-- The answer of the parser is that of the loop, after a round for each header there is
room for. -/
theorem isFragment_spec (accepted : parseIpv6Datagram packet = some ip) :
    ∃ next, (packet.take ip.len)[6]? = some next ∧
      hasFragmentHeaderFrom? (packet.take ip.len)
        (((packet.take ip.len).length - ipv6HeaderLen) / 8 + 1) next ipv6HeaderLen =
          some ip.isFragment ∧
      (ip.isFragment = true ↔ FragmentChain (packet.take ip.len) next ipv6HeaderLen) := by
  obtain ⟨inside, rfl⟩ := parseIpv6Datagram_eq_some_iff.mp accepted
  dsimp only
  generalize isDatagram : packet.take (statedIpv6Len packet) = datagram
  have long : ipv6HeaderLen ≤ datagram.length := by
    rw [← isDatagram, List.length_take, Nat.min_eq_left inside]
    exact Nat.le_add_right _ _
  have header : ipv6HeaderLen = 40 := rfl
  obtain ⟨answer, answers, isAnswer⟩ := @hasFragmentHeaderFrom?_spec datagram (datagram.getD 6 0)
    ipv6HeaderLen ((datagram.length - ipv6HeaderLen) / 8 + 1) long (Nat.lt_succ_self _)
  obtain ⟨whole, wholeAnswers, isWhole⟩ := @hasFragmentHeaderFrom?_spec datagram
    (datagram.getD 6 0) ipv6HeaderLen datagram.length long (by omega)
  rw [hasFragmentHeaderFrom?_eq _ long (by omega), Option.some.injEq] at wholeAnswers
  have same : hasIpv6FragmentHeader datagram = answer :=
    wholeAnswers.trans (Bool.eq_iff_iff.mpr (isWhole.trans isAnswer.symm))
  rw [same]
  exact ⟨_, getElem?_eq_some_getD (by omega), answers, isAnswer⟩

theorem parseIpv6Datagram_append (accepted : parseIpv6Datagram packet = some ip)
    (trailing : List Byte) : parseIpv6Datagram (packet ++ trailing) = some ip := by
  obtain ⟨inside, isIp⟩ := parseIpv6Datagram_eq_some_iff.mp accepted
  have long : 40 ≤ statedIpv6Len packet := Nat.le_add_right _ _
  have same : statedIpv6Len (packet ++ trailing) = statedIpv6Len packet := by
    have taken := @readBeU16_take (packet ++ trailing) 4 packet.length (by omega)
    rw [List.take_left] at taken
    rw [statedIpv6Len, statedIpv6Len, taken]
  refine parseIpv6Datagram_eq_some_iff.mpr ⟨?_, ?_⟩
  · rw [same, List.length_append]
    omega
  · rw [isIp, same, List.take_append_of_le_length inside]

/-- A datagram that is parsed to its end as none of a fragment has no fragment header. -/
theorem not_isIpv6Fragment (accepted : parseIpDatagram packet = some ip)
    (whole : ip.len = packet.length) (unfragmented : ip.isFragment = false) :
    ¬ IsIpv6Fragment packet := by
  rintro ⟨⟨byte, isByte, six⟩, next, isNext, chain⟩
  obtain ⟨first, isFirst, ⟨four, -⟩ | ⟨-, isIpv6⟩⟩ := parseIpDatagram_eq_some_iff.mp accepted
  · cases isByte.symm.trans isFirst
    rw [six] at four
    cases four
  · obtain ⟨other, isOther, -, answer⟩ := isFragment_spec isIpv6
    rw [whole, List.take_length] at isOther answer
    cases isNext.symm.trans isOther
    rw [unfragmented] at answer
    cases answer.mpr chain

theorem not_isIpv6Fragment_of_validTxDatagram {ethertype : Word}
    (valid : validTxDatagram packet ethertype = true) : ¬ IsIpv6Fragment packet := by
  rw [validTxDatagram] at valid
  cases accepted : parseIpDatagram packet with
  | none => simp [accepted] at valid
  | some ip =>
    rw [accepted] at valid
    simp only [ne_eq, ite_not] at valid
    split at valid
    · rename_i whole
      apply not_isIpv6Fragment accepted whole
      cases isVersion : ip.version with
      | v4 => simp_all
      | v6 => simp_all
    · cases valid

end Datagram

/-! ## Delivered datagrams -/

theorem mem_of_receiveDescs {α : Type*} {umem : Umem} {verdict : XdpDesc → RxVerdict α}
    {descs : List XdpDesc} {delivered : Nat} {before after : RxPass α} {result : Except Error Nat}
    (run : receiveDescs umem verdict descs delivered before = some (result, after)) {item : α}
    (member : item ∈ after.out.items) :
    item ∈ before.out.items ∨ ∃ desc, verdict desc = .deliver item := by
  induction descs generalizing delivered before with
  | nil =>
    cases run
    exact .inl member
  | cons desc rest ih =>
    rw [receiveDescs] at run
    cases isVerdict : verdict desc with
    | corrupt =>
      rw [isVerdict] at run
      cases run
      exact .inl member
    | recycle frameAddr =>
      rw [isVerdict] at run
      have later := ih run
      exact later
    | deliver pushed =>
      rw [isVerdict] at run
      dsimp only at run
      split at run
      · cases run
      · rename_i out push
        rcases ih run with early | later
        · rw [RecvBatch.items_of_push _ push, List.mem_append, List.mem_singleton] at early
          rcases early with old | rfl
          · exact .inl old
          · exact .inr ⟨desc, isVerdict⟩
        · exact .inr later

/-- The IP socket delivers no IPv6 fragment. -/
theorem not_isIpv6Fragment_of_ipVerdict {side : RxSide} {desc : XdpDesc}
    {item : IpPacketReceive XdpPacketBufMut} (delivered : ipVerdict side desc = .deliver item) :
    ∃ datagram, item.packet.asSlice = .ok datagram ∧ ¬ IsIpv6Fragment datagram := by
  cases sliced : side.mapping.descriptorSlice desc.addr desc.len with
  | none =>
    rw [ipVerdict, sliced] at delivered
    cases delivered
  | some slice =>
    obtain ⟨frameAddr, frame⟩ := slice
    obtain ⟨parsed, accepted, unfragmented, wrapped, -⟩ := ipVerdict_eq_deliver sliced delivered
    obtain ⟨ethertype, header, -, isIp⟩ := parseEthernetFrame_eq_some accepted
    have inside := len_le_of_parseIpDatagram isIp
    have l2Inside := (of_l2HeaderOf header).1
    have bytes := asSlice_of_wrapRxFrame sliced wrapped (by rw [List.length_drop] at inside; omega)
    refine ⟨_, bytes, not_isIpv6Fragment (parseIpDatagram_take isIp) ?_ unfragmented⟩
    rw [List.length_take, Nat.min_eq_left inside]

/-- The fragment check of every byte string that the IPv6 parser accepts ends after a round
for each header there is room for, reads inside of the datagram, and tells whether its
chain of extension headers leads to a fragment header; bytes behind the datagram do not
matter.  No IPv6 datagram with such a chain passes the transmit check or is delivered. -/
theorem ipv6_fragments_recognised :
    (∀ packet ip, parseIpv6Datagram packet = some ip →
      (∃ next, (packet.take ip.len)[6]? = some next ∧
        hasFragmentHeaderFrom? (packet.take ip.len)
          (((packet.take ip.len).length - ipv6HeaderLen) / 8 + 1) next ipv6HeaderLen =
            some ip.isFragment ∧
        (ip.isFragment = true ↔ FragmentChain (packet.take ip.len) next ipv6HeaderLen)) ∧
      ∀ trailing, parseIpv6Datagram (packet ++ trailing) = some ip) ∧
    (∀ packet ethertype, validTxDatagram packet ethertype = true → ¬ IsIpv6Fragment packet) ∧
    ∀ side rx out result pass,
      (receiveBatch side.mapping.umem (ipVerdict side) rx out).1 = some (result, pass) →
      ∀ item ∈ pass.out.items, item ∈ out.items ∨
        ∃ datagram, item.packet.asSlice = .ok datagram ∧ ¬ IsIpv6Fragment datagram := by
  refine ⟨?_, fun _ _ => not_isIpv6Fragment_of_validTxDatagram, ?_⟩
  · exact fun packet ip accepted => ⟨isFragment_spec accepted, parseIpv6Datagram_append accepted⟩
  · intro side rx out result pass run item member
    refine (mem_of_receiveDescs run member).imp_right ?_
    rintro ⟨desc, delivered⟩
    exact not_isIpv6Fragment_of_ipVerdict delivered

/-- A datagram with a header of hop-by-hop options and one of destination options, which
announces a fragment header. -/
def chainedFragment : List Byte :=
  [0x60#8, 0, 0, 0, 0, 16, 0, 64] ++ List.replicate 32 0 ++ 60 :: List.replicate 7 0 ++
    44 :: List.replicate 7 0

theorem ipv6_fragments_recognised_chained :
    ∃ ip, parseIpv6Datagram chainedFragment = some ip ∧
      FragmentChain (chainedFragment.take ip.len) 0#8 ipv6HeaderLen := by
  have accepted : parseIpv6Datagram chainedFragment = some ⟨.v6, 56, true⟩ := by decide +kernel
  obtain ⟨next, isNext, -, answer⟩ := (ipv6_fragments_recognised.1 _ _ accepted).1
  cases isNext
  exact ⟨_, accepted, answer.mp rfl⟩

end FastSocket.Xdp
