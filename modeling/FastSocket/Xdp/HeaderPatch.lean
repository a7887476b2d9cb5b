import FastSocket.Xdp.EndpointHeader

/-!
# Incremental header patching against a full rebuild

A patched header equals the rebuilt one exactly when the incremental checksum
does.  The update adds the carry back once; this loses a carry when the sum of
the header words at the new, larger length leaves residue one, and only then.
-/

namespace FastSocket.Xdp

open Packet OnesComplement

/-! ## The incremental checksum -/

theorem fixedSum_pos (fields : Ipv4UdpHeaderFields) : 0 < fixedSum fields := by
  have version : fixedSum fields = (fromBeBytes 0x45#8 (ecnBits fields.ecn)).toNat + _ := rfl
  rw [version, toNat_fromBeBytes]
  exact Nat.add_pos_left (Nat.add_pos_left (by decide) _) _

/-- The folded sum of a header with its length and no checksum. -/
def headerSum (fields : Ipv4UdpHeaderFields) : Nat :=
  foldAll (2 ^ 16) (fixedSum fields + fields.totalLen.toNat)

theorem headerSum_lt (fields : Ipv4UdpHeaderFields) : headerSum fields < 65536 :=
  foldAll_lt (by decide) _

theorem headerSum_pos (fields : Ipv4UdpHeaderFields) : 0 < headerSum fields :=
  foldAll_pos (by decide) (Nat.add_pos_left (fixedSum_pos fields) _)

theorem headerSum_mod (fields : Ipv4UdpHeaderFields) :
    headerSum fields % 65535 = (fixedSum fields + fields.totalLen.toNat) % 65535 :=
  foldAll_modEq (by decide) _

theorem rebuiltChecksum_eq (fields : Ipv4UdpHeaderFields) :
    rebuiltChecksum fields = ~~~ BitVec.ofNat 16 (headerSum fields) :=
  rfl

theorem toNat_rebuiltChecksum (fields : Ipv4UdpHeaderFields) :
    (rebuiltChecksum fields).toNat = 65535 - headerSum fields := by
  have bound := headerSum_lt fields
  rw [rebuiltChecksum_eq, BitVec.toNat_not, BitVec.toNat_ofNat, Nat.mod_eq_of_lt bound]

/-- A rebuilt header verifies. -/
theorem ipv4HeaderChecksum_rebuilt (fields : Ipv4UdpHeaderFields) :
    ipv4HeaderChecksum ((headerBytes fields (rebuiltChecksum fields)).take ipv4MinHeaderLen) =
      0#16 := by
  have bound := headerSum_lt fields
  have residue := headerSum_mod fields
  have positive := fixedSum_pos fields
  rw [ipv4HeaderChecksum, sumWords_headerBytes, toNat_rebuiltChecksum]
  have folded : foldAll (2 ^ 16)
      (fixedSum fields + fields.totalLen.toNat + (65535 - headerSum fields)) = 65535 := by
    rw [foldAll_eq_iff (by decide) (by omega) (by decide) (by decide)]
    change 65535 % 65535 = _ % 65535
    omega
  rw [folded]
  rfl

/-- A longer length whose header sum leaves residue one. -/
def LosesCarry (fixed old new : Nat) : Prop :=
  old < new ∧ (fixed + new) % 65535 = 1

instance (fixed old new : Nat) : Decidable (LosesCarry fixed old new) :=
  inferInstanceAs (Decidable (_ ∧ _))

section Carry

variable {fixed old new oldSum : Nat}

/-- The sum of the incremental update needs a second fold exactly when a carry is
lost. -/
theorem losesCarry_iff (oldLe : old ≤ 65535) (newLe : new ≤ 65535) (oldSumPos : 0 < oldSum)
    (oldSumLe : oldSum ≤ 65535) (residue : oldSum % 65535 = (fixed + old) % 65535) :
    LosesCarry fixed old new ↔ oldSum + (65535 - old) + new = 131071 := by
  rw [LosesCarry]
  constructor
  · rintro ⟨longer, one⟩
    have shifted : (oldSum + (new - old)) % 65535 = 1 := by omega
    omega
  · intro full
    have shifted : oldSum + new = 65536 + old := by omega
    exact ⟨by omega, by omega⟩

/-- One fold of the update is the folded sum at the new length unless a carry is
lost. -/
theorem foldOnce_mod_eq_iff {newSum : Nat} (oldLe : old ≤ 65535) (newLe : new ≤ 65535)
    (oldSumPos : 0 < oldSum) (oldSumLe : oldSum ≤ 65535)
    (residue : oldSum % 65535 = (fixed + old) % 65535) (newSumPos : 0 < newSum)
    (newSumLt : newSum < 65536) (newResidue : newSum % 65535 = (fixed + new) % 65535) :
    foldOnce (2 ^ 16) (oldSum + (65535 - old) + new) % 2 ^ 16 = newSum ↔
      ¬ LosesCarry fixed old new := by
  rw [losesCarry_iff oldLe newLe oldSumPos oldSumLe residue]
  by_cases full : oldSum + (65535 - old) + new = 131071
  · rw [full]
    have zero : foldOnce (2 ^ 16) 131071 % 2 ^ 16 = 0 := rfl
    rw [zero]
    exact ⟨fun same => by omega, fun not => absurd rfl not⟩
  · refine ⟨fun _ => full, fun _ => ?_⟩
    have once := foldOnce_modEq (show 0 < 2 ^ 16 by decide) (oldSum + (65535 - old) + new)
    have positive : 0 < foldOnce (2 ^ 16) (oldSum + (65535 - old) + new) :=
      foldOnce_pos (by omega)
    have small : foldOnce (2 ^ 16) (oldSum + (65535 - old) + new) < 2 ^ 16 := by
      rw [foldOnce]
      omega
    rw [Nat.mod_eq_of_lt small]
    refine eq_of_modEq positive small newSumPos newSumLt (once.trans ?_)
    change _ % 65535 = _ % 65535
    omega

end Carry

/-- The incremental checksum is the rebuilt one unless a carry is lost. -/
theorem ipv4ChecksumReplaceWord_eq_iff (fields : Ipv4UdpHeaderFields) (new : Word) :
    ipv4ChecksumReplaceWord (rebuiltChecksum fields) fields.totalLen new =
        rebuiltChecksum { fields with totalLen := new } ↔
      ¬ LosesCarry (fixedSum fields) fields.totalLen.toNat new.toNat := by
  have oldBound := headerSum_lt fields
  have lenBound := fields.totalLen.isLt
  have newLenBound := new.isLt
  have complement : (~~~ rebuiltChecksum fields).toNat = headerSum fields := by
    rw [BitVec.toNat_not, toNat_rebuiltChecksum]
    omega
  have oldComplement : (~~~ fields.totalLen).toNat = 65535 - fields.totalLen.toNat :=
    BitVec.toNat_not
  rw [ipv4ChecksumReplaceWord, rebuiltChecksum_eq { fields with totalLen := new },
    BitVec.not_inj, complement, oldComplement, ← BitVec.toNat_inj, BitVec.toNat_ofNat,
    BitVec.toNat_ofNat, Nat.mod_eq_of_lt (headerSum_lt _)]
  exact foldOnce_mod_eq_iff (by omega) (by omega) (headerSum_pos fields) (by omega)
    (headerSum_mod fields) (headerSum_pos _) (headerSum_lt _)
    (headerSum_mod { fields with totalLen := new })

/-! ## Patching the written bytes -/

section Words

variable (fields : Ipv4UdpHeaderFields) (checksum : Word)

theorem length_headerBytes : (headerBytes fields checksum).length = 28 :=
  rfl

theorem readBeU16_headerBytes_totalLen :
    readBeU16 (headerBytes fields checksum) 2 = fields.totalLen :=
  fromBeBytes_hiByte_loByte fields.totalLen

theorem readBeU16_headerBytes_checksum : readBeU16 (headerBytes fields checksum) 10 = checksum :=
  fromBeBytes_hiByte_loByte checksum

theorem writeBeU16_headerBytes_totalLen (value : Word) :
    writeBeU16 (headerBytes fields checksum) 2 value =
      headerBytes { fields with totalLen := value } checksum :=
  rfl

theorem writeBeU16_headerBytes_checksum (value : Word) :
    writeBeU16 (headerBytes fields checksum) 10 value = headerBytes fields value :=
  rfl

theorem writeBeU16_headerBytes_udpLen (value : Word) :
    writeBeU16 (headerBytes fields checksum) 24 value =
      headerBytes { fields with udpLen := value } checksum :=
  rfl

theorem headerBytes_inj {other : Word}
    (equal : headerBytes fields checksum = headerBytes fields other) : checksum = other := by
  rw [← readBeU16_headerBytes_checksum fields checksum, equal, readBeU16_headerBytes_checksum]

end Words

namespace UdpEndpointSpec

/-- The IPv4 and UDP header fields of an endpoint for one payload length.  An
endpoint is only built for an IPv4 destination and source. -/
def headerFields (spec : UdpEndpointSpec) (localAddr : SocketAddrV4) (ttl : Byte)
    (payloadLen : Nat) : Ipv4UdpHeaderFields :=
  { sourcePort := spec.sourcePort.getD localAddr.port
    destinationPort := match spec.destination with
      | .v4 addr => addr.port
      | .v6 addr => addr.port
    source := match spec.sourceIp with
      | some (.v4 addr) => addr
      | _ => localAddr.ip
    destination := match spec.destination with
      | .v4 addr => addr.ip
      | .v6 _ => 0#32
    totalLen := BitVec.ofNat 16 (payloadLen + udpHeaderLen + ipv4MinHeaderLen)
    udpLen := BitVec.ofNat 16 (payloadLen + udpHeaderLen)
    ttl := ttl
    ecn := spec.ecn }

end UdpEndpointSpec

/-- The fields for another payload length. -/
def withPayloadLen (fields : Ipv4UdpHeaderFields) (payloadLen : Nat) :
    Ipv4UdpHeaderFields :=
  { fields with
    totalLen := BitVec.ofNat 16 (payloadLen + udpHeaderLen + ipv4MinHeaderLen)
    udpLen := BitVec.ofNat 16 (payloadLen + udpHeaderLen) }

/-- The header fields of one endpoint, by payload length. -/
structure LengthFamily (fields : Nat → Ipv4UdpHeaderFields) : Prop where
  totalLen : ∀ payloadLen, (fields payloadLen).totalLen =
    BitVec.ofNat 16 (payloadLen + udpHeaderLen + ipv4MinHeaderLen)
  relength : ∀ old new, fields new =
    { fields old with
      totalLen := BitVec.ofNat 16 (new + udpHeaderLen + ipv4MinHeaderLen)
      udpLen := BitVec.ofNat 16 (new + udpHeaderLen) }

theorem lengthFamily_headerFields (spec : UdpEndpointSpec) (localAddr : SocketAddrV4)
    (ttl : Byte) : LengthFamily (spec.headerFields localAddr ttl) :=
  ⟨fun _ => rfl, fun _ _ => rfl⟩

/-- The header that a full rebuild produces for a payload length. -/
def rebuiltHeader (l2Header : List Byte) (fields : Nat → Ipv4UdpHeaderFields)
    (payloadLen : Nat) : List Byte :=
  l2Header ++ writeIpv4UdpHeaders zeroHeaders (fields payloadLen)

/-- The header that an incremental patch from one length to another produces. -/
def patchedHeader (l2Header : List Byte) (fields : Nat → Ipv4UdpHeaderFields)
    (old new : Nat) : List Byte :=
  l2Header ++ headerBytes (fields new)
    (ipv4ChecksumReplaceWord (rebuiltChecksum (fields old)) (fields old).totalLen
      (fields new).totalLen)

variable {offset : Nat}

theorem tryFromOffset_of_lt (fits : offset < 65536) : tryFromOffset offset = some offset :=
  if_pos fits

theorem readBeU16FromSlice_of_le {bytes : List Byte} (inside : offset + 2 ≤ bytes.length) :
    readBeU16FromSlice bytes offset = some (readBeU16 bytes offset) :=
  if_pos inside

section Patch

variable {l2Header : List Byte} {fields : Nat → Ipv4UdpHeaderFields} {old new : Nat}

theorem rebuiltHeader_eq (l2Header : List Byte) (fields : Nat → Ipv4UdpHeaderFields)
    (payloadLen : Nat) :
    rebuiltHeader l2Header fields payloadLen =
      l2Header ++ headerBytes (fields payloadLen) (rebuiltChecksum (fields payloadLen)) := by
  rw [rebuiltHeader, writeIpv4UdpHeaders_eq]

/-- The slot path patches the lengths and the checksum, and nothing else. -/
theorem patchXdpUdpEndpointHeaderLengths_headerBytes (base : Ipv4UdpHeaderFields)
    (checksum : Word) (fits : new + 28 ≤ 65535) :
    patchXdpUdpEndpointHeaderLengths (l2Header ++ headerBytes base checksum) l2Header.length new =
      .ok (l2Header ++ headerBytes (withPayloadLen base new)
        (ipv4ChecksumReplaceWord checksum base.totalLen (withPayloadLen base new).totalLen)) := by
  have inRange : ¬ new + udpHeaderLen + ipv4MinHeaderLen > 65535 := by
    rw [udpHeaderLen, ipv4MinHeaderLen]
    omega
  rw [patchXdpUdpEndpointHeaderLengths, if_neg inRange]
  simp only [readBeU16_append, writeBeU16_append, readBeU16_headerBytes_totalLen,
    readBeU16_headerBytes_checksum, writeBeU16_headerBytes_totalLen,
    writeBeU16_headerBytes_checksum, writeBeU16_headerBytes_udpLen,
    withPayloadLen]

/-- The slot path patches a rebuilt header incrementally. -/
theorem patchXdpUdpEndpointHeaderLengths_rebuilt (family : LengthFamily fields)
    (fits : new + 28 ≤ 65535) :
    patchXdpUdpEndpointHeaderLengths (rebuiltHeader l2Header fields old) l2Header.length new =
      .ok (patchedHeader l2Header fields old new) := by
  rw [rebuiltHeader_eq, patchXdpUdpEndpointHeaderLengths_headerBytes _ _ fits, patchedHeader,
    family.relength old new]
  rfl

/-- The direct path makes its patch from every header whose offsets fit. -/
theorem ofCache_headerBytes (base : Ipv4UdpHeaderFields) (checksum : Word)
    (fits : l2Header.length + 24 < 65536) :
    XdpEndpointHeaderPatch.ofCache (l2Header ++ headerBytes base checksum) l2Header.length =
      some { totalLenOffset := l2Header.length + 2
             checksumOffset := l2Header.length + 10
             transportLenOffset := l2Header.length + 24
             totalLenBase := 28#16
             transportLenBase := 8#16
             oldTotalLen := base.totalLen
             oldChecksum := checksum } := by
  have length : (l2Header ++ headerBytes base checksum).length = l2Header.length + 28 := by
    rw [List.length_append, length_headerBytes]
  have required : ¬ max (max (l2Header.length + 2) (l2Header.length + 10))
      (l2Header.length + ipv4MinHeaderLen + 4) + 2 > l2Header.length + 28 := by
    rw [ipv4MinHeaderLen]
    omega
  rw [XdpEndpointHeaderPatch.ofCache, XdpEndpointHeaderPatch.new,
    tryFromOffset_of_lt (by omega), tryFromOffset_of_lt (by omega),
    tryFromOffset_of_lt (by rw [ipv4MinHeaderLen]; omega),
    readBeU16FromSlice_of_le (by omega), readBeU16FromSlice_of_le (by omega),
    readBeU16_append, readBeU16_append, readBeU16_headerBytes_totalLen,
    readBeU16_headerBytes_checksum]
  simp only [Option.bind_eq_bind, Option.bind_some, XdpEndpointHeaderPatch.requiredHeaderLen,
    length, if_neg required]
  rfl

theorem ofCache_rebuilt (fields : Nat → Ipv4UdpHeaderFields) (old : Nat)
    (fits : l2Header.length + 24 < 65536) :
    XdpEndpointHeaderPatch.ofCache (rebuiltHeader l2Header fields old) l2Header.length =
      some { totalLenOffset := l2Header.length + 2
             checksumOffset := l2Header.length + 10
             transportLenOffset := l2Header.length + 24
             totalLenBase := 28#16
             transportLenBase := 8#16
             oldTotalLen := (fields old).totalLen
             oldChecksum := rebuiltChecksum (fields old) } := by
  rw [rebuiltHeader_eq, ofCache_headerBytes _ _ fits]

theorem ofCache_eq_none (refused : 65536 ≤ l2Header.length + 24) (header : List Byte) :
    XdpEndpointHeaderPatch.ofCache header l2Header.length = none := by
  have third : tryFromOffset (l2Header.length + ipv4MinHeaderLen + 4) = none :=
    if_neg (by rw [ipv4MinHeaderLen]; omega)
  rw [XdpEndpointHeaderPatch.ofCache, XdpEndpointHeaderPatch.new, third]
  cases tryFromOffset (l2Header.length + 2) <;>
    cases tryFromOffset (l2Header.length + 10) <;> rfl

variable {patch : XdpEndpointHeaderPatch}

/-- The direct path patches the lengths and the checksum of a copy, and nothing else. -/
theorem patch_headerBytes {base : Ipv4UdpHeaderFields} {checksum : Word}
    (made : XdpEndpointHeaderPatch.ofCache (l2Header ++ headerBytes base checksum)
      l2Header.length = some patch) :
    patch.patch (l2Header ++ headerBytes base checksum) new =
      l2Header ++ headerBytes (withPayloadLen base new)
        (ipv4ChecksumReplaceWord checksum base.totalLen (withPayloadLen base new).totalLen) := by
  have fits : l2Header.length + 24 < 65536 := by
    by_contra refused
    rw [ofCache_eq_none (Nat.le_of_not_lt refused)] at made
    cases made
  rw [ofCache_headerBytes base checksum fits, Option.some.injEq] at made
  subst made
  have total : 28#16 + BitVec.ofNat 16 new =
      BitVec.ofNat 16 (new + udpHeaderLen + ipv4MinHeaderLen) := by
    rw [← BitVec.ofNat_add, Nat.add_comm]
    rfl
  have transport : 8#16 + BitVec.ofNat 16 new = BitVec.ofNat 16 (new + udpHeaderLen) := by
    rw [← BitVec.ofNat_add, Nat.add_comm]
    rfl
  rw [XdpEndpointHeaderPatch.patch]
  simp only [total, transport, writeBeU16_append, writeBeU16_headerBytes_totalLen,
    writeBeU16_headerBytes_checksum, writeBeU16_headerBytes_udpLen,
    withPayloadLen]

/-- The direct path patches a copy of a rebuilt header incrementally. -/
theorem patch_rebuilt (family : LengthFamily fields)
    (made : XdpEndpointHeaderPatch.ofCache (rebuiltHeader l2Header fields old)
      l2Header.length = some patch) :
    patch.patch (rebuiltHeader l2Header fields old) new =
      patchedHeader l2Header fields old new := by
  rw [rebuiltHeader_eq] at made ⊢
  rw [patch_headerBytes made, patchedHeader, family.relength old new]
  rfl

end Patch

end FastSocket.Xdp
