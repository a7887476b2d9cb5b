import FastSocket.Packet.Endpoint
import FastSocket.Xdp.Egress

/-!
# Cached endpoint headers

A prepared endpoint caches the L2, IPv4 and UDP header of its datagrams.  Sending
a payload of another length patches the two length fields and updates the IPv4
checksum incrementally.  The slot path patches the cached header in place, so its
patches accumulate; the direct batch path patches a copy for every packet.
-/

namespace FastSocket.Xdp

open Packet OnesComplement

/-- Per-queue facts available to UDP egress routers. -/
structure XdpRouteContext where
  ifindex : IfIndex
  queue : QueueId
  mtu : Nat
deriving DecidableEq, Repr

/-- What an endpoint asks of a router: the L2 header for a destination. -/
abbrev ResolveUdpL2 :=
  Ipv4Addr → XdpRouteContext → Option ResolvedL2

abbrev UdpEndpointSpec :=
  Packet.UdpEndpointSpec

abbrev UdpEndpointInfo :=
  Packet.UdpEndpointInfo

structure XdpUdpEndpointCache where
  routeGeneration : Nat
  header : List Byte
  l2Len : Nat
deriving DecidableEq, Repr

def validateXdpUdpEndpointPayload (info : UdpEndpointInfo) (payloadLen : Nat) :
    Except Error Unit :=
  if info.payloadLen.any (fun expected => payloadLen ≠ expected) then
    .error .invalidPacket
  else if payloadLen > info.mtu then
    .error .oversizeForMtu
  else if payloadLen > 65535 - ipv4MinHeaderLen - udpHeaderLen then
    .error .oversizeForMtu
  else
    .ok ()

/-- The destination of an endpoint, which XDP only takes over IPv4. -/
def UdpEndpointSpec.ipv4Destination (spec : UdpEndpointSpec) : Except Error SocketAddrV4 :=
  match spec.destination with
  | .v4 addr => .ok addr
  | .v6 _ => .error .invalidPacket

/-- The source address of an endpoint, the socket's own unless the spec names one. -/
def UdpEndpointSpec.ipv4Source (spec : UdpEndpointSpec) (localAddr : SocketAddrV4) :
    Except Error Ipv4Addr :=
  match spec.sourceIp with
  | some (.v4 addr) => .ok addr
  | some (.v6 _) => .error .invalidPacket
  | none => .ok localAddr.ip

/-- Builds the cached header of an endpoint. -/
def buildXdpUdpEndpointCache (resolveUdpL2 : ResolveUdpL2) (localAddr : SocketAddrV4)
    (ttl : Byte) (routeContext : XdpRouteContext) (routeGeneration : Nat)
    (spec : UdpEndpointSpec) : Except Error (XdpUdpEndpointCache × UdpEndpointInfo) := do
  let destination ← spec.ipv4Destination
  let sourceIp ← spec.ipv4Source localAddr
  if spec.gsoSegmentSize.isSome then
    throw .invalidPacket
  let resolved ← match resolveUdpL2 destination.ip routeContext with
    | some resolved => .ok resolved
    | none => .error .noEgressRoute
  if resolved.ipMtu < ipv4MinHeaderLen + udpHeaderLen then
    throw .invalidPacket
  let maxPayloadLen := resolved.ipMtu - (ipv4MinHeaderLen + udpHeaderLen)
  let headerPayloadLen := spec.payloadLen.getD 0
  let info : UdpEndpointInfo :=
    { mtu := maxPayloadLen, payloadLen := spec.payloadLen, gsoSegmentSize := none }
  validateXdpUdpEndpointPayload info headerPayloadLen
  let udpLen := headerPayloadLen + udpHeaderLen
  let totalLen := udpLen + ipv4MinHeaderLen
  if totalLen > 65535 then
    throw .oversizeForMtu
  let l2Header := resolved.l2Header
  let ipUdp := writeIpv4UdpHeaders zeroHeaders
    { sourcePort := spec.sourcePort.getD localAddr.port
      destinationPort := destination.port
      source := sourceIp
      destination := destination.ip
      totalLen := BitVec.ofNat 16 totalLen
      udpLen := BitVec.ofNat 16 udpLen
      ttl := ttl
      ecn := spec.ecn }
  return ({ routeGeneration := routeGeneration, header := l2Header ++ ipUdp,
            l2Len := l2Header.length }, info)

/-- The incremental checksum update for one replaced header word.  The carry is
added back once. -/
def ipv4ChecksumReplaceWord (checksum old new : Word) : Word :=
  let sum := (~~~ checksum).toNat + (~~~ old).toNat + new.toNat
  ~~~ BitVec.ofNat 16 (foldOnce (2 ^ 16) sum)

/-- Patches the length fields and the checksum of a cached header. -/
def patchXdpUdpEndpointHeaderLengths (header : List Byte) (l2Len payloadLen : Nat) :
    Except Error (List Byte) :=
  let udpLen := payloadLen + udpHeaderLen
  let totalLen := udpLen + ipv4MinHeaderLen
  if totalLen > 65535 then
    .error .oversizeForMtu
  else
    let ipStart := l2Len
    let oldTotalLen := readBeU16 header (ipStart + 2)
    let oldChecksum := readBeU16 header (ipStart + 10)
    let totalLen := BitVec.ofNat 16 totalLen
    let checksum := ipv4ChecksumReplaceWord oldChecksum oldTotalLen totalLen
    let header := writeBeU16 header (ipStart + 2) totalLen
    let header := writeBeU16 header (ipStart + 10) checksum
    .ok (writeBeU16 header (ipStart + 24) (BitVec.ofNat 16 udpLen))

/-- Brings the cached header to a payload length, unless the endpoint was
prepared for one fixed length. -/
def updateXdpUdpEndpointHeader (cache : XdpUdpEndpointCache) (info : UdpEndpointInfo)
    (payloadLen : Nat) : Except Error XdpUdpEndpointCache := do
  validateXdpUdpEndpointPayload info payloadLen
  if info.payloadLen.isSome then
    return cache
  let header ← patchXdpUdpEndpointHeaderLengths cache.header cache.l2Len payloadLen
  return { cache with header := header }

/-- A header is updated for a valid payload: not at all when its length is fixed. -/
theorem updateXdpUdpEndpointHeader_eq_ok {cache next : XdpUdpEndpointCache}
    {info : UdpEndpointInfo} {payloadLen : Nat}
    (updated : updateXdpUdpEndpointHeader cache info payloadLen = .ok next) :
    (validateXdpUdpEndpointPayload info payloadLen = .ok () ∧ info.payloadLen.isSome ∧
      next = cache) ∨
    (validateXdpUdpEndpointPayload info payloadLen = .ok () ∧ info.payloadLen = none ∧
      ∃ header, patchXdpUdpEndpointHeaderLengths cache.header cache.l2Len payloadLen =
        .ok header ∧ next = { cache with header := header }) := by
  rw [updateXdpUdpEndpointHeader] at updated
  cases valid : validateXdpUdpEndpointPayload info payloadLen with
  | error kind =>
    rw [valid] at updated
    cases updated
  | ok _ =>
    rw [valid] at updated
    cases fixed : info.payloadLen with
    | some expected =>
      rw [fixed] at updated
      cases updated
      exact .inl ⟨rfl, rfl, rfl⟩
    | none =>
      rw [fixed] at updated
      cases patched : patchXdpUdpEndpointHeaderLengths cache.header cache.l2Len payloadLen with
      | error kind =>
        rw [patched] at updated
        cases updated
      | ok header =>
        rw [patched] at updated
        cases updated
        exact .inr ⟨rfl, rfl, header, rfl, rfl⟩

/-- The fields that the direct path patches in each copied header, with the words
read from the cached header once. -/
structure XdpEndpointHeaderPatch where
  totalLenOffset : Nat
  checksumOffset : Nat
  transportLenOffset : Nat
  totalLenBase : Word
  transportLenBase : Word
  oldTotalLen : Word
  oldChecksum : Word
deriving DecidableEq, Repr

/-- A word read that fails past the end of the slice. -/
def readBeU16FromSlice (bytes : List Byte) (offset : Nat) : Option Word :=
  if offset + 2 ≤ bytes.length then some (readBeU16 bytes offset) else none

/-- `u16::try_from` on an offset. -/
def tryFromOffset (offset : Nat) : Option Nat :=
  if offset < 2 ^ 16 then some offset else none

namespace XdpEndpointHeaderPatch

def requiredHeaderLen (patch : XdpEndpointHeaderPatch) : Nat :=
  max (max patch.totalLenOffset patch.checksumOffset) patch.transportLenOffset + 2

def new (header : List Byte) (totalLenOffset checksumOffset transportLenOffset : Nat)
    (totalLenBase transportLenBase : Word) : Option XdpEndpointHeaderPatch := do
  let patch : XdpEndpointHeaderPatch :=
    { totalLenOffset := ← tryFromOffset totalLenOffset
      checksumOffset := ← tryFromOffset checksumOffset
      transportLenOffset := ← tryFromOffset transportLenOffset
      totalLenBase := totalLenBase
      transportLenBase := transportLenBase
      oldTotalLen := ← readBeU16FromSlice header totalLenOffset
      oldChecksum := ← readBeU16FromSlice header checksumOffset }
  if patch.requiredHeaderLen > header.length then
    none
  else
    return patch

/-- The patch that the direct batch path makes from a cached header. -/
def ofCache (header : List Byte) (l2Len : Nat) : Option XdpEndpointHeaderPatch :=
  new header (l2Len + 2) (l2Len + 10) (l2Len + ipv4MinHeaderLen + 4)
    (BitVec.ofNat 16 (ipv4MinHeaderLen + udpHeaderLen)) (BitVec.ofNat 16 udpHeaderLen)

/-- Patches a copied header for one payload length. -/
def patch (self : XdpEndpointHeaderPatch) (header : List Byte) (payloadLen : Nat) :
    List Byte :=
  let totalLen := self.totalLenBase + BitVec.ofNat 16 payloadLen
  let transportLen := self.transportLenBase + BitVec.ofNat 16 payloadLen
  let checksum := ipv4ChecksumReplaceWord self.oldChecksum self.oldTotalLen totalLen
  let header := writeBeU16 header self.totalLenOffset totalLen
  let header := writeBeU16 header self.checksumOffset checksum
  writeBeU16 header self.transportLenOffset transportLen

end XdpEndpointHeaderPatch

end FastSocket.Xdp
