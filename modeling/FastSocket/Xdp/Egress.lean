import FastSocket.Packet.Ipv4Udp

/-!
# Egress handles and Ethernet headers

The resolved egress of a packet and the Ethernet header bytes built from it.
-/

namespace FastSocket.Xdp

open Packet

/-- An interface index. -/
abbrev IfIndex :=
  Nat

/-- A queue identifier. -/
abbrev QueueId :=
  Nat

/-- A link-layer address of six bytes. -/
abbrev LinkAddr :=
  BitVec 48

/-- The six bytes of a link-layer address, first byte first. -/
def LinkAddr.octets (addr : LinkAddr) : List Byte :=
  [BitVec.ofNat 8 (addr.toNat / 2 ^ 40), BitVec.ofNat 8 (addr.toNat / 2 ^ 32),
    BitVec.ofNat 8 (addr.toNat / 2 ^ 24), BitVec.ofNat 8 (addr.toNat / 2 ^ 16),
    BitVec.ofNat 8 (addr.toNat / 2 ^ 8), BitVec.ofNat 8 addr.toNat]

def ethertypeIpv4 : Word := 0x0800#16

def ethertypeIpv6 : Word := 0x86dd#16

def vlanEthertype : Word := 0x8100#16

def ethernetHeaderLen : Nat := 14

def vlanHeaderLen : Nat := 18

/-- Fully resolved egress data consumed by transmit. -/
structure XdpEgress where
  ifindex : IfIndex
  queue : QueueId
  dstMac : LinkAddr
  srcMac : LinkAddr
  ethertype : Word
  vlan : Option Word
  mtu : Nat
deriving DecidableEq, Repr

/-- An IPv4 egress without a VLAN tag. -/
def XdpEgress.ipv4 (ifindex : IfIndex) (queue : QueueId) (dstMac srcMac : LinkAddr)
    (mtu : Nat) : XdpEgress :=
  { ifindex := ifindex, queue := queue, dstMac := dstMac, srcMac := srcMac,
    ethertype := ethertypeIpv4, vlan := none, mtu := mtu }

/-- The Ethernet header length of an egress. -/
def egressHeaderLen (egress : XdpEgress) : Nat :=
  if egress.vlan.isSome then vlanHeaderLen else ethernetHeaderLen

/-- Writes the Ethernet or VLAN header of an egress over the given bytes. -/
def writeEthernetHeader (header : List Byte) (egress : XdpEgress) : List Byte :=
  let header := copyAt header 0 egress.dstMac.octets
  let header := copyAt header 6 egress.srcMac.octets
  match egress.vlan with
  | some vlan =>
    let header := copyAt header 12 (toBeBytes vlanEthertype)
    let header := copyAt header 14 (toBeBytes vlan)
    copyAt header 16 (toBeBytes egress.ethertype)
  | none => copyAt header 12 (toBeBytes egress.ethertype)

/-- Materializes the L2 header of an egress: an 18-byte buffer and the number of
its bytes that are valid. -/
def buildEthernetHeader (egress : XdpEgress) : List Byte × Nat :=
  let l2Len := egressHeaderLen egress
  let header := List.replicate vlanHeaderLen 0#8
  (writeEthernetHeader (header.take l2Len) egress ++ header.drop l2Len, l2Len)

/-- An egress with materialized L2 header bytes. -/
structure XdpResolvedEgress where
  egress : XdpEgress
  l2Header : List Byte
  l2Len : Nat
deriving DecidableEq, Repr

namespace XdpResolvedEgress

def fromEgress (egress : XdpEgress) : XdpResolvedEgress :=
  let (l2Header, l2Len) := buildEthernetHeader egress
  { egress := egress, l2Header := l2Header, l2Len := l2Len }

def withQueue (resolved : XdpResolvedEgress) (queue : QueueId) : XdpResolvedEgress :=
  { resolved with egress := { resolved.egress with queue := queue } }

end XdpResolvedEgress

/-- A resolved Ethernet header for one datagram, with the effective IP MTU. -/
inductive ResolvedL2 where
  /-- Header bytes borrowed from a prebuilt gateway egress. -/
  | borrowed (l2Header : List Byte) (ipMtu : Nat)
  /-- A header built inline for an on-link destination; only the first `l2Len`
  bytes are valid. -/
  | inline (l2Header : List Byte) (l2Len ipMtu : Nat)
deriving DecidableEq, Repr

namespace ResolvedL2

/-- The Ethernet header bytes to prepend before the IP datagram. -/
def l2Header : ResolvedL2 → List Byte
  | .borrowed l2Header _ => l2Header
  | .inline l2Header l2Len _ => l2Header.take l2Len

def ipMtu : ResolvedL2 → Nat
  | .borrowed _ ipMtu => ipMtu
  | .inline _ _ ipMtu => ipMtu

end ResolvedL2

end FastSocket.Xdp
