import FastSocket.Packet.Ipv4Udp

/-!
# The redirect programs

The two eBPF programs that take UDP packets of bound ports away from the kernel
and hand them to an AF_XDP socket.  A read outside of the packet is the error of
the source's `ptr_at`, and makes the program pass the packet on.
-/

namespace FastSocket.Ebpf

open Packet

/-! ## Reading a packet -/

/-- Reads an array of bytes in one bounds check. -/
def readArray (packet : List Byte) (size offset : Nat) : Except Unit (List Byte) :=
  if offset + size > packet.length then
    .error ()
  else
    .ok ((packet.drop offset).take size)

def readU16Be (packet : List Byte) (offset : Nat) : Except Unit Word := do
  let bytes ← readArray packet 2 offset
  return readBeU16 bytes 0

def etherTypeOffset : Nat := 12

def vlanInnerEtherTypeOffset : Nat := 16

def qinqInnerEtherTypeOffset : Nat := 20

def ethertypeIpv4 : Word := 0x0800#16

def ethertypeVlan : Word := 0x8100#16

def ethertypeQinq : Word := 0x88a8#16

def ipv4FragmentMask : Word := 0x3fff#16

/-- The ethertype of a packet behind its VLAN tags and the length of its L2
header. -/
def packetEthertype (packet : List Byte) : Except Unit (Word × Nat) := do
  let ethertype ← readU16Be packet etherTypeOffset
  if ethertype = ethertypeVlan then
    let inner ← readU16Be packet vlanInnerEtherTypeOffset
    return (inner, 18)
  else if ethertype = ethertypeQinq then
    let innerTpid ← readU16Be packet vlanInnerEtherTypeOffset
    if innerTpid ≠ ethertypeVlan then
      return (innerTpid, 18)
    else
      let inner ← readU16Be packet qinqInnerEtherTypeOffset
      return (inner, 22)
  else
    return (ethertype, 14)

def ipv4UdpDestinationPort (packet : List Byte) (l2Len : Nat) : Except Unit (Option Word) := do
  let ipv4Header ← readArray packet ipv4MinHeaderLen l2Len
  let versionIhl := ipv4Header.getD 0 0
  if versionIhl >>> 4 ≠ 4#8 then
    return none
  else
    let ihl := (versionIhl &&& 0x0f#8).toNat * 4
    if ihl < ipv4MinHeaderLen then
      return none
    else if readBeU16 ipv4Header 6 &&& ipv4FragmentMask ≠ 0#16 then
      return none
    else if ipv4Header.getD 9 0 ≠ udpProtocol then
      return none
    else
      let udpHeader ← readArray packet udpHeaderLen (l2Len + ihl)
      return some (readBeU16 udpHeader 2)

/-- The UDP destination port of a packet, if it is an unfragmented UDP packet. -/
def packetUdpDestinationPort (packet : List Byte) : Except Unit (Option Word) := do
  let (ethertype, l2Len) ← packetEthertype packet
  if ethertype ≠ ethertypeIpv4 then
    return none
  else
    ipv4UdpDestinationPort packet l2Len

/-! ## Maps and actions -/

inductive XdpAction where
  | aborted
  | drop
  | pass
  | tx
  | redirect
deriving DecidableEq, Repr

def dropReasonXskmapMiss : Nat := 0

def boundPortRangeStart : Nat := 0

def boundPortRangeEnd : Nat := 1

/-- The maps that the programs share with userspace. -/
structure Maps where
  /-- The queues with an AF_XDP socket, to which redirecting succeeds. -/
  xskmap : Nat → Bool
  boundPorts : List Byte
  boundPortCount : List (BitVec 32)
  boundPortRange : List Word
  dropCounters : List (BitVec 64)

/-- A packet and the queue that it arrived on. -/
structure XdpContext where
  packet : List Byte
  rxQueueIndex : Nat

namespace Maps

variable (maps : Maps)

def incrementDropCounter (reason : Nat) : Maps :=
  { maps with dropCounters := maps.dropCounters.modify reason (· + 1) }

def hasBoundPorts : Bool :=
  match maps.boundPortCount[0]? with
  | some count => count != 0
  | none => false

def isBoundPort (port : Word) : Bool :=
  match maps.boundPorts[port.toNat]? with
  | some enabled => enabled != 0
  | none => false

def boundPortRangeOf : Option (Word × Word) := do
  let start ← maps.boundPortRange[boundPortRangeStart]?
  let stop ← maps.boundPortRange[boundPortRangeEnd]?
  if start = 0 ∧ stop = 0 then
    none
  else if start > stop then
    none
  else
    return (start, stop)

end Maps

/-! ## Programs -/

/-- Hands a packet to the socket of its queue.  The packet is dropped and counted
when there is none. -/
def redirectToXskmap (maps : Maps) (context : XdpContext) : XdpAction × Maps :=
  if maps.xskmap context.rxQueueIndex then
    (.redirect, maps)
  else
    (.drop, maps.incrementDropCounter dropReasonXskmapMiss)

def tryRedirectBoundPorts (maps : Maps) (context : XdpContext) :
    Except Unit (XdpAction × Maps) := do
  match ← packetUdpDestinationPort context.packet with
  | none => return (.pass, maps)
  | some destinationPort =>
    if !maps.hasBoundPorts then
      return (.pass, maps)
    else if !maps.isBoundPort destinationPort then
      return (.pass, maps)
    else
      return redirectToXskmap maps context

def tryRedirectPortRange (maps : Maps) (context : XdpContext) :
    Except Unit (XdpAction × Maps) := do
  match ← packetUdpDestinationPort context.packet with
  | none => return (.pass, maps)
  | some destinationPort =>
    match maps.boundPortRangeOf with
    | none => return (.pass, maps)
    | some (start, stop) =>
      if destinationPort < start ∨ destinationPort > stop then
        return (.pass, maps)
      else
        return redirectToXskmap maps context

/-- A program passes a packet on when it fails. -/
def orPass (maps : Maps) : Except Unit (XdpAction × Maps) → XdpAction × Maps
  | .ok result => result
  | .error _ => (.pass, maps)

def fastSocketXdp (maps : Maps) (context : XdpContext) : XdpAction × Maps :=
  orPass maps (tryRedirectBoundPorts maps context)

def fastSocketXdpPortRange (maps : Maps) (context : XdpContext) : XdpAction × Maps :=
  orPass maps (tryRedirectPortRange maps context)

end FastSocket.Ebpf
