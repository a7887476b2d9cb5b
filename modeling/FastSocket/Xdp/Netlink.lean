import FastSocket.Xdp.Route

/-!
# Netlink dumps

The kernel answers a dump request with messages, each a fixed header followed by
attributes.  The attributes are collected by type, the last one of a type counts, and
each of the three dumps keeps the messages that it can read.  Numbers in messages are in
the byte order of the machine, which is taken to be little-endian.
-/

namespace FastSocket.Xdp

open Packet

/-! ## Attributes -/

def nlaHdrLen : Nat := 4

def nlaAlignTo : Nat := 4

/-- The part of an attribute type that is not a flag. -/
def nlaTypeMask : Word := 0x3fff#16

def alignTo (value align : Nat) : Nat :=
  (value + (align - 1)) / align * align

def readU32Ne (bytes : List Byte) : Option Nat :=
  if 4 ≤ bytes.length then some (readNe bytes 0 4) else none

/-- Attribute values by type. -/
abbrev NlAttrs :=
  AList fun _ : Word => List Byte

inductive NetlinkError where
  /-- Short netlink attribute header. -/
  | shortHeader
  /-- Invalid netlink attribute length. -/
  | invalidLength
deriving DecidableEq, Repr

/-- The attributes from here on.  Every attribute takes some bytes, so that the number of
bytes bounds the number of rounds. -/
def parseAttrsFrom : (rounds : Nat) → List Byte → NlAttrs → Except NetlinkError NlAttrs
  | 0, _, attrs => .ok attrs
  | rounds + 1, buf, attrs =>
    if buf.isEmpty then
      .ok attrs
    else if buf.length < nlaHdrLen then
      .error .shortHeader
    else
      let len := readNe buf 0 2
      if len < nlaHdrLen ∨ buf.length < len then
        .error .invalidLength
      else
        parseAttrsFrom rounds (buf.drop (alignTo len nlaAlignTo))
          (attrs.insert (BitVec.ofNat 16 (readNe buf 2 2) &&& nlaTypeMask)
            ((buf.take len).drop nlaHdrLen))

def parseAttrs (buf : List Byte) : Except NetlinkError NlAttrs :=
  parseAttrsFrom buf.length buf ∅

/-! ## Messages -/

structure NetlinkMessage where
  messageType : Word
  data : List Byte
deriving DecidableEq, Repr

structure LinkEntry where
  ifindex : IfIndex
  masterIfindex : Option IfIndex
  mac : Option LinkAddr
  mtu : Option Nat
deriving DecidableEq, Repr

structure NeighborEntry where
  destination : Option IpAddr
  lladdr : Option LinkAddr
  ifindex : IfIndex
  state : Nat
deriving DecidableEq, Repr

structure RouteEntry where
  /-- The destination prefix; `none` means default route. -/
  destination : Option IpAddr
  gateway : Option IpAddr
  outIfindex : Option IfIndex
  priority : Option Nat
  table : Option Nat
  family : Nat
  dstLen : Nat
deriving DecidableEq, Repr

def rtmNewLink : Word := 16#16

def rtmNewRoute : Word := 24#16

def rtmNewNeigh : Word := 28#16

def iflaAddress : Word := 1#16

def iflaMtu : Word := 4#16

def iflaMaster : Word := 10#16

def ndaDst : Word := 1#16

def ndaLladdr : Word := 2#16

def rtaDst : Word := 1#16

def rtaOif : Word := 4#16

def rtaGateway : Word := 5#16

def rtaPriority : Word := 6#16

def rtaTable : Word := 15#16

/-- An interface index is not zero. -/
def IfIndex.tryNew (value : Nat) : Option IfIndex :=
  if value = 0 then none else some value

def parseIpAddress (data : List Byte) (family : Nat) : Option IpAddr :=
  if family = afInet ∧ data.length = 4 then
    some (.v4 (BitVec.ofNat 32 (fromOctets data)))
  else if family = afInet6 ∧ data.length = 16 then
    some (.v6 (BitVec.ofNat 128 (fromOctets data)))
  else
    none

def parseLinkAddr (data : List Byte) : Option LinkAddr :=
  if 6 ≤ data.length then some (BitVec.ofNat 48 (fromOctets (data.take 6))) else none

def ifinfomsgLen : Nat := 16

def parseLink (message : NetlinkMessage) : Option LinkEntry :=
  if message.data.length < ifinfomsgLen then
    none
  else
    match parseAttrs (message.data.drop ifinfomsgLen) with
    | .error _ => none
    | .ok attrs => do
        let ifindex ← IfIndex.tryNew (readNe message.data 4 4)
        return {
          ifindex := ifindex
          masterIfindex := ((attrs.lookup iflaMaster).bind readU32Ne).bind IfIndex.tryNew
          mac := (attrs.lookup iflaAddress).bind parseLinkAddr
          mtu := (attrs.lookup iflaMtu).bind readU32Ne }

def ndmsgLen : Nat := 12

def parseNeighbor (message : NetlinkMessage) (filterIfindex : Option IfIndex) :
    Option NeighborEntry :=
  if message.data.length < ndmsgLen then
    none
  else do
    let ifindex ← IfIndex.tryNew (readNe message.data 4 4)
    if filterIfindex.any (· ≠ ifindex) then
      none
    else
      match parseAttrs (message.data.drop ndmsgLen) with
      | .error _ => none
      | .ok attrs =>
        let family := readNe message.data 0 1
        some {
          destination := (attrs.lookup ndaDst).bind (parseIpAddress · family)
          lladdr := (attrs.lookup ndaLladdr).bind parseLinkAddr
          ifindex := ifindex
          state := readNe message.data 8 2 }

def rtmsgLen : Nat := 12

/-- The table of a route is the attribute or, without one, the field of the header that has
room for small numbers only. -/
def parseRoute (message : NetlinkMessage) : Option RouteEntry :=
  if message.data.length < rtmsgLen then
    none
  else
    match parseAttrs (message.data.drop rtmsgLen) with
    | .error _ => none
    | .ok attrs =>
      let family := readNe message.data 0 1
      some {
        destination := (attrs.lookup rtaDst).bind (parseIpAddress · family)
        gateway := (attrs.lookup rtaGateway).bind (parseIpAddress · family)
        outIfindex := ((attrs.lookup rtaOif).bind readU32Ne).bind IfIndex.tryNew
        priority := (attrs.lookup rtaPriority).bind readU32Ne
        table := ((attrs.lookup rtaTable).bind readU32Ne).or (some (readNe message.data 4 1))
        family := family
        dstLen := readNe message.data 1 1 }

/-! ## Dumps -/

def routeTableFromAttr (message : NetlinkMessage) : Bool :=
  if message.data.length < rtmsgLen then
    false
  else
    match parseAttrs (message.data.drop rtmsgLen) with
    | .error _ => false
    | .ok attrs => (attrs.lookup rtaTable).isSome

def netlinkGetLinks (messages : List NetlinkMessage) : List LinkEntry :=
  messages.filterMap fun message =>
    if message.messageType = rtmNewLink then parseLink message else none

def netlinkGetNeighbors (messages : List NetlinkMessage) (ifindex : Option IfIndex) :
    List NeighborEntry :=
  messages.filterMap fun message =>
    if message.messageType = rtmNewNeigh then parseNeighbor message ifindex else none

/-- One message of a route dump, if it is a route of the table.  A table that does not fit
into the header has to be named by the attribute. -/
def routeOfTable (table : Nat) (message : NetlinkMessage) : Option RouteEntry :=
  if message.messageType ≠ rtmNewRoute then
    none
  else
    match parseRoute message with
    | none => none
    | some route =>
      if table > 255 ∧ routeTableFromAttr message = false then
        none
      else if route.table = some table then
        some route
      else
        none

def netlinkGetRoutes (messages : List NetlinkMessage) (table : Nat) : List RouteEntry :=
  messages.filterMap (routeOfTable table)

/-! ## Snapshots -/

/-- The IPv4 address of an attribute that may be absent; there is no value for an address of
the other family. -/
def ipv4Only : Option IpAddr → Option (Option Ipv4Addr)
  | some (.v4 ip) => some (some ip)
  | none => some none
  | some (.v6 _) => none

/-- The route of an entry of the dump; an entry without an output interface, or with an
address that is not IPv4, has none. -/
def RouteEntry.toIpv4Route (entry : RouteEntry) : Option Ipv4Route := do
  let ifindex ← entry.outIfindex
  let destination ← ipv4Only entry.destination
  let gateway ← ipv4Only entry.gateway
  return {
    destination := destination.getD 0#32
    prefixLen := min entry.dstLen 32
    ifindex := ifindex
    gateway := gateway
    priority := entry.priority.getD (2 ^ 32 - 1)
    mtu := 2 ^ 32 - 1 }

namespace RouteSnapshot

def addLink (queue : QueueId) (snapshot : RouteSnapshot) (link : LinkEntry) : RouteSnapshot :=
  match link.mac with
  | some mac => snapshot.upsertInterface {
      ifindex := link.ifindex
      masterIfindex := link.masterIfindex
      mac := mac
      mtu := link.mtu.getD 1500
      queue := queue }
  | none => snapshot

def addNeighbor (snapshot : RouteSnapshot) (neighbor : NeighborEntry) : RouteSnapshot :=
  match neighbor.destination, neighbor.lladdr with
  | some (.v4 ip), some mac => snapshot.upsertNeighborV4 neighbor.ifindex ip mac
  | _, _ => snapshot

/-- Builds a snapshot from the entries of the three dumps. -/
def buildNetlinkSnapshot (queue : QueueId) (links : List LinkEntry) (routes : List RouteEntry)
    (neighbors : List NeighborEntry) : Except Poptrie.BuildError RouteSnapshot := do
  let snapshot := links.foldl (addLink queue) new
  let snapshot ← snapshot.upsertRoutesV4 (routes.filterMap RouteEntry.toIpv4Route)
  return neighbors.foldl addNeighbor snapshot

end RouteSnapshot

end FastSocket.Xdp
