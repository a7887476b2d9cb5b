import FastSocket.Poptrie.Lookup
import FastSocket.Xdp.Egress
import Mathlib.Data.List.AList

/-!
# Route and neighbor snapshots

A snapshot holds the routes, neighbors and interfaces of one queue together with
two indexes derived from them: a poptrie from destinations to route positions,
and for each interface the egress of every route position.  Every update rebuilds
the indexes it invalidates.

Hash maps are association lists without repeated keys.  Route positions and
egress slots, `u32` in the source, are natural numbers, and the two sentinels of
the slot array are constructors.
-/

namespace FastSocket.Xdp

open Packet Poptrie

/-- An IPv4 route. -/
structure Ipv4Route where
  destination : Ipv4Addr
  prefixLen : Nat
  ifindex : IfIndex
  gateway : Option Ipv4Addr
  priority : Nat
  mtu : Nat
deriving DecidableEq, Repr

/-- Interface facts used when resolving an egress. -/
structure InterfaceInfo where
  ifindex : IfIndex
  masterIfindex : Option IfIndex
  mac : LinkAddr
  mtu : Nat
  queue : QueueId
deriving DecidableEq, Repr

/-- How a route position leaves through an interface. -/
inductive EgressSlot where
  /-- The route does not egress the interface. -/
  | none
  /-- A direct route: the next hop is the destination. -/
  | onLink
  /-- A gateway route, with the index of its prebuilt egress. -/
  | gateway (index : Nat)
deriving DecidableEq, Repr

/-- The egress of every route position on one interface. -/
structure InterfaceEgress where
  slots : List EgressSlot
  egresses : List XdpResolvedEgress
deriving DecidableEq, Repr

abbrev NeighborTable :=
  AList fun _ : IfIndex × Ipv4Addr => LinkAddr

abbrev InterfaceTable :=
  AList fun _ : IfIndex => InterfaceInfo

abbrev EgressIndex :=
  AList fun _ : IfIndex => InterfaceEgress

/-- The poptrie of IPv4 routes. -/
abbrev Ipv4Poptrie (V : Type) :=
  FastSocket.Poptrie 32 14 V

structure RouteSnapshot where
  routesV4 : List Ipv4Route
  routeIndexV4 : Option (Ipv4Poptrie Nat)
  egressIndexV4 : EgressIndex
  neighborsV4 : NeighborTable
  interfaces : InterfaceTable

/-! ## Route tables -/

/-- The order of the route table: longest prefix first, then lowest priority. -/
def routeLe (left right : Ipv4Route) : Bool :=
  right.prefixLen < left.prefixLen ||
    (right.prefixLen == left.prefixLen && left.priority ≤ right.priority)

def sameRoute (existing route : Ipv4Route) : Bool :=
  existing.destination == route.destination && existing.prefixLen == route.prefixLen &&
    existing.ifindex == route.ifindex && existing.gateway == route.gateway

/-- Replaces the first route with the same prefix, interface and gateway, or
appends the route. -/
def upsertRouteV4NoSort (routes : List Ipv4Route) (route : Ipv4Route) : List Ipv4Route :=
  match routes.findIdx? (sameRoute · route) with
  | some index => routes.set index route
  | none => routes ++ [route]

/-- A stable sort of the route table. -/
def sortRoutesV4 (routes : List Ipv4Route) : List Ipv4Route :=
  routes.mergeSort routeLe

/-- The insertion of a route at a position of the route table. -/
def Ipv4Route.insertion (route : Ipv4Route) (index : Nat) : Insertion 32 Nat :=
  { address := route.destination, prefixLen := min route.prefixLen 32, value := index }

/-- Builds the longest-prefix-match index.  The routes are inserted in reverse, so
that of two routes for one prefix the first in the table is inserted last. -/
def rebuildRouteIndexV4 (routes : List Ipv4Route) :
    Except BuildError (Option (Ipv4Poptrie Nat)) :=
  if routes.isEmpty then
    .ok none
  else
    (buildTable 14 (routes.zipIdx.reverse.map fun entry => entry.1.insertion entry.2)).map some

/-! ## The egress index -/

/-- The neighbor of an interface, or else of the interface of the route. -/
def neighborMac (neighbors : NeighborTable) (ifindex routeIfindex : IfIndex) (ip : Ipv4Addr) :
    Option LinkAddr :=
  (neighbors.lookup (ifindex, ip)).or (neighbors.lookup (routeIfindex, ip))

/-- What the loop over the routes of one interface accumulates. -/
structure EgressScan where
  slots : List EgressSlot
  egresses : List XdpResolvedEgress
  dedup : List (XdpResolvedEgress × Nat)
  egressable : Bool

/-- The slot of a prebuilt egress, which is stored if it is new. -/
def EgressScan.intern (scan : EgressScan) (resolved : XdpResolvedEgress) : EgressScan × Nat :=
  match scan.dedup.lookup resolved with
  | some slot => (scan, slot)
  | none =>
    let slot := scan.egresses.length
    ({ scan with
        egresses := scan.egresses ++ [resolved]
        dedup := (resolved, slot) :: scan.dedup }, slot)

/-- Resolves one route on an interface. -/
def scanRoute (neighbors : NeighborTable) (interface : InterfaceInfo) (scan : EgressScan)
    (routeIndex : Nat) (route : Ipv4Route) : EgressScan :=
  if route.ifindex ≠ interface.ifindex ∧ interface.masterIfindex ≠ some route.ifindex then
    scan
  else
    match route.gateway with
    | some gateway =>
      match neighborMac neighbors interface.ifindex route.ifindex gateway with
      | none => scan
      | some dstMac =>
        let resolved := XdpResolvedEgress.fromEgress
          (.ipv4 interface.ifindex interface.queue dstMac interface.mac
            (min route.mtu interface.mtu))
        let (scan, slot) := scan.intern resolved
        { scan with slots := scan.slots.set routeIndex (.gateway slot), egressable := true }
    | none => { scan with slots := scan.slots.set routeIndex .onLink, egressable := true }

/-- Resolves the routes from a position on. -/
def scanRoutes (neighbors : NeighborTable) (interface : InterfaceInfo) :
    (routeIndex : Nat) → List Ipv4Route → EgressScan → EgressScan
  | _, [], scan => scan
  | routeIndex, route :: rest, scan =>
    scanRoutes neighbors interface (routeIndex + 1) rest
      (scanRoute neighbors interface scan routeIndex route)

/-- The scan of all routes on one interface. -/
def scanInterface (routes : List Ipv4Route) (neighbors : NeighborTable)
    (interface : InterfaceInfo) : EgressScan :=
  scanRoutes neighbors interface 0 routes
    { slots := List.replicate routes.length .none, egresses := [], dedup := [],
      egressable := false }

/-- Adds an interface to the egress index unless no route egresses it. -/
def addInterface (routes : List Ipv4Route) (neighbors : NeighborTable) (index : EgressIndex)
    (interface : InterfaceInfo) : EgressIndex :=
  let scan := scanInterface routes neighbors interface
  if scan.egressable then
    index.insert interface.ifindex { slots := scan.slots, egresses := scan.egresses }
  else
    index

/-- Builds the egress index of all interfaces. -/
def rebuildEgressIndexV4 (routes : List Ipv4Route) (neighbors : NeighborTable)
    (interfaces : InterfaceTable) : EgressIndex :=
  if routes.isEmpty then
    ∅
  else
    interfaces.entries.foldl (fun index entry => addInterface routes neighbors index entry.2) ∅

namespace RouteSnapshot

/-- The empty snapshot. -/
def new : RouteSnapshot :=
  { routesV4 := [], routeIndexV4 := none, egressIndexV4 := ∅, neighborsV4 := ∅, interfaces := ∅ }

/-- Sorts a changed route table and rebuilds both indexes. -/
def withRoutes (snapshot : RouteSnapshot) (routes : List Ipv4Route) :
    Except BuildError RouteSnapshot := do
  let routes := sortRoutesV4 routes
  let routeIndex ← rebuildRouteIndexV4 routes
  return { snapshot with
    routesV4 := routes
    routeIndexV4 := routeIndex
    egressIndexV4 := rebuildEgressIndexV4 routes snapshot.neighborsV4 snapshot.interfaces }

/-- Adds or replaces a route. -/
def upsertRouteV4 (snapshot : RouteSnapshot) (route : Ipv4Route) :
    Except BuildError RouteSnapshot :=
  snapshot.withRoutes (upsertRouteV4NoSort snapshot.routesV4 route)

/-- Adds or replaces many routes, sorting once at the end. -/
def upsertRoutesV4 (snapshot : RouteSnapshot) (routes : List Ipv4Route) :
    Except BuildError RouteSnapshot :=
  if routes.isEmpty then
    .ok snapshot
  else
    snapshot.withRoutes (routes.foldl upsertRouteV4NoSort snapshot.routesV4)

/-- Adds or replaces a neighbor. -/
def upsertNeighborV4 (snapshot : RouteSnapshot) (ifindex : IfIndex) (ip : Ipv4Addr)
    (mac : LinkAddr) : RouteSnapshot :=
  let neighbors := snapshot.neighborsV4.insert (ifindex, ip) mac
  { snapshot with
    neighborsV4 := neighbors
    egressIndexV4 := rebuildEgressIndexV4 snapshot.routesV4 neighbors snapshot.interfaces }

/-- Adds or replaces the facts of an interface. -/
def upsertInterface (snapshot : RouteSnapshot) (interface : InterfaceInfo) : RouteSnapshot :=
  let interfaces := snapshot.interfaces.insert interface.ifindex interface
  { snapshot with
    interfaces := interfaces
    egressIndexV4 := rebuildEgressIndexV4 snapshot.routesV4 snapshot.neighborsV4 interfaces }

/-! ## Resolution -/

/-- The position of the longest-prefix match. -/
def lookupRouteIndexV4 (snapshot : RouteSnapshot) (dst : Ipv4Addr) : Option Nat :=
  snapshot.routeIndexV4.bind fun index => (index.lookup dst).join

def lookupRouteV4 (snapshot : RouteSnapshot) (dst : Ipv4Addr) : Option Ipv4Route := do
  let index ← snapshot.lookupRouteIndexV4 dst
  snapshot.routesV4[index]?

/-- Resolves an egress on the interface of the matched route. -/
def egressV4 (snapshot : RouteSnapshot) (dst : Ipv4Addr) : Option XdpEgress := do
  let route ← snapshot.lookupRouteV4 dst
  let nextHop := route.gateway.getD dst
  let dstMac ← snapshot.neighborsV4.lookup (route.ifindex, nextHop)
  let interface ← snapshot.interfaces.lookup route.ifindex
  return .ipv4 route.ifindex interface.queue dstMac interface.mac (min route.mtu interface.mtu)

/-- Resolves an egress for one interface and queue. -/
def resolvedV4ForInterface (snapshot : RouteSnapshot) (dst : Ipv4Addr) (ifindex : IfIndex)
    (queue : QueueId) : Option XdpResolvedEgress := do
  let routeIndex ← snapshot.lookupRouteIndexV4 dst
  let interfaceEgress ← snapshot.egressIndexV4.lookup ifindex
  match ← interfaceEgress.slots[routeIndex]? with
  | .none => none
  | .onLink =>
    let route ← snapshot.routesV4[routeIndex]?
    let interface ← snapshot.interfaces.lookup ifindex
    let dstMac ← neighborMac snapshot.neighborsV4 ifindex route.ifindex dst
    return .fromEgress (.ipv4 ifindex queue dstMac interface.mac (min route.mtu interface.mtu))
  | .gateway slot =>
    let resolved ← interfaceEgress.egresses[slot]?
    return resolved.withQueue queue

/-- The on-link path of `resolveL2ForInterface`. -/
def resolveL2OnLinkV4 (snapshot : RouteSnapshot) (routeIndex : Nat) (dst : Ipv4Addr)
    (ifindex : IfIndex) (mtu : Nat) : Option ResolvedL2 := do
  let route ← snapshot.routesV4[routeIndex]?
  let interface ← snapshot.interfaces.lookup ifindex
  let dstMac ← neighborMac snapshot.neighborsV4 ifindex route.ifindex dst
  let egress := XdpEgress.ipv4 ifindex interface.queue dstMac interface.mac
    (min route.mtu interface.mtu)
  let (l2Header, l2Len) := buildEthernetHeader egress
  return .inline l2Header l2Len (min mtu egress.mtu)

/-- Resolves the L2 header and the effective MTU for one interface. -/
def resolveL2ForInterface (snapshot : RouteSnapshot) (dst : Ipv4Addr) (ifindex : IfIndex)
    (mtu : Nat) : Option ResolvedL2 := do
  let routeIndex ← snapshot.lookupRouteIndexV4 dst
  let interfaceEgress ← snapshot.egressIndexV4.lookup ifindex
  match ← interfaceEgress.slots[routeIndex]? with
  | .none => none
  | .onLink => snapshot.resolveL2OnLinkV4 routeIndex dst ifindex mtu
  | .gateway slot =>
    let resolved ← interfaceEgress.egresses[slot]?
    return .borrowed (resolved.l2Header.take resolved.l2Len) (min mtu resolved.egress.mtu)

end RouteSnapshot

end FastSocket.Xdp
