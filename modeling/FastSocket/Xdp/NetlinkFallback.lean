import FastSocket.Xdp.NetlinkPreference

/-!
# Unusable routes in snapshots

A route without an output interface tells the kernel not to send, or to choose among
several interfaces.  The snapshot leaves it out, and a destination that it covers is then
sent along a shorter prefix if there is one.
-/

namespace FastSocket.Xdp

open Packet Poptrie Sorting

/-- A snapshot has no egress for a destination, on whatever interface. -/
structure RouteSnapshot.ResolvesNothing (snapshot : RouteSnapshot) (dst : Ipv4Addr) : Prop where
  egress : snapshot.egressV4 dst = none
  resolved : ∀ ifindex queue, snapshot.resolvedV4ForInterface dst ifindex queue = none
  l2 : ∀ ifindex mtu, snapshot.resolveL2ForInterface dst ifindex mtu = none

namespace RouteSnapshot

variable {queue : QueueId} {links : List LinkEntry} {entries : List RouteEntry}
  {neighbors : List NeighborEntry} {snapshot : RouteSnapshot} {dst : Ipv4Addr}

theorem resolvesNothing_of_lookup (noRoute : snapshot.lookupRouteIndexV4 dst = none) :
    snapshot.ResolvesNothing dst := by
  constructor
  · rw [egressV4, lookupRouteV4, noRoute]
    rfl
  · intro ifindex queue
    rw [resolvedV4ForInterface, noRoute]
    rfl
  · intro ifindex mtu
    rw [resolveL2ForInterface, noRoute]
    rfl

/-- Whether a snapshot can be built is a matter of the routes alone. -/
theorem exists_buildNetlinkSnapshot
    (built : buildNetlinkSnapshot queue links entries neighbors = .ok snapshot)
    (otherQueue : QueueId) (otherLinks : List LinkEntry) :
    ∃ loaded, (otherLinks.foldl (addLink otherQueue) new).upsertRoutesV4
        (entries.filterMap RouteEntry.toIpv4Route) = .ok loaded ∧
      ∀ otherNeighbors, buildNetlinkSnapshot otherQueue otherLinks entries otherNeighbors =
        .ok (otherNeighbors.foldl addNeighbor loaded) := by
  obtain ⟨_, noRoutes⟩ := @consistent_links queue _ consistent_new links
  obtain ⟨_, otherNone⟩ := @consistent_links otherQueue _ consistent_new otherLinks
  obtain ⟨middle, isMiddle, _⟩ := Transition.bind_eq_ok_iff.mp built
  have loads : ∃ loaded, (otherLinks.foldl (addLink otherQueue) new).upsertRoutesV4
      (entries.filterMap RouteEntry.toIpv4Route) = .ok loaded := by
    rw [upsertRoutesV4] at isMiddle ⊢
    split at isMiddle
    case isTrue empty =>
      rw [if_pos empty]
      exact ⟨_, rfl⟩
    case isFalse nonempty =>
      rw [if_neg nonempty, otherNone]
      rw [noRoutes] at isMiddle
      obtain ⟨index, rebuilt, _⟩ := withRoutes_eq_ok isMiddle
      rw [withRoutes, rebuilt]
      exact ⟨_, rfl⟩
  obtain ⟨loaded, isLoaded⟩ := loads
  exact ⟨loaded, isLoaded, fun otherNeighbors =>
    Transition.bind_eq_ok_iff.mpr ⟨loaded, isLoaded, rfl⟩⟩

variable {route : Ipv4Route}

theorem egressV4_eq_some {mac : LinkAddr} {interface : InterfaceInfo}
    (selects : snapshot.lookupRouteV4 dst = some route)
    (isNeighbor : snapshot.neighborsV4.lookup (route.ifindex, route.gateway.getD dst) = some mac)
    (isInterface : snapshot.interfaces.lookup route.ifindex = some interface) :
    snapshot.egressV4 dst = some (.ipv4 route.ifindex interface.queue mac interface.mac
      (min route.mtu interface.mtu)) := by
  rw [egressV4, selects]
  simp only [Option.bind_eq_bind, Option.bind_some]
  rw [isNeighbor, Option.bind_some, isInterface, Option.bind_some]
  rfl

/-- For every selected route there are links and neighbors through which it is sent. -/
theorem exists_egress (built : buildNetlinkSnapshot queue links entries neighbors = .ok snapshot)
    (selects : snapshot.lookupRouteV4 dst = some route) :
    ∃ otherLinks otherNeighbors other,
      buildNetlinkSnapshot queue otherLinks entries otherNeighbors = .ok other ∧
        other.egressV4 dst ≠ none := by
  let link : LinkEntry :=
    { ifindex := route.ifindex, masterIfindex := none, mac := some 0, mtu := none }
  let neighbor : NeighborEntry :=
    { destination := some (.v4 (route.gateway.getD dst)), lladdr := some 0,
      ifindex := route.ifindex, state := 0 }
  obtain ⟨loaded, isLoaded, builds⟩ := exists_buildNetlinkSnapshot built queue [link]
  refine ⟨[link], [neighbor], _, builds [neighbor], ?_⟩
  have selectsToo := selects
  rw [lookupRouteV4_netlink built, ← lookupRouteV4_netlink (builds [neighbor])] at selectsToo
  have known := ((@consistent_links queue _ consistent_new [link]).1.upsertRoutesV4
    isLoaded).interfaces
  have isNeighbor : ([neighbor].foldl addNeighbor loaded).neighborsV4.lookup
      (route.ifindex, route.gateway.getD dst) = some 0 := AList.lookup_insert _
  have isInterface : ∃ interface, ([neighbor].foldl addNeighbor loaded).interfaces.lookup
      route.ifindex = some interface := by
    change ∃ interface, loaded.interfaces.lookup route.ifindex = some interface
    rw [known]
    exact ⟨_, AList.lookup_insert _⟩
  obtain ⟨interface, isInterface⟩ := isInterface
  rw [egressV4_eq_some selectsToo isNeighbor isInterface]
  exact Option.some_ne_none _

end RouteSnapshot

/-- The longest prefix for a destination belongs to one entry only, which names no output
interface. -/
def UnusableLongest (entries : List RouteEntry) (dst : Ipv4Addr) : Prop :=
  ∃ entry, RouteEntry.Longest entries dst entry ∧ entry.outIfindex = none ∧
    ∀ other ∈ entries, other.CoversV4 dst → other.prefixLenV4 = entry.prefixLenV4 → other = entry

/-- A destination whose longest prefix is an unusable route resolves to nothing, whatever the
links and neighbors, exactly if no usable route covers it. -/
theorem netlink_respects_unusable_iff {messages : List NetlinkMessage} {table : Nat}
    (ipv4 : ∀ entry ∈ netlinkGetRoutes messages table, entry.family = afInet)
    (builds : ∃ queue links neighbors snapshot, RouteSnapshot.buildNetlinkSnapshot queue links
      (netlinkGetRoutes messages table) neighbors = .ok snapshot) (dst : Ipv4Addr) :
    (UnusableLongest (netlinkGetRoutes messages table) dst →
      ∀ queue links neighbors snapshot, RouteSnapshot.buildNetlinkSnapshot queue links
          (netlinkGetRoutes messages table) neighbors = .ok snapshot →
        snapshot.ResolvesNothing dst) ↔
    ¬ (UnusableLongest (netlinkGetRoutes messages table) dst ∧
      ∃ entry ∈ netlinkGetRoutes messages table, entry.outIfindex ≠ none ∧ entry.CoversV4 dst) := by
  constructor
  · rintro nothing ⟨unusable, entry, member, isOut, covers⟩
    obtain ⟨queue, links, neighbors, snapshot, built⟩ := builds
    obtain ⟨route, isRoute⟩ := (exists_toIpv4Route member (ipv4 entry member)).mpr isOut
    cases selects : snapshot.lookupRouteV4 dst with
    | none =>
      rw [RouteSnapshot.lookupRouteV4_netlink built] at selects
      exact not_coversV4_of_find?_eq_none selects member isRoute covers
    | some selected =>
      obtain ⟨otherLinks, otherNeighbors, sending, sends, isSome⟩ :=
        RouteSnapshot.exists_egress built selects
      exact isSome (nothing unusable queue otherLinks otherNeighbors sending sends).egress
  · intro uncovered unusable queue links neighbors snapshot built
    obtain ⟨consistent, isTable⟩ := RouteSnapshot.buildNetlinkSnapshot_eq_ok built
    apply RouteSnapshot.resolvesNothing_of_lookup
    rw [consistent.lookupRouteIndexV4_eq, isTable, List.findIdx?_eq_none_iff]
    intro route inTable
    rw [decide_eq_false_iff_not]
    intro covers
    have last := mem_foldl_upsert_iff.mp ((sortRoutesV4_perm _).mem_iff.mp inTable)
    obtain ⟨entry, member, isRoute⟩ := mem_usableRoutes.mp last.mem
    have isOut : entry.outIfindex ≠ none := by
      rw [(RouteEntry.toIpv4Route_eq_some isRoute).1]
      exact Option.some_ne_none _
    exact uncovered ⟨unusable, entry, member, isOut, (RouteEntry.covers_iff isRoute dst).mp covers⟩

/-- A blackhole route for 10.0.0.0/8. -/
def blackholeMessage : NetlinkMessage :=
  { messageType := rtmNewRoute
    data := [2, 8, 0, 0, 254, 3, 0, 6, 0, 0, 0, 0, 8, 0, 1, 0, 10, 0, 0, 0] }

def blackholeEntry : RouteEntry :=
  { destination := some (.v4 0x0a000000#32), gateway := none, outIfindex := none,
    priority := none, table := some 254, family := afInet, dstLen := 8 }

theorem netlinkGetRoutes_blackhole :
    netlinkGetRoutes [blackholeMessage] 254 = [blackholeEntry] ∧
      netlinkGetRoutes [blackholeMessage, unstatedMessage] 254 = [blackholeEntry, unstatedEntry] := by
  decide +kernel

theorem unusableLongest_blackhole :
    UnusableLongest [blackholeEntry] 0x0a010203#32 ∧
      UnusableLongest [blackholeEntry, unstatedEntry] 0x0a010203#32 :=
  ⟨⟨blackholeEntry, by decide, rfl, by decide⟩, ⟨blackholeEntry, by decide, rfl, by decide⟩⟩

/-- The default gateway is a link and a neighbor away. -/
def gatewayLink : LinkEntry :=
  { ifindex := 2, masterIfindex := none, mac := some 0x020000000001#48, mtu := some 1500 }

def gatewayNeighbor : NeighborEntry :=
  { destination := some (.v4 0xc0000201#32), lladdr := some 0x020000000002#48, ifindex := 2,
    state := 2 }

/-- A destination in the blackhole is sent to the default gateway. -/
theorem netlink_routes_around_blackhole :
    UnusableLongest (netlinkGetRoutes [blackholeMessage, unstatedMessage] 254) 0x0a010203#32 ∧
      ∃ snapshot, RouteSnapshot.buildNetlinkSnapshot 0 [gatewayLink]
          (netlinkGetRoutes [blackholeMessage, unstatedMessage] 254) [gatewayNeighbor] =
            .ok snapshot ∧
        snapshot.egressV4 0x0a010203#32 =
          some (.ipv4 2 0 0x020000000002#48 0x020000000001#48 1500) := by
  rw [netlinkGetRoutes_blackhole.2]
  refine ⟨unusableLongest_blackhole.2, ?_⟩
  obtain ⟨index, rebuilt⟩ := RouteSnapshot.rebuild_defaultRoute 0#32 0
  obtain ⟨loaded, isLoaded, _⟩ :=
    (RouteSnapshot.new.addLink 0 gatewayLink).withRoutes_of_sorted
      (List.mergeSort_singleton unstatedRoute) rebuilt
  have built : RouteSnapshot.buildNetlinkSnapshot 0 [gatewayLink] [blackholeEntry, unstatedEntry]
      [gatewayNeighbor] = .ok (loaded.addNeighbor gatewayNeighbor) :=
    Transition.bind_eq_ok_iff.mpr ⟨loaded, isLoaded, rfl⟩
  refine ⟨_, built, ?_⟩
  have selects : (loaded.addNeighbor gatewayNeighbor).lookupRouteV4 0x0a010203#32 =
      some unstatedRoute := by
    rw [RouteSnapshot.lookupRouteV4_netlink built]
    have sorted : sortRoutesV4 ((usableRoutes [blackholeEntry, unstatedEntry]).foldl
        upsertRouteV4NoSort []) = [unstatedRoute] := List.mergeSort_singleton unstatedRoute
    rw [sorted]
    decide
  have known : loaded.interfaces = (RouteSnapshot.new.addLink 0 gatewayLink).interfaces := by
    obtain ⟨_, _, rfl⟩ := RouteSnapshot.withRoutes_eq_ok isLoaded
    rfl
  exact RouteSnapshot.egressV4_eq_some selects (AList.lookup_insert _)
    ((congrArg (·.lookup 2) known).trans (AList.lookup_insert _))

/-- Without another route the destination resolves to nothing. -/
theorem netlink_respects_blackhole :
    (∀ entry ∈ netlinkGetRoutes [blackholeMessage] 254, entry.family = afInet) ∧
      UnusableLongest (netlinkGetRoutes [blackholeMessage] 254) 0x0a010203#32 ∧
      ∀ queue links neighbors snapshot, RouteSnapshot.buildNetlinkSnapshot queue links
          (netlinkGetRoutes [blackholeMessage] 254) neighbors = .ok snapshot →
        snapshot.ResolvesNothing 0x0a010203#32 := by
  have ipv4 : ∀ entry ∈ netlinkGetRoutes [blackholeMessage] 254, entry.family = afInet := by
    rw [netlinkGetRoutes_blackhole.1]
    decide
  have unusable : UnusableLongest (netlinkGetRoutes [blackholeMessage] 254) 0x0a010203#32 := by
    rw [netlinkGetRoutes_blackhole.1]
    exact unusableLongest_blackhole.1
  have builds : ∃ queue links neighbors snapshot, RouteSnapshot.buildNetlinkSnapshot queue links
      (netlinkGetRoutes [blackholeMessage] 254) neighbors = .ok snapshot := by
    rw [netlinkGetRoutes_blackhole.1]
    exact ⟨0, [], [], _, rfl⟩
  refine ⟨ipv4, unusable, (netlink_respects_unusable_iff ipv4 builds 0x0a010203#32).mpr ?_ unusable⟩
  rw [netlinkGetRoutes_blackhole.1]
  rintro ⟨_, entry, member, isOut, _⟩
  rw [List.mem_singleton.mp member] at isOut
  exact isOut rfl

end FastSocket.Xdp
