import FastSocket.Transition.Fallible
import FastSocket.Xdp.Netlink
import FastSocket.Xdp.RouteLoad

/-!
# Routes of a netlink dump

What a snapshot knows of the routes of a dump: the entries that name an output interface,
each replaced by a later one with the same prefix, interface and gateway.
-/

namespace FastSocket.Xdp

open Packet Poptrie Sorting

namespace RouteEntry

/-- The destination of an IPv4 entry; an entry without one is a default route. -/
def destinationV4 (entry : RouteEntry) : Ipv4Addr :=
  match entry.destination with
  | some (.v4 destination) => destination
  | _ => 0#32

def prefixLenV4 (entry : RouteEntry) : Nat :=
  min entry.dstLen 32

/-- The prefix of an entry covers a destination, whether or not it can be used. -/
def CoversV4 (entry : RouteEntry) (dst : Ipv4Addr) : Prop :=
  dst &&& prefixMask 32 entry.prefixLenV4 = entry.destinationV4 &&& prefixMask 32 entry.prefixLenV4

instance (entry : RouteEntry) (dst : Ipv4Addr) : Decidable (entry.CoversV4 dst) :=
  inferInstanceAs (Decidable (_ = _))

/-- An entry with the longest prefix that covers a destination. -/
def Longest (entries : List RouteEntry) (dst : Ipv4Addr) (entry : RouteEntry) : Prop :=
  entry ∈ entries ∧ entry.CoversV4 dst ∧
    ∀ other ∈ entries, other.CoversV4 dst → other.prefixLenV4 ≤ entry.prefixLenV4

instance (entries : List RouteEntry) (dst : Ipv4Addr) (entry : RouteEntry) :
    Decidable (Longest entries dst entry) :=
  inferInstanceAs (Decidable (_ ∧ _ ∧ _))

variable {entry : RouteEntry} {route : Ipv4Route}

theorem toIpv4Route_eq_some (isRoute : entry.toIpv4Route = some route) :
    entry.outIfindex = some route.ifindex ∧ route.destination = entry.destinationV4 ∧
      route.prefixLen = entry.prefixLenV4 ∧ route.priority = entry.priority.getD (2 ^ 32 - 1) ∧
      route.mtu = 2 ^ 32 - 1 := by
  obtain ⟨ifindex, isOut, isRoute⟩ := Option.bind_eq_some_iff.mp isRoute
  obtain ⟨destination, isDestination, isRoute⟩ := Option.bind_eq_some_iff.mp isRoute
  obtain ⟨gateway, isGateway, isRoute⟩ := Option.bind_eq_some_iff.mp isRoute
  cases isRoute
  refine ⟨isOut, ?_, rfl, rfl, rfl⟩
  rw [destinationV4]
  cases isAddress : entry.destination with
  | none =>
    rw [isAddress] at isDestination
    cases isDestination
    rfl
  | some address =>
    rw [isAddress] at isDestination
    cases address with
    | v4 ip =>
      cases isDestination
      rfl
    | v6 ip => cases isDestination

theorem covers_iff (isRoute : entry.toIpv4Route = some route) (dst : Ipv4Addr) :
    route.Covers dst ↔ entry.CoversV4 dst := by
  obtain ⟨_, destination, prefixLen, _⟩ := toIpv4Route_eq_some isRoute
  rw [Ipv4Route.Covers, CoversV4, destination, prefixLen, prefixLenV4, Nat.min_assoc, Nat.min_self]

end RouteEntry

/-! ## What the parser guarantees -/

theorem fromLeBytes_lt (bytes : List Byte) : fromLeBytes bytes < 256 ^ bytes.length := by
  induction bytes with
  | nil => exact Nat.one_pos
  | cons byte rest ih =>
    have bound := byte.isLt
    rw [List.length_cons, Nat.pow_succ]
    change byte.toNat + 256 * fromLeBytes rest < _
    omega

theorem readU32Ne_lt {bytes : List Byte} {value : Nat} (isValue : readU32Ne bytes = some value) :
    value < 2 ^ 32 := by
  rw [readU32Ne] at isValue
  split at isValue
  · cases isValue
    refine Nat.lt_of_lt_of_le (fromLeBytes_lt _) ?_
    exact Nat.pow_le_pow_right (by decide) (List.length_take_le _ _)
  · cases isValue

theorem parseIpAddress_inet {data : List Byte} {address : IpAddr}
    (isAddress : parseIpAddress data afInet = some address) : ∃ ip, address = .v4 ip := by
  rw [parseIpAddress] at isAddress
  split at isAddress
  · cases isAddress
    exact ⟨_, rfl⟩
  · split at isAddress
    case isTrue other => cases other.1
    case isFalse => cases isAddress

section Parsed

variable {messages : List NetlinkMessage} {table : Nat} {entry : RouteEntry}

theorem exists_parseRoute (member : entry ∈ netlinkGetRoutes messages table) :
    ∃ message ∈ messages, parseRoute message = some entry := by
  obtain ⟨message, isMessage, isEntry⟩ := List.mem_filterMap.mp member
  refine ⟨message, isMessage, ?_⟩
  rw [routeOfTable] at isEntry
  split at isEntry
  · cases isEntry
  · split at isEntry
    case h_1 => cases isEntry
    case h_2 route isRoute =>
      split at isEntry
      · cases isEntry
      · split at isEntry
        · cases isEntry
          exact isRoute
        · cases isEntry

/-- The attributes that an entry has been read from. -/
theorem exists_attrs (member : entry ∈ netlinkGetRoutes messages table) :
    ∃ attrs : NlAttrs,
      entry.destination = (attrs.lookup rtaDst).bind (parseIpAddress · entry.family) ∧
      entry.gateway = (attrs.lookup rtaGateway).bind (parseIpAddress · entry.family) ∧
      entry.outIfindex = ((attrs.lookup rtaOif).bind readU32Ne).bind IfIndex.tryNew ∧
      entry.priority = (attrs.lookup rtaPriority).bind readU32Ne := by
  obtain ⟨message, _, isRoute⟩ := exists_parseRoute member
  rw [parseRoute] at isRoute
  split at isRoute
  · cases isRoute
  · split at isRoute
    · cases isRoute
    case h_2 attrs _ =>
      cases isRoute
      exact ⟨attrs, rfl, rfl, rfl, rfl⟩

theorem priority_le (member : entry ∈ netlinkGetRoutes messages table) :
    entry.priority.getD (2 ^ 32 - 1) ≤ 2 ^ 32 - 1 := by
  obtain ⟨attrs, _, _, _, isPriority⟩ := exists_attrs member
  rw [isPriority]
  cases stated : (attrs.lookup rtaPriority).bind readU32Ne with
  | none => exact Nat.le_refl _
  | some value =>
    obtain ⟨bytes, _, isValue⟩ := Option.bind_eq_some_iff.mp stated
    exact Nat.le_sub_one_of_lt (readU32Ne_lt isValue)

theorem exists_ipv4Only (attr : Option (List Byte)) :
    ∃ ip, ipv4Only (attr.bind (parseIpAddress · afInet)) = some ip := by
  cases isAddress : attr.bind (parseIpAddress · afInet) with
  | none => exact ⟨none, rfl⟩
  | some address =>
    obtain ⟨data, _, isParsed⟩ := Option.bind_eq_some_iff.mp isAddress
    obtain ⟨ip, rfl⟩ := parseIpAddress_inet isParsed
    exact ⟨some ip, rfl⟩

/-- An IPv4 entry can be used exactly if it names an output interface. -/
theorem exists_toIpv4Route (member : entry ∈ netlinkGetRoutes messages table)
    (ipv4 : entry.family = afInet) :
    (∃ route, entry.toIpv4Route = some route) ↔ entry.outIfindex ≠ none := by
  constructor
  · rintro ⟨route, isRoute⟩ isNone
    rw [(RouteEntry.toIpv4Route_eq_some isRoute).1] at isNone
    cases isNone
  · intro isOut
    obtain ⟨attrs, isDestination, isGateway, _⟩ := exists_attrs member
    rw [ipv4] at isDestination isGateway
    obtain ⟨ifindex, isIfindex⟩ := Option.ne_none_iff_exists'.mp isOut
    obtain ⟨destination, onlyDestination⟩ := exists_ipv4Only (attrs.lookup rtaDst)
    obtain ⟨gateway, onlyGateway⟩ := exists_ipv4Only (attrs.lookup rtaGateway)
    rw [RouteEntry.toIpv4Route, isIfindex, isDestination, onlyDestination, isGateway, onlyGateway]
    exact ⟨_, rfl⟩

end Parsed

/-! ## Snapshots -/

/-- The usable routes of a dump, in its order. -/
def usableRoutes (entries : List RouteEntry) : List Ipv4Route :=
  entries.filterMap RouteEntry.toIpv4Route

namespace RouteSnapshot

variable {queue : QueueId} {links : List LinkEntry} {entries : List RouteEntry}
  {neighbors : List NeighborEntry} {snapshot base : RouteSnapshot}

theorem consistent_addLink (consistent : snapshot.Consistent) (link : LinkEntry) :
    (snapshot.addLink queue link).Consistent ∧
      (snapshot.addLink queue link).routesV4 = snapshot.routesV4 := by
  rw [addLink]
  cases link.mac with
  | none => exact ⟨consistent, rfl⟩
  | some mac => exact ⟨consistent.upsertInterface _, rfl⟩

theorem consistent_links (consistent : snapshot.Consistent) (links : List LinkEntry) :
    (links.foldl (addLink queue) snapshot).Consistent ∧
      (links.foldl (addLink queue) snapshot).routesV4 = snapshot.routesV4 := by
  induction links generalizing snapshot with
  | nil => exact ⟨consistent, rfl⟩
  | cons link rest ih =>
    obtain ⟨next, same⟩ := @consistent_addLink queue _ consistent link
    obtain ⟨all, sameAll⟩ := ih next
    exact ⟨all, sameAll.trans same⟩

variable {routes : List Ipv4Route}

theorem loaded_addNeighbor (consistent : snapshot.Consistent) (isTable : snapshot.routesV4 = routes)
    (neighbor : NeighborEntry) :
    (snapshot.addNeighbor neighbor).Consistent ∧
      (snapshot.addNeighbor neighbor).routesV4 = routes := by
  rw [addNeighbor]
  split
  case h_1 ip mac _ _ =>
    exact ⟨@Consistent.apply _ _ (.neighborV4 neighbor.ifindex ip mac) consistent rfl, isTable⟩
  case h_2 => exact ⟨consistent, isTable⟩

theorem loaded_neighbors (consistent : snapshot.Consistent) (isTable : snapshot.routesV4 = routes)
    (neighbors : List NeighborEntry) :
    (neighbors.foldl addNeighbor snapshot).Consistent ∧
      (neighbors.foldl addNeighbor snapshot).routesV4 = routes := by
  induction neighbors generalizing snapshot with
  | nil => exact ⟨consistent, isTable⟩
  | cons neighbor rest ih =>
    obtain ⟨next, nextTable⟩ := loaded_addNeighbor consistent isTable neighbor
    exact ih next nextTable

/-- The route table of a snapshot from netlink. -/
theorem buildNetlinkSnapshot_eq_ok
    (built : buildNetlinkSnapshot queue links entries neighbors = .ok snapshot) :
    snapshot.Consistent ∧
      snapshot.routesV4 =
        sortRoutesV4 ((usableRoutes entries).foldl upsertRouteV4NoSort []) := by
  obtain ⟨consistent, noRoutes⟩ := @consistent_links queue _ consistent_new links
  obtain ⟨middle, isMiddle, isSnapshot⟩ := Transition.bind_eq_ok_iff.mp built
  cases isSnapshot
  have table := consistent.upsertRoutesV4 isMiddle
  rw [noRoutes] at table
  exact loaded_neighbors table.consistent table.routesV4 neighbors

theorem lookupRouteV4_netlink
    (built : buildNetlinkSnapshot queue links entries neighbors = .ok snapshot) (dst : Ipv4Addr) :
    snapshot.lookupRouteV4 dst =
      (sortRoutesV4 ((usableRoutes entries).foldl upsertRouteV4NoSort [])).find? (·.Covers dst) := by
  obtain ⟨consistent, isTable⟩ := buildNetlinkSnapshot_eq_ok built
  rw [consistent.lookupRouteV4_eq, isTable]

end RouteSnapshot

end FastSocket.Xdp
