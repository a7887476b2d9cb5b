import FastSocket.Xdp.RouteResolve
import FastSocket.Xdp.RouteTable

/-!
# Bulk loading and loading one by one

Both ways of loading routes into a snapshot rebuild the indexes from the table they
end with, so they resolve alike as far as their tables find the same routes.
-/

namespace FastSocket.Xdp

open Packet Poptrie Sorting

namespace RouteSnapshot

variable {snapshot next : RouteSnapshot}

theorem keysDistinct_apply (distinct : KeysDistinct snapshot.routesV4) {update : RouteUpdate}
    (updated : snapshot.apply update = .ok next) : KeysDistinct next.routesV4 := by
  cases update with
  | routeV4 route =>
    obtain ⟨index, _, rfl⟩ := withRoutes_eq_ok updated
    exact (distinct.upsert route).perm (sortRoutesV4_perm _).symm
  | routesV4 routes =>
    change (if _ then _ else _) = _ at updated
    split at updated
    · cases updated
      exact distinct
    · obtain ⟨index, _, rfl⟩ := withRoutes_eq_ok updated
      exact (distinct.foldl_upsert routes).perm (sortRoutesV4_perm _).symm
  | neighborV4 ifindex ip mac =>
    cases updated
    exact distinct
  | interface interface =>
    cases updated
    exact distinct

variable {updates : List RouteUpdate} {source : RouteSnapshot} {table routes : List Ipv4Route}

theorem keysDistinct_foldlM (distinct : KeysDistinct snapshot.routesV4)
    (updated : updates.foldlM RouteSnapshot.apply snapshot = .ok next) :
    KeysDistinct next.routesV4 := by
  induction updates generalizing snapshot with
  | nil =>
    cases updated
    exact distinct
  | cons update rest ih =>
    rw [List.foldlM_cons] at updated
    cases first : snapshot.apply update with
    | error error =>
      rw [first] at updated
      cases updated
    | ok middle =>
      rw [first] at updated
      exact ih (keysDistinct_apply distinct first) updated

theorem keysDistinct_applyAll (updated : applyAll updates = .ok next) :
    KeysDistinct next.routesV4 :=
  keysDistinct_foldlM (show KeysDistinct new.routesV4 from List.nodup_nil) updated

/-- A snapshot with another route table that agrees with its indexes. -/
structure Loaded (source : RouteSnapshot) (routes : List Ipv4Route) (target : RouteSnapshot) :
    Prop where
  consistent : target.Consistent
  routesV4 : target.routesV4 = routes
  neighborsV4 : target.neighborsV4 = source.neighborsV4
  interfaces : target.interfaces = source.interfaces

theorem Consistent.loaded (consistent : snapshot.Consistent) :
    Loaded snapshot snapshot.routesV4 snapshot :=
  ⟨consistent, rfl, rfl, rfl⟩

theorem Loaded.withRoutes (loaded : Loaded source table snapshot)
    (updated : snapshot.withRoutes routes = .ok next) :
    Loaded source (sortRoutesV4 routes) next := by
  have consistent := loaded.consistent.withRoutes updated
  obtain ⟨index, _, rfl⟩ := withRoutes_eq_ok updated
  exact ⟨consistent, rfl, loaded.neighborsV4, loaded.interfaces⟩

theorem Consistent.sorted (consistent : snapshot.Consistent) :
    sortRoutesV4 snapshot.routesV4 = snapshot.routesV4 :=
  List.mergeSort_of_pairwise
    (consistent.ordered.imp fun {left right} => (routeLe_iff left right).mpr)

/-- Loading one by one. -/
theorem Loaded.foldlM (loaded : Loaded source table snapshot)
    (updated : routes.foldlM upsertRouteV4 snapshot = .ok next) :
    Loaded source (loadSingly table routes) next := by
  induction routes generalizing snapshot table with
  | nil =>
    cases updated
    exact loaded
  | cons route rest ih =>
    rw [List.foldlM_cons] at updated
    cases first : snapshot.upsertRouteV4 route with
    | error error =>
      rw [first] at updated
      cases updated
    | ok middle =>
      rw [first] at updated
      have table := loaded.withRoutes first
      rw [loaded.routesV4] at table
      exact ih table updated

/-- Loading in bulk. -/
theorem Consistent.upsertRoutesV4 (consistent : snapshot.Consistent)
    (updated : snapshot.upsertRoutesV4 routes = .ok next) :
    Loaded snapshot (sortRoutesV4 (routes.foldl upsertRouteV4NoSort snapshot.routesV4)) next := by
  rw [RouteSnapshot.upsertRoutesV4] at updated
  split at updated
  case isTrue empty =>
    cases updated
    rw [List.isEmpty_iff.mp empty, List.foldl_nil, consistent.sorted]
    exact consistent.loaded
  case isFalse => exact consistent.loaded.withRoutes updated

/-- Two snapshots that find the same route for a destination resolve it alike. -/
theorem Loaded.resolves_eq {left right : RouteSnapshot} {leftRoutes rightRoutes : List Ipv4Route}
    (leftLoaded : Loaded source leftRoutes left) (rightLoaded : Loaded source rightRoutes right)
    {dst : Ipv4Addr}
    (sameRoute : leftRoutes.find? (·.Covers dst) = rightRoutes.find? (·.Covers dst)) :
    (∀ ifindex queue, left.resolvedV4ForInterface dst ifindex queue =
      right.resolvedV4ForInterface dst ifindex queue) ∧ left.egressV4 dst = right.egressV4 dst := by
  have reference : ∀ ifindex queue,
      left.referenceV4 dst ifindex queue = right.referenceV4 dst ifindex queue := by
    intro ifindex queue
    rw [referenceV4, referenceV4, leftLoaded.routesV4, rightLoaded.routesV4, sameRoute,
      leftLoaded.neighborsV4, rightLoaded.neighborsV4, leftLoaded.interfaces,
      rightLoaded.interfaces]
  constructor
  · intro ifindex queue
    rw [leftLoaded.consistent.resolved_eq_reference, rightLoaded.consistent.resolved_eq_reference,
      reference]
  · rw [leftLoaded.consistent.egress_eq_reference, rightLoaded.consistent.egress_eq_reference,
      leftLoaded.routesV4, rightLoaded.routesV4, sameRoute, leftLoaded.interfaces,
      rightLoaded.interfaces]
    simp only [reference]

theorem routesOrdered_pairwise (ordered : RoutesOrdered routes) :
    routes.Pairwise fun left right => routeLe left right = true :=
  ordered.imp fun {left right} => (routeLe_iff left right).mpr

/-- A default route through a gateway of the sample interface. -/
def defaultRoute (gateway : Ipv4Addr) (priority : Nat) : Ipv4Route :=
  { destination := 0#32, prefixLen := 0, ifindex := 8, gateway := some gateway,
    priority := priority, mtu := 9000 }

def gatewaySnapshot : RouteSnapshot :=
  ((new.upsertInterface sampleInterface).upsertNeighborV4 8 1#32 0x020000000002#48).upsertNeighborV4
    8 2#32 0x020000000003#48

def gatewayUpdates : List RouteUpdate :=
  [.interface sampleInterface, .neighborV4 8 1#32 0x020000000002#48,
    .neighborV4 8 2#32 0x020000000003#48]

/-- The first route is loaded again with the priority of the second. -/
def reprioritized : List Ipv4Route :=
  [defaultRoute 1#32 10, defaultRoute 2#32 5, defaultRoute 1#32 5]

theorem rebuild_defaultRoute (gateway : Ipv4Addr) (priority : Nat) :
    ∃ index, rebuildRouteIndexV4 [defaultRoute gateway priority] = .ok index := by
  have built : (rebuildRouteIndexV4 [defaultRoute 0#32 0]).toBool = true := by decide +kernel
  change ∃ index, rebuildRouteIndexV4 [defaultRoute 0#32 0] = .ok index
  cases rebuilt : rebuildRouteIndexV4 [defaultRoute 0#32 0] with
  | error error =>
    rw [rebuilt] at built
    cases built
  | ok index => exact ⟨index, rfl⟩

theorem rebuild_defaultRoutes (first second : Ipv4Addr) (firstPriority secondPriority : Nat) :
    ∃ index, rebuildRouteIndexV4
      [defaultRoute first firstPriority, defaultRoute second secondPriority] = .ok index := by
  have built : (rebuildRouteIndexV4 [defaultRoute 0#32 0, defaultRoute 0#32 0]).toBool = true := by
    decide +kernel
  change ∃ index, rebuildRouteIndexV4 [defaultRoute 0#32 0, defaultRoute 0#32 0] = .ok index
  cases rebuilt : rebuildRouteIndexV4 [defaultRoute 0#32 0, defaultRoute 0#32 0] with
  | error error =>
    rw [rebuilt] at built
    cases built
  | ok index => exact ⟨index, rfl⟩

theorem withRoutes_of_sorted (snapshot : RouteSnapshot) {sorted : List Ipv4Route}
    {index : Option (Ipv4Poptrie Nat)} (isSorted : sortRoutesV4 routes = sorted)
    (rebuilt : rebuildRouteIndexV4 sorted = .ok index) :
    ∃ next, snapshot.withRoutes routes = .ok next ∧ next.routesV4 = sorted := by
  rw [withRoutes, isSorted, rebuilt]
  exact ⟨_, rfl, rfl⟩

theorem sort_tied (first second : Ipv4Addr) :
    sortRoutesV4 [defaultRoute first 5, defaultRoute second 5] =
      [defaultRoute first 5, defaultRoute second 5] := by
  simp [sortRoutesV4, List.mergeSort, routeLe, defaultRoute]

theorem gatewaySnapshot_bulk :
    ∃ bulk, gatewaySnapshot.upsertRoutesV4 reprioritized = .ok bulk ∧
      bulk.routesV4 = [defaultRoute 1#32 5, defaultRoute 2#32 5] := by
  obtain ⟨index, rebuilt⟩ := rebuild_defaultRoutes 1#32 2#32 5 5
  exact gatewaySnapshot.withRoutes_of_sorted (sort_tied 1#32 2#32) rebuilt

theorem gatewaySnapshot_single :
    ∃ single, reprioritized.foldlM upsertRouteV4 gatewaySnapshot = .ok single ∧
      single.routesV4 = [defaultRoute 2#32 5, defaultRoute 1#32 5] := by
  obtain ⟨index, rebuilt⟩ := rebuild_defaultRoute 1#32 10
  obtain ⟨first, firstLoaded, firstTable⟩ := gatewaySnapshot.withRoutes_of_sorted
    (List.mergeSort_singleton (defaultRoute 1#32 10)) rebuilt
  obtain ⟨index, rebuilt⟩ := rebuild_defaultRoutes 2#32 1#32 5 10
  have swapped : sortRoutesV4 (upsertRouteV4NoSort first.routesV4 (defaultRoute 2#32 5)) =
      [defaultRoute 2#32 5, defaultRoute 1#32 10] := by
    rw [firstTable]
    change sortRoutesV4 [defaultRoute 1#32 10, defaultRoute 2#32 5] = _
    simp [sortRoutesV4, List.mergeSort, routeLe, defaultRoute]
  obtain ⟨second, secondLoaded, secondTable⟩ := first.withRoutes_of_sorted swapped rebuilt
  obtain ⟨index, rebuilt⟩ := rebuild_defaultRoutes 2#32 1#32 5 5
  have kept : sortRoutesV4 (upsertRouteV4NoSort second.routesV4 (defaultRoute 1#32 5)) =
      [defaultRoute 2#32 5, defaultRoute 1#32 5] := by
    rw [secondTable]
    exact sort_tied 2#32 1#32
  obtain ⟨third, thirdLoaded, thirdTable⟩ := second.withRoutes_of_sorted kept rebuilt
  refine ⟨third, ?_, thirdTable⟩
  have firstStep : gatewaySnapshot.upsertRouteV4 (defaultRoute 1#32 10) = .ok first := firstLoaded
  have secondStep : first.upsertRouteV4 (defaultRoute 2#32 5) = .ok second := secondLoaded
  have thirdStep : second.upsertRouteV4 (defaultRoute 1#32 5) = .ok third := thirdLoaded
  rw [reprioritized, List.foldlM_cons, firstStep]
  change (do let next ← first.upsertRouteV4 (defaultRoute 2#32 5)
             [defaultRoute 1#32 5].foldlM upsertRouteV4 next) = _
  rw [secondStep]
  change (do let next ← second.upsertRouteV4 (defaultRoute 1#32 5)
             [].foldlM upsertRouteV4 next) = _
  rw [thirdStep]
  rfl

end RouteSnapshot

end FastSocket.Xdp
