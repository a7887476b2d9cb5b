import FastSocket.Xdp.RouteEgress

/-!
# Resolution through a route snapshot

A snapshot that is reached by updates has indexes that agree with its tables.
Resolution through the indexes is then a linear scan for the first matching route
followed by the neighbor and interface lookups of that route.
-/

namespace FastSocket.Xdp

open Packet Poptrie

/-! ## The egress index of all interfaces -/

variable {interface : InterfaceInfo} {ifindex : IfIndex}

section EgressIndex

variable (routes : List Ipv4Route) (neighbors : NeighborTable)

/-- The egress index entry of an interface, if a route egresses it. -/
def interfaceEgress (interface : InterfaceInfo) : Option InterfaceEgress :=
  let scan := scanInterface routes neighbors interface
  if scan.egressable then some { slots := scan.slots, egresses := scan.egresses } else none

variable {routes neighbors} {index : EgressIndex}
  {entries : List (Sigma fun _ : IfIndex => InterfaceInfo)}

theorem lookup_addInterface_self (keyed : interface.ifindex = ifindex)
    (absent : index.lookup ifindex = none) :
    (addInterface routes neighbors index interface).lookup ifindex =
      interfaceEgress routes neighbors interface := by
  subst keyed
  simp only [addInterface, interfaceEgress]
  split
  · exact AList.lookup_insert index
  · exact absent

theorem lookup_addInterface_ne (differs : ifindex ≠ interface.ifindex) :
    (addInterface routes neighbors index interface).lookup ifindex = index.lookup ifindex := by
  simp only [addInterface]
  split
  · exact AList.lookup_insert_ne differs
  · rfl

theorem lookup_foldl_addInterface_of_absent (keyed : ∀ entry ∈ entries, entry.2.ifindex = entry.1)
    (absent : ifindex ∉ entries.keys) (index : EgressIndex) :
    (entries.foldl (fun index entry => addInterface routes neighbors index entry.2) index).lookup
      ifindex = index.lookup ifindex := by
  induction entries generalizing index with
  | nil => rfl
  | cons entry rest ih =>
    rw [List.keys_cons, List.mem_cons, not_or] at absent
    rw [List.forall_mem_cons] at keyed
    rw [List.foldl_cons, ih keyed.2 absent.2]
    exact lookup_addInterface_ne (by rw [keyed.1]; exact absent.1)

theorem lookup_foldl_addInterface (nodup : entries.NodupKeys)
    (keyed : ∀ entry ∈ entries, entry.2.ifindex = entry.1) (absent : index.lookup ifindex = none) :
    (entries.foldl (fun index entry => addInterface routes neighbors index entry.2) index).lookup
      ifindex = (entries.dlookup ifindex).bind (interfaceEgress routes neighbors) := by
  induction entries generalizing index with
  | nil => exact absent
  | cons entry rest ih =>
    rw [List.nodupKeys_cons] at nodup
    rw [List.forall_mem_cons] at keyed
    rw [List.foldl_cons]
    rcases eq_or_ne ifindex entry.1 with rfl | differs
    · rw [lookup_foldl_addInterface_of_absent keyed.2 nodup.1,
        lookup_addInterface_self keyed.1 absent, List.dlookup_cons_eq, Option.bind_some]
    · rw [ih nodup.2 keyed.2, List.dlookup_cons_ne _ _ differs]
      rw [lookup_addInterface_ne (by rw [keyed.1]; exact differs), absent]

/-- The rebuilt egress index holds the entry of every interface. -/
theorem lookup_rebuildEgressIndexV4 {interfaces : InterfaceTable} (nonempty : routes ≠ [])
    (keyed : ∀ ifindex interface, interfaces.lookup ifindex = some interface →
      interface.ifindex = ifindex) (ifindex : IfIndex) :
    (rebuildEgressIndexV4 routes neighbors interfaces).lookup ifindex =
      (interfaces.lookup ifindex).bind (interfaceEgress routes neighbors) := by
  rw [rebuildEgressIndexV4, if_neg (by simpa using nonempty)]
  apply lookup_foldl_addInterface interfaces.nodupKeys _ (AList.lookup_empty ifindex)
  intro entry member
  exact keyed entry.1 entry.2 (AList.mem_lookup_iff.mpr member)

end EgressIndex

/-! ## The linear reference -/

/-- The egress of a destination through a matched route and an interface. -/
def routeEgress (neighbors : NeighborTable) (route : Ipv4Route) (interface : InterfaceInfo)
    (dst : Ipv4Addr) (queue : QueueId) : Option XdpResolvedEgress :=
  if Egresses interface route then
    let nextHop := route.gateway.getD dst
    (neighborMac neighbors interface.ifindex route.ifindex nextHop).map fun dstMac =>
      .fromEgress (.ipv4 interface.ifindex queue dstMac interface.mac
        (min route.mtu interface.mtu))
  else
    none

namespace RouteSnapshot

/-- Resolution by a linear scan over the route table. -/
def referenceV4 (snapshot : RouteSnapshot) (dst : Ipv4Addr) (ifindex : IfIndex)
    (queue : QueueId) : Option XdpResolvedEgress := do
  let route ← snapshot.routesV4.find? (·.Covers dst)
  let interface ← snapshot.interfaces.lookup ifindex
  routeEgress snapshot.neighborsV4 route interface dst queue

/-- The indexes of a snapshot agree with its tables. -/
structure Consistent (snapshot : RouteSnapshot) : Prop where
  ordered : RoutesOrdered snapshot.routesV4
  routeIndex : rebuildRouteIndexV4 snapshot.routesV4 = .ok snapshot.routeIndexV4
  egressIndex : snapshot.egressIndexV4 =
    rebuildEgressIndexV4 snapshot.routesV4 snapshot.neighborsV4 snapshot.interfaces
  keyed : ∀ ifindex interface, snapshot.interfaces.lookup ifindex = some interface →
    interface.ifindex = ifindex

end RouteSnapshot

/-- What a slot resolves to for a destination and a queue. -/
def SlotMeaning.resolve (meaning : SlotMeaning) (neighbors : NeighborTable) (route : Ipv4Route)
    (interface : InterfaceInfo) (dst : Ipv4Addr) (queue : QueueId) : Option XdpResolvedEgress :=
  match meaning with
  | .unusable => none
  | .onLink =>
    (neighborMac neighbors interface.ifindex route.ifindex dst).map fun dstMac =>
      .fromEgress (.ipv4 interface.ifindex queue dstMac interface.mac
        (min route.mtu interface.mtu))
  | .prebuilt resolved => some (resolved.withQueue queue)

theorem resolve_routeMeaning (neighbors : NeighborTable) (route : Ipv4Route)
    (interface : InterfaceInfo) (dst : Ipv4Addr) (queue : QueueId) :
    (routeMeaning neighbors interface route).resolve neighbors route interface dst queue =
      routeEgress neighbors route interface dst queue := by
  rw [routeMeaning, routeEgress]
  split
  · cases route.gateway with
    | none => rfl
    | some gateway =>
      simp only [Option.getD_some]
      cases neighborMac neighbors interface.ifindex route.ifindex gateway <;> rfl
  · rfl

namespace RouteSnapshot.Consistent

variable {snapshot : RouteSnapshot}

theorem lookupRouteIndexV4_eq (consistent : snapshot.Consistent) (dst : Ipv4Addr) :
    snapshot.lookupRouteIndexV4 dst = snapshot.routesV4.findIdx? (·.Covers dst) :=
  lookup_rebuildRouteIndexV4 consistent.ordered consistent.routeIndex dst

theorem lookupRouteV4_eq (consistent : snapshot.Consistent) (dst : Ipv4Addr) :
    snapshot.lookupRouteV4 dst = snapshot.routesV4.find? (·.Covers dst) := by
  rw [lookupRouteV4, consistent.lookupRouteIndexV4_eq, List.find?_eq_bind_findIdx?_getElem?]
  rfl

/-- Resolution at a known route position and interface. -/
theorem resolved_at (consistent : snapshot.Consistent) {dst : Ipv4Addr} {index : Nat}
    {route : Ipv4Route} (found : snapshot.routesV4.findIdx? (·.Covers dst) = some index)
    (atIndex : snapshot.routesV4[index]? = some route)
    (present : snapshot.interfaces.lookup ifindex = some interface) (queue : QueueId) :
    snapshot.resolvedV4ForInterface dst ifindex queue =
      routeEgress snapshot.neighborsV4 route interface dst queue := by
  have nonempty : snapshot.routesV4 ≠ [] := by
    intro empty
    rw [empty] at atIndex
    cases atIndex
  have keyed := consistent.keyed ifindex interface present
  have scanned := scanInterface_spec snapshot.routesV4 snapshot.neighborsV4 interface
  have inside := (List.getElem?_eq_some_iff.mp atIndex).1
  rw [resolvedV4ForInterface, consistent.lookupRouteIndexV4_eq, found, consistent.egressIndex,
    Option.bind_eq_bind, Option.bind_some,
    lookup_rebuildEgressIndexV4 nonempty consistent.keyed, present, Option.bind_some,
    interfaceEgress, ← resolve_routeMeaning]
  cases active : (scanInterface snapshot.routesV4 snapshot.neighborsV4 interface).egressable with
  | false =>
    rw [scanned.unused active index route atIndex inside]
    rfl
  | true =>
    obtain ⟨slot, stored, means⟩ := scanned.slots index route atIndex
    rw [if_pos inside] at means
    simp only [if_true, Option.bind_eq_bind, Option.bind_some, stored]
    cases slot with
    | none =>
      rw [show routeMeaning _ _ _ = _ from means]
      rfl
    | onLink =>
      rw [show routeMeaning _ _ _ = _ from means]
      simp only [atIndex, Option.bind_some, SlotMeaning.resolve, keyed]
      cases neighborMac snapshot.neighborsV4 ifindex route.ifindex dst <;> rfl
    | gateway slot =>
      obtain ⟨resolved, isResolved, meaning⟩ := means
      rw [meaning]
      simp only [isResolved, Option.bind_some]
      rfl

theorem resolved_eq_reference (consistent : snapshot.Consistent) (dst : Ipv4Addr)
    (ifindex : IfIndex) (queue : QueueId) :
    snapshot.resolvedV4ForInterface dst ifindex queue =
      snapshot.referenceV4 dst ifindex queue := by
  rw [referenceV4, List.find?_eq_bind_findIdx?_getElem?]
  cases found : snapshot.routesV4.findIdx? (·.Covers dst) with
  | none =>
    rw [resolvedV4ForInterface, consistent.lookupRouteIndexV4_eq, found]
    rfl
  | some index =>
    obtain ⟨inside, _⟩ := List.findIdx?_eq_some_iff_getElem.mp found
    have atIndex := List.getElem?_eq_getElem inside
    cases present : snapshot.interfaces.lookup ifindex with
    | none =>
      have absent : snapshot.egressIndexV4.lookup ifindex = none := by
        rw [consistent.egressIndex,
          lookup_rebuildEgressIndexV4 (List.ne_nil_of_length_pos (by omega)) consistent.keyed,
          present, Option.bind_none]
      rw [resolvedV4ForInterface, consistent.lookupRouteIndexV4_eq, found]
      simp [absent]
    | some interface =>
      rw [consistent.resolved_at found atIndex present queue]
      simp [atIndex]

theorem neighborMac_self (neighbors : NeighborTable) (ifindex : IfIndex) (ip : Ipv4Addr) :
    neighborMac neighbors ifindex ifindex ip = neighbors.lookup (ifindex, ip) :=
  Option.or_self

/-- The simple resolver is the reference on the interface of the matched route. -/
theorem egress_eq_reference (consistent : snapshot.Consistent) (dst : Ipv4Addr) :
    snapshot.egressV4 dst = do
      let route ← snapshot.routesV4.find? (·.Covers dst)
      let interface ← snapshot.interfaces.lookup route.ifindex
      let resolved ← snapshot.referenceV4 dst route.ifindex interface.queue
      return resolved.egress := by
  rw [egressV4, consistent.lookupRouteV4_eq]
  simp only [referenceV4]
  cases snapshot.routesV4.find? (·.Covers dst) with
  | none => rfl
  | some route =>
    simp only [Option.bind_eq_bind, Option.bind_some]
    cases present : snapshot.interfaces.lookup route.ifindex with
    | none => simp
    | some interface =>
      have keyed := consistent.keyed _ _ present
      have egresses : Egresses interface route := .inl keyed.symm
      simp only [Option.bind_some, routeEgress, if_pos egresses, keyed, neighborMac_self]
      cases snapshot.neighborsV4.lookup (route.ifindex, route.gateway.getD dst) <;> rfl

end RouteSnapshot.Consistent

/-! ## Updates -/

/-- An update call on a snapshot. -/
inductive RouteUpdate where
  | routeV4 (route : Ipv4Route)
  | routesV4 (routes : List Ipv4Route)
  | neighborV4 (ifindex : IfIndex) (ip : Ipv4Addr) (mac : LinkAddr)
  | interface (interface : InterfaceInfo)
deriving DecidableEq, Repr

namespace RouteSnapshot

def apply (snapshot : RouteSnapshot) : RouteUpdate → Except BuildError RouteSnapshot
  | .routeV4 route => snapshot.upsertRouteV4 route
  | .routesV4 routes => snapshot.upsertRoutesV4 routes
  | .neighborV4 ifindex ip mac => .ok (snapshot.upsertNeighborV4 ifindex ip mac)
  | .interface interface => .ok (snapshot.upsertInterface interface)

/-- A sequence of update calls on an empty snapshot. -/
def applyAll (updates : List RouteUpdate) : Except BuildError RouteSnapshot :=
  updates.foldlM apply new

theorem consistent_new : new.Consistent :=
  ⟨List.Pairwise.nil, rfl, rfl, by simp [new]⟩

variable {snapshot next : RouteSnapshot} {routes : List Ipv4Route} {update : RouteUpdate}
  {updates : List RouteUpdate} {error : BuildError}

theorem withRoutes_eq_ok (updated : snapshot.withRoutes routes = .ok next) :
    ∃ index, rebuildRouteIndexV4 (sortRoutesV4 routes) = .ok index ∧
      next = { snapshot with
        routesV4 := sortRoutesV4 routes
        routeIndexV4 := index
        egressIndexV4 := rebuildEgressIndexV4 (sortRoutesV4 routes) snapshot.neighborsV4
          snapshot.interfaces } := by
  rw [withRoutes] at updated
  cases rebuilt : rebuildRouteIndexV4 (sortRoutesV4 routes) with
  | error error =>
    rw [rebuilt] at updated
    cases updated
  | ok index =>
    rw [rebuilt] at updated
    cases updated
    exact ⟨index, rfl, rfl⟩

theorem Consistent.withRoutes (consistent : snapshot.Consistent)
    (updated : snapshot.withRoutes routes = .ok next) : next.Consistent := by
  obtain ⟨index, rebuilt, rfl⟩ := withRoutes_eq_ok updated
  exact ⟨routesOrdered_sort routes, rebuilt, rfl, consistent.keyed⟩

theorem Consistent.upsertInterface (consistent : snapshot.Consistent)
    (interface : InterfaceInfo) : (snapshot.upsertInterface interface).Consistent := by
  refine ⟨consistent.ordered, consistent.routeIndex, rfl, ?_⟩
  intro ifindex found present
  change (snapshot.interfaces.insert interface.ifindex interface).lookup ifindex = _ at present
  rcases eq_or_ne ifindex interface.ifindex with rfl | differs
  · rw [AList.lookup_insert, Option.some.injEq] at present
    rw [← present]
  · rw [AList.lookup_insert_ne differs] at present
    exact consistent.keyed ifindex found present

/-- Every update keeps the indexes consistent. -/
theorem Consistent.apply (consistent : snapshot.Consistent)
    (updated : snapshot.apply update = .ok next) : next.Consistent := by
  cases update with
  | routeV4 route => exact consistent.withRoutes updated
  | routesV4 routes =>
    change (if _ then _ else _) = _ at updated
    split at updated
    · cases updated
      exact consistent
    · exact consistent.withRoutes updated
  | neighborV4 ifindex ip mac =>
    cases updated
    exact ⟨consistent.ordered, consistent.routeIndex, rfl, consistent.keyed⟩
  | interface interface =>
    cases updated
    exact consistent.upsertInterface interface

theorem Consistent.foldlM (consistent : snapshot.Consistent)
    (updated : updates.foldlM RouteSnapshot.apply snapshot = .ok next) : next.Consistent := by
  induction updates generalizing snapshot with
  | nil =>
    cases updated
    exact consistent
  | cons update rest ih =>
    rw [List.foldlM_cons] at updated
    cases first : snapshot.apply update with
    | error error =>
      rw [first] at updated
      cases updated
    | ok middle =>
      rw [first] at updated
      exact ih (consistent.apply first) updated

theorem withRoutes_error (failed : snapshot.withRoutes routes = .error error) :
    error.IsSizeLimit := by
  rw [withRoutes] at failed
  cases rebuilt : rebuildRouteIndexV4 (sortRoutesV4 routes) with
  | ok index =>
    rw [rebuilt] at failed
    cases failed
  | error other =>
    rw [rebuilt] at failed
    cases failed
    exact rebuildRouteIndexV4_error rebuilt

theorem apply_error (failed : snapshot.apply update = .error error) : error.IsSizeLimit := by
  cases update with
  | routeV4 route => exact withRoutes_error failed
  | routesV4 routes =>
    change (if _ then _ else _) = _ at failed
    split at failed
    · cases failed
    · exact withRoutes_error failed
  | neighborV4 ifindex ip mac => cases failed
  | interface interface => cases failed

/-- Updates stop only at the size assertions of the poptrie. -/
theorem foldlM_apply_error (failed : updates.foldlM RouteSnapshot.apply snapshot = .error error) :
    error.IsSizeLimit := by
  induction updates generalizing snapshot with
  | nil => cases failed
  | cons update rest ih =>
    rw [List.foldlM_cons] at failed
    cases first : snapshot.apply update with
    | error other =>
      rw [first] at failed
      cases failed
      exact apply_error first
    | ok middle =>
      rw [first] at failed
      exact ih failed

/-- Every snapshot that updates lead to is consistent. -/
theorem consistent_applyAll (updated : applyAll updates = .ok next) : next.Consistent :=
  consistent_new.foldlM updated

/-- After any sequence of updates, resolution for an interface is the linear
reference over an ordered route table, and the simple resolver is that reference
on the interface of the matched route with its stored queue.  Updates stop only at
the size assertions of the poptrie. -/
theorem resolved_applyAll (updates : List RouteUpdate) :
    (∀ error, applyAll updates = .error error → error.IsSizeLimit) ∧
      ∀ snapshot, applyAll updates = .ok snapshot →
        RoutesOrdered snapshot.routesV4 ∧
        (∀ dst ifindex queue, snapshot.resolvedV4ForInterface dst ifindex queue =
          snapshot.referenceV4 dst ifindex queue) ∧
        ∀ dst, snapshot.egressV4 dst = do
          let route ← snapshot.routesV4.find? (·.Covers dst)
          let interface ← snapshot.interfaces.lookup route.ifindex
          let resolved ← snapshot.referenceV4 dst route.ifindex interface.queue
          return resolved.egress := by
  constructor
  · intro error failed
    exact foldlM_apply_error failed
  · intro snapshot updated
    have consistent := consistent_applyAll updated
    exact ⟨consistent.ordered, consistent.resolved_eq_reference, consistent.egress_eq_reference⟩

def sampleRoute : Ipv4Route :=
  { destination := 0#32, prefixLen := 0, ifindex := 7, gateway := some 0xc0000201#32,
    priority := 100, mtu := 9000 }

def sampleInterface : InterfaceInfo :=
  { ifindex := 8, masterIfindex := some 7, mac := 0x020000000001#48, mtu := 1500, queue := 3 }

/-- A default route through a bond, attached at a slave of the bond. -/
def sampleUpdates : List RouteUpdate :=
  [.interface sampleInterface, .neighborV4 7 0xc0000201#32 0x020000000002#48,
    .routeV4 sampleRoute]

theorem applyAll_sampleUpdates :
    ∃ snapshot, applyAll sampleUpdates = .ok snapshot ∧
      snapshot.referenceV4 0x08080808#32 8 1 =
        some (.fromEgress (.ipv4 8 1 0x020000000002#48 0x020000000001#48 1500)) := by
  have built : (rebuildRouteIndexV4 [sampleRoute]).toBool = true := by decide +kernel
  have sorted : sortRoutesV4 [sampleRoute] = [sampleRoute] := List.mergeSort_singleton sampleRoute
  cases rebuilt : rebuildRouteIndexV4 [sampleRoute] with
  | error error =>
    rw [rebuilt] at built
    cases built
  | ok index =>
    have stepped : applyAll sampleUpdates =
        (((new.upsertInterface sampleInterface).upsertNeighborV4 7 0xc0000201#32
          0x020000000002#48).withRoutes [sampleRoute] >>= pure) := rfl
    rw [stepped, withRoutes, sorted, rebuilt]
    exact ⟨_, rfl, rfl⟩

theorem resolved_sampleUpdates :
    ∃ snapshot, applyAll sampleUpdates = .ok snapshot ∧
      snapshot.resolvedV4ForInterface 0x08080808#32 8 1 =
        some (.fromEgress (.ipv4 8 1 0x020000000002#48 0x020000000001#48 1500)) := by
  obtain ⟨snapshot, updated, reference⟩ := applyAll_sampleUpdates
  refine ⟨snapshot, updated, ?_⟩
  rw [((resolved_applyAll sampleUpdates).2 snapshot updated).2.1, reference]

end RouteSnapshot

end FastSocket.Xdp
