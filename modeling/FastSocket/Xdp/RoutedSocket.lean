import FastSocket.Xdp.EndpointRoute
import FastSocket.Xdp.RouteMonitor

/-!
# Endpoints under changing routes

A UDP socket whose queue-local router adopts snapshots from its own queue and from a
route monitor, and the endpoints that are prepared on it.  An endpoint sends through
its cached header only while the generation of the routes is the one under which the
header was built, so that every packet follows the adopted snapshot.
-/

namespace FastSocket.Xdp

open Packet

/-- The parts of a UDP socket that do not change while it routes. -/
structure RoutedUdp where
  localAddr : SocketAddrV4
  ttl : Byte
  routeContext : XdpRouteContext

/-- The socket as its sends see it, with the answers of a queue-local router. -/
def RoutedUdp.under (config : RoutedUdp) (routes : XdpLocalRoutes) : XdpUdpConfig :=
  { localAddr := config.localAddr
    ttl := config.ttl
    routeContext := config.routeContext
    resolveUdpL2 := fun dst context =>
      routes.snapshot.resolveL2ForInterface dst context.ifindex context.mtu
    routeGeneration := routes.generation }

/-- A socket with its router, the monitor's slot, the handles that feed the router and
the endpoints prepared so far; `adopted` counts the updates that the router has
adopted. -/
structure RoutedSocket where
  routes : XdpLocalRoutes
  shared : Option VersionedSnapshot
  handles : List XdpRouteMonitorHandle
  socket : XdpSocket
  endpoints : List XdpUdpEndpoint
  adopted : Nat

inductive RoutingAction where
  | pushUpdate (snapshot : RouteSnapshot)
  | applyUpdates
  /-- The store of a publisher on any thread. -/
  | publish (versioned : VersionedSnapshot)
  | registerQueue
  | applyPublished (handle : Nat)
  | prepareUdpEndpoint (spec : UdpEndpointSpec)
  | sendToUdpEndpoint (endpoint : Nat) (batch : List (TxSlot (UdpEndpointTransmit XdpPacketBuf)))
  | sendDirectBatch (endpoint : Nat) (max : Nat) (fill : Nat → FillCall)
  /-- Anything else that happens to the socket's rings and frames. -/
  | other (socket : XdpSocket)

namespace RoutedSocket

def new (snapshot : RouteSnapshot) (socket : XdpSocket) : RoutedSocket :=
  { routes := .new snapshot, shared := none, handles := [], socket := socket, endpoints := []
    adopted := 0 }

variable (config : RoutedUdp) (system : RoutedSocket)

def udp : XdpUdpConfig :=
  config.under system.routes

def step : RoutingAction → Option RoutedSocket
  | .pushUpdate snapshot => some { system with routes := system.routes.pushUpdate snapshot }
  | .applyUpdates =>
    let (applied, routes) := system.routes.applyUpdates
    some { system with routes := routes, adopted := system.adopted + applied }
  | .publish versioned => some { system with shared := some versioned }
  | .registerQueue =>
    some { system with handles := system.handles ++ [{ lastSeenGeneration := 0 }] }
  | .applyPublished index => do
      let handle ← system.handles[index]?
      let (applied, handle, routes) := handle.applyUpdates system.shared system.routes
      return { system with
        routes := routes
        handles := system.handles.set index handle
        adopted := system.adopted + applied }
  | .prepareUdpEndpoint spec =>
    match prepareXdpUdpEndpoint (system.udp config) spec with
    | .ok endpoint => some { system with endpoints := system.endpoints ++ [endpoint] }
    | .error _ => some system
  | .sendToUdpEndpoint index batch => do
      let endpoint ← system.endpoints[index]?
      let (returned, socket) :=
        (sendUdpEndpointInner (system.udp config) endpoint batch).run system.socket
      let outcome ← returned
      return { system with
        socket := socket
        endpoints := system.endpoints.set index outcome.cache }
  | .sendDirectBatch index max fill => do
      let endpoint ← system.endpoints[index]?
      let ((endpoint, _), socket) :=
        (sendUdpEndpointDirectBatch (system.udp config) endpoint max fill).run system.socket
      return { system with
        socket := socket
        endpoints := system.endpoints.set index endpoint }
  | .other socket => some { system with socket := socket }

/-- A cached header is stamped with the number of updates adopted when it was built, and
it follows the adopted snapshot while no other is adopted. -/
def Keeps (spec : UdpEndpointSpec) (info : UdpEndpointInfo) (cache : XdpUdpEndpointCache) : Prop :=
  ∃ count ≤ system.adopted, cache.routeGeneration = count % 2 ^ 64 ∧
    (count = system.adopted → ∃ resolved, (system.udp config).resolve spec = some resolved ∧
      cache.BuiltFrom (system.udp config) spec info resolved)

structure KeepsEndpoint (endpoint : XdpUdpEndpoint) : Prop where
  sendable : endpoint.spec.Sendable config.localAddr
  cached : ∀ cache ∈ endpoint.cached, system.Keeps config endpoint.spec endpoint.info cache

/-- The generation of the routes counts the adopted updates, and every endpoint is
kept. -/
structure Tracks : Prop where
  generation : system.routes.generation = system.adopted % 2 ^ 64
  endpoints : ∀ endpoint ∈ system.endpoints, system.KeepsEndpoint config endpoint

end RoutedSocket

variable {config : RoutedUdp} {system target : RoutedSocket} {endpoint : XdpUdpEndpoint}

/-! ## Adopting updates -/

/-- The routes after the adoption of updates: they stay as they are for sends, or their
generation moves on. -/
def XdpLocalRoutes.Adopts (applied : Nat) (source target : XdpLocalRoutes) : Prop :=
  (applied = 0 ∧ target.snapshot = source.snapshot ∧ target.generation = source.generation) ∨
    0 < applied ∧ target.generation = (source.generation + applied) % 2 ^ 64

theorem XdpLocalRoutes.adopts_applyUpdates (routes : XdpLocalRoutes) :
    Adopts routes.applyUpdates.1 routes routes.applyUpdates.2 := by
  by_cases empty : routes.pending = []
  · rw [routes.applyUpdates_of_pending_eq_nil empty]
    exact .inl ⟨rfl, rfl, rfl⟩
  · rw [routes.applyUpdates_of_pending_ne_nil empty]
    exact .inr ⟨List.length_pos_iff.mpr empty, rfl⟩

theorem XdpRouteMonitorHandle.adopts_applyUpdates (handle : XdpRouteMonitorHandle)
    (shared : Option VersionedSnapshot) (routes : XdpLocalRoutes) :
    XdpLocalRoutes.Adopts (handle.applyUpdates shared routes).1 routes
      (handle.applyUpdates shared routes).2.2 := by
  cases shared with
  | none => exact .inl ⟨rfl, rfl, rfl⟩
  | some versioned =>
    by_cases seen : handle.lastSeenGeneration = versioned.generation
    · rw [applyUpdates_of_seen seen]
      exact .inl ⟨rfl, rfl, rfl⟩
    · rw [applyUpdates_of_unseen seen]
      exact .inr ⟨Nat.succ_pos _, rfl⟩

namespace RoutedSocket

/-- A cache is kept by every change of the system that adopts nothing. -/
theorem Keeps.congr {spec : UdpEndpointSpec} {info : UdpEndpointInfo}
    {cache : XdpUdpEndpointCache} (keeps : system.Keeps config spec info cache)
    (adopted : target.adopted = system.adopted) (udp : target.udp config = system.udp config) :
    target.Keeps config spec info cache := by
  rw [Keeps, adopted, udp]
  exact keeps

theorem KeepsEndpoint.congr (keeps : system.KeepsEndpoint config endpoint)
    (adopted : target.adopted = system.adopted) (udp : target.udp config = system.udp config) :
    target.KeepsEndpoint config endpoint :=
  ⟨keeps.sendable, fun cache isCached => (keeps.cached cache isCached).congr adopted udp⟩

/-- Adopting updates leaves every cache either current or stamped with an older
generation. -/
theorem Tracks.adopt (tracks : system.Tracks config) {applied : Nat} {routes : XdpLocalRoutes}
    (adopts : XdpLocalRoutes.Adopts applied system.routes routes)
    (isTarget : target.routes = routes ∧ target.adopted = system.adopted + applied ∧
      target.endpoints = system.endpoints) : target.Tracks config := by
  obtain ⟨sameRoutes, adopted, endpoints⟩ := isTarget
  constructor
  · rw [sameRoutes, adopted]
    rcases adopts with ⟨rfl, _, generation⟩ | ⟨_, generation⟩
    · rw [generation, tracks.generation, Nat.add_zero]
    · rw [generation, tracks.generation, Nat.mod_add_mod]
  · intro endpoint member
    rw [endpoints] at member
    have keeps := tracks.endpoints endpoint member
    rcases adopts with ⟨rfl, snapshot, generation⟩ | ⟨some, _⟩
    · apply keeps.congr adopted
      rw [udp, sameRoutes, RoutedUdp.under, snapshot, generation]
      rfl
    · refine ⟨keeps.sendable, ?_⟩
      intro cache isCached
      obtain ⟨count, le, stamp, _⟩ := keeps.cached cache isCached
      refine ⟨count, by omega, stamp, ?_⟩
      intro current
      omega

end RoutedSocket

end FastSocket.Xdp
