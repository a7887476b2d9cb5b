import FastSocket.Xdp.CorruptCompletions
import FastSocket.Xdp.RouteLoad
import FastSocket.Xdp.RoutedSocket

/-!
# Endpoint sends under changing routes

Refreshing and sending keep what the system knows about an endpoint's cache, so that it
holds along every run; a send then follows the snapshot that is adopted at its time.
-/

namespace FastSocket.Xdp

open Packet Transition

variable {config : RoutedUdp} {system target : RoutedSocket} {endpoint : XdpUdpEndpoint}

namespace RoutedSocket

/-! ## Refreshing and sending -/

variable {spec : UdpEndpointSpec} {cache : XdpUdpEndpointCache} {info : UdpEndpointInfo}
  {refreshed : XdpUdpEndpoint}

theorem Tracks.keeps_built (tracks : system.Tracks config)
    (built : (system.udp config).buildCache spec = .ok (cache, info)) :
    spec.Sendable config.localAddr ∧ cache.routeGeneration = (system.udp config).routeGeneration ∧
      system.Keeps config spec info cache := by
  obtain ⟨sendable, stamp, follows⟩ := buildCache_eq_ok built
  exact ⟨sendable, stamp, system.adopted, Nat.le_refl _, stamp.trans tracks.generation,
    fun _ => follows⟩

/-- A refresh leaves a kept endpoint; its cache, if there is one, has the generation of
the routes. -/
theorem Tracks.keeps_refreshed (tracks : system.Tracks config)
    (keeps : system.KeepsEndpoint config endpoint) {result : Except Error XdpUdpEndpointCache}
    (done : refreshUdpEndpointCache (system.udp config) endpoint = (refreshed, result)) :
    refreshed.spec = endpoint.spec ∧ system.KeepsEndpoint config refreshed ∧
      ∀ cache, result = .ok cache → refreshed.cached = some cache ∧
        cache.routeGeneration = (system.udp config).routeGeneration := by
  rcases refreshUdpEndpointCache_cases (system.udp config) endpoint with
    ⟨cached, isCached, current, same⟩ | ⟨_, ⟨kind, _, failed⟩ | ⟨cached, info, built, renewed⟩⟩
  · cases same.symm.trans done
    refine ⟨rfl, keeps, ?_⟩
    rintro _ ⟨⟩
    exact ⟨isCached, current⟩
  · cases failed.symm.trans done
    exact ⟨rfl, ⟨keeps.sendable, nofun⟩, nofun⟩
  · cases renewed.symm.trans done
    obtain ⟨sendable, stamp, kept⟩ := tracks.keeps_built built
    refine ⟨rfl, ⟨sendable, ?_⟩, ?_⟩
    · rintro _ ⟨⟩
      exact kept
    · rintro _ ⟨⟩
      exact ⟨rfl, stamp⟩

theorem Keeps.prepareEndpointTransmit (keeps : system.Keeps config spec info cache)
    (tx : UdpEndpointTransmit XdpPacketBuf) :
    system.Keeps config spec info (Xdp.prepareEndpointTransmit info cache tx).cache := by
  obtain ⟨count, le, stamp, follows⟩ := keeps
  refine ⟨count, le, (routeGeneration_prepareEndpointTransmit tx).trans stamp, ?_⟩
  intro current
  obtain ⟨resolved, resolves, built⟩ := follows current
  exact ⟨resolved, resolves, (prepareEndpointTransmit_sentAlong tx built).1⟩

/-- The slot path leaves a kept endpoint. -/
theorem Tracks.keeps_sent (tracks : system.Tracks config)
    (keeps : system.KeepsEndpoint config endpoint)
    {batch : List (TxSlot (UdpEndpointTransmit XdpPacketBuf))} {socket : XdpSocket}
    {outcome : SendOutcome XdpUdpEndpoint (UdpEndpointTransmit XdpPacketBuf)}
    (sent : (sendUdpEndpointInner (system.udp config) endpoint batch).run system.socket =
      (some outcome, socket)) : system.KeepsEndpoint config outcome.cache := by
  rcases sendUdpEndpointInner_cases (system.udp config) endpoint batch system.socket with
    ⟨refreshed, kind, done, unsent⟩ | ⟨refreshed, cache, returned, target, done, sends, isSent⟩
  · cases unsent.symm.trans sent
    exact (tracks.keeps_refreshed keeps done).2.1
  · cases isSent.symm.trans sent
    obtain ⟨_, kept, current⟩ := tracks.keeps_refreshed keeps done
    have step : ∀ cache tx, system.Keeps config refreshed.spec refreshed.info cache →
        system.Keeps config refreshed.spec refreshed.info
            (Xdp.prepareEndpointTransmit refreshed.info cache tx).cache ∧
          ∀ frame, (Xdp.prepareEndpointTransmit refreshed.info cache tx).frame = .ok frame →
            True :=
      fun _ tx keeps => ⟨keeps.prepareEndpointTransmit tx, fun _ _ => trivial⟩
    refine ⟨kept.sendable, ?_⟩
    rintro _ ⟨⟩
    exact (sends.forall_sent step (kept.cached cache (current cache rfl).1)).1

/-- The direct path only refreshes the endpoint. -/
theorem Tracks.keeps_sentDirect (tracks : system.Tracks config)
    (keeps : system.KeepsEndpoint config endpoint) (max : Nat) (fill : Nat → FillCall) :
    system.KeepsEndpoint config
      ((sendUdpEndpointDirectBatch (system.udp config) endpoint max fill).run
        system.socket).1.1 := by
  rcases sendUdpEndpointDirectBatch_cases (system.udp config) endpoint max fill system.socket with
    ⟨_, unsent⟩ | ⟨refreshed, kind, done, unsent⟩ |
      ⟨refreshed, cache, done, unsent | ⟨batch, outcome, target, _, _, sent⟩⟩
  · rw [unsent]
    exact keeps
  · rw [unsent]
    exact (tracks.keeps_refreshed keeps done).2.1
  · rw [unsent]
    exact (tracks.keeps_refreshed keeps done).2.1
  · rw [sent]
    exact (tracks.keeps_refreshed keeps done).2.1

/-! ## Runs -/

theorem Tracks.new (snapshot : RouteSnapshot) (socket : XdpSocket) :
    (RoutedSocket.new snapshot socket).Tracks config :=
  ⟨rfl, nofun⟩

/-- Changes that neither adopt updates nor touch an endpoint. -/
theorem Tracks.frame (tracks : system.Tracks config)
    (routes : target.routes.snapshot = system.routes.snapshot ∧
      target.routes.generation = system.routes.generation)
    (adopted : target.adopted = system.adopted)
    (endpoints : ∀ endpoint ∈ target.endpoints, system.KeepsEndpoint config endpoint) :
    target.Tracks config := by
  have sameUdp : target.udp config = system.udp config := by
    rw [udp, RoutedUdp.under, routes.1, routes.2]
    rfl
  refine ⟨?_, fun endpoint member => (endpoints endpoint member).congr adopted sameUdp⟩
  rw [routes.2, adopted]
  exact tracks.generation

theorem Tracks.step (tracks : system.Tracks config) {action : RoutingAction}
    (taken : system.step config action = some target) : target.Tracks config := by
  cases action with
  | pushUpdate snapshot =>
    cases taken
    exact tracks.frame ⟨rfl, rfl⟩ rfl tracks.endpoints
  | applyUpdates =>
    cases taken
    exact tracks.adopt system.routes.adopts_applyUpdates ⟨rfl, rfl, rfl⟩
  | publish versioned =>
    cases taken
    exact tracks.frame ⟨rfl, rfl⟩ rfl tracks.endpoints
  | registerQueue =>
    cases taken
    exact tracks.frame ⟨rfl, rfl⟩ rfl tracks.endpoints
  | applyPublished index =>
    obtain ⟨handle, _, ⟨⟩⟩ := Option.bind_eq_some_iff.mp taken
    exact tracks.adopt (handle.adopts_applyUpdates system.shared system.routes) ⟨rfl, rfl, rfl⟩
  | prepareUdpEndpoint spec =>
    rw [RoutedSocket.step, prepareXdpUdpEndpoint] at taken
    cases built : (system.udp config).buildCache spec with
    | error kind =>
      rw [built] at taken
      cases taken
      exact tracks
    | ok pair =>
      rw [built] at taken
      cases taken
      obtain ⟨sendable, _, kept⟩ := tracks.keeps_built built
      refine tracks.frame ⟨rfl, rfl⟩ rfl ?_
      intro endpoint member
      rcases List.mem_append.mp member with old | new
      · exact tracks.endpoints endpoint old
      · cases List.mem_singleton.mp new
        refine ⟨sendable, ?_⟩
        rintro _ ⟨⟩
        exact kept
  | sendToUdpEndpoint index batch =>
    obtain ⟨endpoint, found, taken⟩ := Option.bind_eq_some_iff.mp taken
    obtain ⟨outcome, returned, ⟨⟩⟩ := Option.bind_eq_some_iff.mp taken
    refine tracks.frame ⟨rfl, rfl⟩ rfl ?_
    exact forall_set tracks.endpoints (tracks.keeps_sent
      (tracks.endpoints endpoint (List.mem_of_getElem? found)) (Prod.ext returned rfl)) index
  | sendDirectBatch index max fill =>
    obtain ⟨endpoint, found, ⟨⟩⟩ := Option.bind_eq_some_iff.mp taken
    refine tracks.frame ⟨rfl, rfl⟩ rfl ?_
    exact forall_set tracks.endpoints (tracks.keeps_sentDirect
      (tracks.endpoints endpoint (List.mem_of_getElem? found)) max fill) index
  | other socket =>
    cases taken
    exact tracks.frame ⟨rfl, rfl⟩ rfl tracks.endpoints

/-- A refreshed cache follows the adopted snapshot. -/
theorem Tracks.refreshed_follows (tracks : system.Tracks config) (few : system.adopted < 2 ^ 64)
    (keeps : system.KeepsEndpoint config endpoint)
    (done : refreshUdpEndpointCache (system.udp config) endpoint = (refreshed, .ok cache)) :
    ∃ resolved, (system.udp config).resolve endpoint.spec = some resolved ∧
      cache.BuiltFrom (system.udp config) endpoint.spec refreshed.info resolved := by
  obtain ⟨spec, kept, current⟩ := tracks.keeps_refreshed keeps done
  obtain ⟨isCached, stamp⟩ := current cache rfl
  obtain ⟨count, le, counted, follows⟩ := kept.cached cache isCached
  have generation : (system.udp config).routeGeneration = system.adopted % 2 ^ 64 :=
    tracks.generation
  rw [← spec]
  apply follows
  rw [counted, generation] at stamp
  omega

/-- Without an egress for the destination of an endpoint its refresh fails. -/
theorem Tracks.refresh_of_unresolved (tracks : system.Tracks config)
    (few : system.adopted < 2 ^ 64) (keeps : system.KeepsEndpoint config endpoint)
    (unresolved : (system.udp config).resolve endpoint.spec = none) :
    ∃ refreshed, refreshUdpEndpointCache (system.udp config) endpoint =
      (refreshed, .error .noEgressRoute) := by
  cases done : refreshUdpEndpointCache (system.udp config) endpoint with
  | mk refreshed result =>
    cases result with
    | ok cache =>
      obtain ⟨resolved, resolves, _⟩ := tracks.refreshed_follows few keeps done
      cases unresolved.symm.trans resolves
    | error kind =>
      have failed := @buildCache_of_unresolved (system.udp config) _ keeps.sendable unresolved
      rcases refreshUdpEndpointCache_cases (system.udp config) endpoint with
        ⟨_, _, _, same⟩ | ⟨_, ⟨other, isOther, refused⟩ | ⟨_, _, _, renewed⟩⟩
      · cases same.symm.trans done
      · cases failed.symm.trans isOther
        cases refused.symm.trans done
        exact ⟨_, rfl⟩
      · cases renewed.symm.trans done

end RoutedSocket

/-- A socket on the interface of the sample route, sending to 198.51.100.20. -/
def sampleRoutedUdp : RoutedUdp :=
  { localAddr := sampleLocalAddr, ttl := 64#8
    routeContext := { ifindex := 8, queue := 3, mtu := 1500 } }

/-- An endpoint is prepared under a default route, and then a snapshot without routes is
adopted. -/
def withdrawnRoute : List RoutingAction :=
  [.prepareUdpEndpoint (sampleEndpointSpec 0xc6336414#32), .pushUpdate .new, .applyUpdates]

/-- What a default route through a gateway of the sample interface resolves to. -/
def gatewayResolved : ResolvedL2 :=
  .borrowed ((buildEthernetHeader
    (.ipv4 8 3 0x020000000002#48 0x020000000001#48 1500)).1.take ethernetHeaderLen) 1500

theorem resolveL2_defaultRoute :
    ∃ snapshot, RouteSnapshot.gatewaySnapshot.upsertRoutesV4
        [RouteSnapshot.defaultRoute 1#32 10] = .ok snapshot ∧
      snapshot.resolveL2ForInterface 0xc6336414#32 8 1500 = some gatewayResolved := by
  obtain ⟨index, rebuilt⟩ := RouteSnapshot.rebuild_defaultRoute 1#32 10
  obtain ⟨snapshot, rebuiltSnapshot, routes⟩ := RouteSnapshot.gatewaySnapshot.withRoutes_of_sorted
    (List.mergeSort_singleton (RouteSnapshot.defaultRoute 1#32 10)) rebuilt
  have loaded : RouteSnapshot.gatewaySnapshot.upsertRoutesV4
      [RouteSnapshot.defaultRoute 1#32 10] = .ok snapshot := rebuiltSnapshot
  have reached : RouteSnapshot.applyAll RouteSnapshot.gatewayUpdates =
      .ok RouteSnapshot.gatewaySnapshot := rfl
  have table := (RouteSnapshot.consistent_applyAll reached).upsertRoutesV4 loaded
  refine ⟨snapshot, loaded, ?_⟩
  rw [RouteSnapshot.resolveL2ForInterface, table.consistent.lookupRouteIndexV4_eq,
    table.consistent.egressIndex, routes, table.neighborsV4, table.interfaces]
  rfl

/-- The endpoint stays prepared after its route is withdrawn. -/
theorem run_withdrawnRoute (socket : XdpSocket) :
    ∃ snapshot system endpoint,
      RouteSnapshot.gatewaySnapshot.upsertRoutesV4 [RouteSnapshot.defaultRoute 1#32 10] =
        .ok snapshot ∧
      run (RoutedSocket.step sampleRoutedUdp) (.new snapshot socket) withdrawnRoute = some system ∧
      system.adopted = 1 ∧ endpoint ∈ system.endpoints ∧
      (system.udp sampleRoutedUdp).resolve endpoint.spec = none := by
  obtain ⟨snapshot, loaded, resolves⟩ := resolveL2_defaultRoute
  have prepared : ∃ endpoint, prepareXdpUdpEndpoint (sampleRoutedUdp.under (.new snapshot))
      (sampleEndpointSpec 0xc6336414#32) = .ok endpoint ∧
        endpoint.spec = sampleEndpointSpec 0xc6336414#32 := by
    have built : (sampleRoutedUdp.under (.new snapshot)).buildCache
        (sampleEndpointSpec 0xc6336414#32) =
          buildXdpUdpEndpointCache
            (fun _ _ => snapshot.resolveL2ForInterface 0xc6336414#32 8 1500) sampleLocalAddr 64#8
            { ifindex := 8, queue := 3, mtu := 1500 } 0 (sampleEndpointSpec 0xc6336414#32) := rfl
    rw [prepareXdpUdpEndpoint, built, resolves]
    exact ⟨_, rfl, rfl⟩
  obtain ⟨endpoint, isPrepared, spec⟩ := prepared
  have first : (RoutedSocket.new snapshot socket).step sampleRoutedUdp
      (.prepareUdpEndpoint (sampleEndpointSpec 0xc6336414#32)) =
        some { RoutedSocket.new snapshot socket with endpoints := [endpoint] } := by
    rw [RoutedSocket.step, RoutedSocket.udp, RoutedSocket.new, isPrepared]
    rfl
  refine ⟨snapshot,
    { routes := { snapshot := .new, pending := [], generation := 1 }, shared := none, handles := []
      socket := socket, endpoints := [endpoint], adopted := 1 }, endpoint, loaded,
    run_cons_eq_some_iff.mpr ⟨_, first, rfl⟩, rfl, List.mem_singleton_self _, ?_⟩
  rw [spec]
  rfl

/-- A packet of one byte in the third frame. -/
def sampleSlot : TxSlot (UdpEndpointTransmit XdpPacketBuf) :=
  .ready {
    packet := {
      member := 0
      pool := .tx
      frameAddr := some 128#64
      l2Headroom := 0
      front := List.replicate 42 0
      packet := [1#8]
      back := List.replicate 21 0
      l2Headroom_le := Nat.zero_le _ } }

end FastSocket.Xdp
