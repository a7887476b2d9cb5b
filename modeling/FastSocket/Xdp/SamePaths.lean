import FastSocket.Xdp.QueueLocalRouter
import FastSocket.Xdp.RoutedEndpoint
import FastSocket.Xdp.SameBatches

/-!
# Mixing the ways to send a UDP payload

However the sends through an endpoint and its direct batches are mixed, each publishes the
cached header in front of its payloads, and datagrams on their own are published alike.
-/

namespace FastSocket.Xdp

open Packet Transition

/-! ## The L2 headers of a snapshot -/

/-- The snapshots' L2 headers are Ethernet headers. -/
theorem RouteSnapshot.Consistent.length_l2Header {snapshot : RouteSnapshot}
    (consistent : snapshot.Consistent) {dst : Ipv4Addr} {ifindex : IfIndex} {mtu : Nat}
    {resolved : ResolvedL2}
    (resolves : snapshot.resolveL2ForInterface dst ifindex mtu = some resolved) :
    resolved.l2Header.length = ethernetHeaderLen := by
  have parts := snapshot.parts_resolveL2ForInterface dst ifindex 0 mtu
  rw [resolves, Option.map_some, eq_comm] at parts
  obtain ⟨egress, isEgress, same⟩ := Option.map_eq_some_iff.mp parts
  obtain ⟨dstMac, srcMac, egressMtu, rfl⟩ := consistent.exists_egress isEgress
  have header : resolved.l2Header = _ := congrArg Prod.fst same.symm
  rw [header]
  rfl

/-! ## Mixed sends -/

/-- A send through an endpoint, with the state in which it finds the socket. -/
inductive EndpointCall where
  | slots (socket : XdpSocket) (batch : List (TxSlot (UdpEndpointTransmit XdpPacketBuf)))
  | direct (socket : XdpSocket) (max : Nat) (fill : Nat → FillCall)

/-- The endpoint after a send. -/
def XdpUdpEndpoint.step (udp : XdpUdpConfig) (endpoint : XdpUdpEndpoint) :
    EndpointCall → Option XdpUdpEndpoint
  | .slots socket batch =>
    ((sendUdpEndpointInner udp endpoint batch).run socket).1.map SendOutcome.cache
  | .direct socket max fill =>
    some ((sendUdpEndpointDirectBatch udp endpoint max fill).run socket).1.1

section Mixed

variable {udp : XdpUdpConfig} {endpoint : XdpUdpEndpoint} {cache : XdpUdpEndpointCache}
  {payloadLen : Nat}

theorem refreshUdpEndpointCache_of_current (cached : endpoint.cached = some cache)
    (current : cache.routeGeneration = udp.routeGeneration) :
    refreshUdpEndpointCache udp endpoint = (endpoint, .ok cache) := by
  rw [refreshUdpEndpointCache, cached, Option.filter_some, if_pos (decide_eq_true current)]

/-- With a fixed payload length no send changes the endpoint. -/
theorem XdpUdpEndpoint.step_eq (cached : endpoint.cached = some cache)
    (current : cache.routeGeneration = udp.routeGeneration)
    (isFixed : endpoint.info.payloadLen = some payloadLen) {call : EndpointCall}
    {next : XdpUdpEndpoint} (taken : endpoint.step udp call = some next) : next = endpoint := by
  have refresh := refreshUdpEndpointCache_of_current cached current
  cases call with
  | slots socket batch =>
    obtain ⟨outcome, returned, rfl⟩ := Option.map_eq_some_iff.mp taken
    rcases sendUdpEndpointInner_cases udp endpoint batch socket with
      ⟨_, _, failed, _⟩ | ⟨refreshed, header, sent, target, done, sends, run⟩
    · rw [refresh] at failed
      cases failed
    · rw [refresh] at done
      cases done
      rw [run] at returned
      cases returned
      have step : ∀ held item, held = cache →
          (prepareEndpointTransmit endpoint.info held item).cache = cache ∧
            ∀ frame, (prepareEndpointTransmit endpoint.info held item).frame = .ok frame →
              True := by
        rintro _ item rfl
        exact ⟨cache_prepareEndpointTransmit isFixed item, fun _ _ => trivial⟩
      have kept := (sends.forall_sent step rfl).1
      rw [SendOutcome.intoEndpoint, kept, ← cached]
  | direct socket max fill =>
    cases taken
    rw [sendUdpEndpointDirectBatch]
    split
    · rfl
    · rw [refresh]
      dsimp only
      split
      · rfl
      · rfl

end Mixed

/-- Under one set of routes, datagrams on their own, sends through an endpoint and its
direct batches all put one header in front of the payloads that they publish. -/
structure EmitsAlike (udp : XdpUdpConfig) (spec : UdpEndpointSpec) (payloadLen : Nat)
    (header : List Byte) (endpoint : XdpUdpEndpoint) : Prop where
  send : ∀ (packets : List XdpPacketBuf) (socket : XdpSocket),
    (∀ packet ∈ packets, packet.len = payloadLen ∧ packet.HasRoom header.length) →
    ∃ outcome, ((sendUdpInner udp (packets.map fun packet =>
        .ready (spec.transmit packet))).run socket).1 = some outcome ∧
      outcome.sent.map XdpTxFrame.bytes =
        (packets.take socket.reservable).map fun packet => header ++ packet.packet
  slots : ∀ (packets : List XdpPacketBuf) (socket : XdpSocket),
    (∀ packet ∈ packets, packet.len = payloadLen ∧ packet.HasRoom header.length) →
    ∃ outcome, ((sendUdpEndpointInner udp endpoint (packets.map fun packet =>
        .ready { packet := packet })).run socket).1 = some outcome ∧
      outcome.sent.map XdpTxFrame.bytes =
        (packets.take socket.reservable).map fun packet => header ++ packet.packet
  direct : ∀ (max : Nat) (fill : Nat → FillCall) (socket : XdpSocket),
    (∀ index < max, (fill index).payload.length = payloadLen) →
    header.length ≤ socket.txDataOffset →
    socket.txDataOffset + endpoint.info.mtu ≤ socket.umem.frameSize →
    ∃ outcome,
      ((sendUdpEndpointDirectBatch udp endpoint max fill).run socket).1.2 = some outcome ∧
      outcome.sent.map XdpTxFrame.bytes =
        (List.range (socket.directFrames max)).map fun index => header ++ (fill index).payload

/-- With a header that can be patched, the three ways emit the header of the cache. -/
theorem emitsAlike_of_buildCache {udp : XdpUdpConfig} {spec : UdpEndpointSpec}
    {cache : XdpUdpEndpointCache} {info : UdpEndpointInfo} {payloadLen : Nat}
    (built : udp.buildCache spec = .ok (cache, info)) (fixed : spec.payloadLen = some payloadLen)
    (short : cache.l2Len + 24 < 65536) :
    EmitsAlike udp spec payloadLen cache.header
      { spec := spec, info := info, cached := some cache } := by
  obtain ⟨_, _, _, _, _, _, _, isFixed, _, _, _, current, _⟩ := buildCache_of_fixed built fixed
  have refresh := @refreshUdpEndpointCache_of_current udp
    { spec := spec, info := info, cached := some cache } cache rfl current
  constructor
  · intro packets socket fits
    obtain ⟨outcome, returned, sends⟩ := sends_sendBatch (fun _ =>
      prepareUdpTransmit udp.resolveUdpL2 udp.localAddr udp.ttl udp.routeContext) ()
      (packets.map fun packet => .ready (spec.transmit packet)) socket
    refine ⟨outcome, returned, sends.sent_of_forall (fun _ => rfl) ?_⟩
    intro packet member
    obtain ⟨isLen, room⟩ := fits packet member
    exact prepareUdpTransmit_transmit built fixed isLen room
  · intro packets socket fits
    rcases sendUdpEndpointInner_cases udp { spec := spec, info := info, cached := some cache }
      (packets.map fun packet => .ready { packet := packet }) socket with
      ⟨_, _, failed, _⟩ | ⟨refreshed, held, outcome, target, done, sends, run⟩
    · rw [refresh] at failed
      cases failed
    · rw [refresh] at done
      cases done
      refine ⟨_, congrArg Prod.fst run, sends.sent_of_forall
        (cache_prepareEndpointTransmit isFixed) ?_⟩
      intro packet member
      obtain ⟨isLen, room⟩ := fits packet member
      exact prepareEndpointTransmit_of_fixed built fixed isLen room
  · intro max fill socket lengths inFront inFrame
    obtain ⟨batch, made, _, admits, writes⟩ := writeFrame_of_fixed built fixed short
    obtain ⟨outcome, returned, sent⟩ := sendDirect_of_forall socket
      (admits _ _ inFront inFrame)
      (fun index inside headerStart addr => writes headerStart addr _ (lengths index inside))
    rw [sendUdpEndpointDirectBatch]
    split
    case isTrue zero =>
      subst zero
      refine ⟨_, rfl, ?_⟩
      rw [XdpSocket.directFrames, Nat.zero_min, Nat.zero_min]
      rfl
    case isFalse =>
      rw [refresh]
      dsimp only
      rw [made]
      dsimp only
      rw [run_bind, returned]
      exact ⟨outcome, rfl, sent⟩

/-- Datagrams on their own, sends through an endpoint with a fixed payload length and its
direct batches emit the same frames under an adopted snapshot, after any sends that mix
the two ways through the endpoint. -/
theorem udpBuilders_emit_same_frames {config : RoutedUdp} {routes : XdpLocalRoutes}
    {updates : List RouteUpdate} {spec : UdpEndpointSpec} {endpoint : XdpUdpEndpoint}
    {payloadLen : Nat} (adopted : RouteSnapshot.applyAll updates = .ok routes.snapshot)
    (fixed : spec.payloadLen = some payloadLen)
    (prepared : prepareXdpUdpEndpoint (config.under routes) spec = .ok endpoint) :
    ∃ header, ∀ calls reached,
      run (XdpUdpEndpoint.step (config.under routes)) endpoint calls = some reached →
        EmitsAlike (config.under routes) spec payloadLen header reached := by
  rw [prepareXdpUdpEndpoint] at prepared
  cases built : (config.under routes).buildCache spec with
  | error kind =>
    rw [built] at prepared
    cases prepared
  | ok pair =>
    obtain ⟨cache, info⟩ := pair
    rw [built] at prepared
    cases prepared
    obtain ⟨destination, _, resolved, _, _, resolves, _, isFixed, _, _, isL2Len, current, _⟩ :=
      buildCache_of_fixed built fixed
    have short : cache.l2Len + 24 < 65536 := by
      rw [isL2Len, (RouteSnapshot.consistent_applyAll adopted).length_l2Header resolves,
        ethernetHeaderLen]
      omega
    refine ⟨cache.header, ?_⟩
    intro calls reached ran
    have unchanged : { spec := spec, info := info, cached := some cache } = reached := by
      refine run_invariant_of_step (fun source call target same taken => ?_) rfl ran
      subst same
      exact (XdpUdpEndpoint.step_eq rfl current isFixed taken).symm
    rw [← unchanged]
    exact emitsAlike_of_buildCache built fixed short

/-- An endpoint for payloads of five bytes, under a default route. -/
theorem udpBuilders_emit_same_frames_defaultRoute :
    ∃ snapshot endpoint header,
      prepareXdpUdpEndpoint (sampleRoutedUdp.under (.new snapshot))
        { sampleEndpointSpec 0xc6336414#32 with payloadLen := some 5 } = .ok endpoint ∧
      EmitsAlike (sampleRoutedUdp.under (.new snapshot))
        { sampleEndpointSpec 0xc6336414#32 with payloadLen := some 5 } 5 header endpoint := by
  obtain ⟨snapshot, loaded, resolves⟩ := resolveL2_defaultRoute
  have adopted : RouteSnapshot.applyAll (RouteSnapshot.gatewayUpdates ++
      [.routesV4 [RouteSnapshot.defaultRoute 1#32 10]]) = .ok snapshot := by
    have reached : RouteSnapshot.applyAll RouteSnapshot.gatewayUpdates =
        .ok RouteSnapshot.gatewaySnapshot := rfl
    rw [RouteSnapshot.applyAll] at reached ⊢
    rw [List.foldlM_append, reached]
    exact congrArg (· >>= pure) loaded
  have prepared : ∃ endpoint, prepareXdpUdpEndpoint (sampleRoutedUdp.under (.new snapshot))
      { sampleEndpointSpec 0xc6336414#32 with payloadLen := some 5 } = .ok endpoint := by
    have built : (sampleRoutedUdp.under (.new snapshot)).buildCache
        { sampleEndpointSpec 0xc6336414#32 with payloadLen := some 5 } =
          buildXdpUdpEndpointCache
            (fun _ _ => snapshot.resolveL2ForInterface 0xc6336414#32 8 1500) sampleLocalAddr 64#8
            { ifindex := 8, queue := 3, mtu := 1500 } 0
            { sampleEndpointSpec 0xc6336414#32 with payloadLen := some 5 } := rfl
    rw [prepareXdpUdpEndpoint, built, resolves]
    exact ⟨_, rfl⟩
  obtain ⟨endpoint, isPrepared⟩ := prepared
  obtain ⟨header, alike⟩ := @udpBuilders_emit_same_frames _ (.new snapshot) _ _ _ _ adopted rfl
    isPrepared
  exact ⟨snapshot, endpoint, header, isPrepared, alike [] endpoint rfl⟩

end FastSocket.Xdp
