import FastSocket.Xdp.EndpointHeader
import FastSocket.Xdp.RouteMonitor
import FastSocket.Xdp.RouteResolve

/-!
# The queue-local router

A UDP router resolves a destination to the L2 header of its datagrams.  By default the
header is copied from a resolved egress, which is checked against the interface and the
queue of the socket.  The queue-local router borrows the stored header instead and leaves
the checks out: every egress that its snapshot holds for an interface passes them.
-/

namespace FastSocket.Xdp

open Packet

/-! ## Routers -/

/-- What the default resolver asks of a router. -/
abbrev ResolveUdpEgress :=
  Ipv4Addr → XdpRouteContext → Option XdpResolvedEgress

/-- The resolver of a router that does not have one of its own.  An egress of another
interface or queue, or of another protocol, is rejected. -/
def defaultResolveUdpL2 (resolveUdpEgressResolved : ResolveUdpEgress) : ResolveUdpL2 :=
  fun dst context => do
    let resolved ← resolveUdpEgressResolved dst context
    let egress := resolved.egress
    if egress.ifindex ≠ context.ifindex ∨ egress.queue ≠ context.queue ∨
        egress.ethertype ≠ ethertypeIpv4 then
      none
    else
      some (.inline resolved.l2Header resolved.l2Len (min context.mtu egress.mtu))

/-- A router over queue-local routes. -/
structure XdpQueueLocalRouter where
  routes : XdpLocalRoutes

namespace XdpQueueLocalRouter

variable (router : XdpQueueLocalRouter)

def resolveUdpEgressResolved : ResolveUdpEgress :=
  fun dst context =>
    router.routes.snapshot.resolvedV4ForInterface dst context.ifindex context.queue

def resolveUdpL2 : ResolveUdpL2 :=
  fun dst context => router.routes.snapshot.resolveL2ForInterface dst context.ifindex context.mtu

end XdpQueueLocalRouter

/-- What a send takes from a resolved header. -/
def ResolvedL2.parts (resolved : ResolvedL2) : List Byte × Nat :=
  (resolved.l2Header, resolved.ipMtu)

/-- What a send would take from the header of an egress. -/
def XdpResolvedEgress.parts (resolved : XdpResolvedEgress) (mtu : Nat) : List Byte × Nat :=
  (resolved.l2Header.take resolved.l2Len, min mtu resolved.egress.mtu)

/-! ## Stored egresses -/

namespace RouteSnapshot

variable {snapshot : RouteSnapshot}

/-- Resolving the header of a destination gives the one of its egress, for every queue. -/
theorem parts_resolveL2ForInterface (snapshot : RouteSnapshot) (dst : Ipv4Addr)
    (ifindex : IfIndex) (queue : QueueId) (mtu : Nat) :
    (snapshot.resolveL2ForInterface dst ifindex mtu).map ResolvedL2.parts =
      (snapshot.resolvedV4ForInterface dst ifindex queue).map (·.parts mtu) := by
  rw [resolveL2ForInterface, resolvedV4ForInterface]
  cases snapshot.lookupRouteIndexV4 dst with
  | none => rfl
  | some routeIndex =>
    simp only [Option.bind_eq_bind, Option.bind_some]
    cases snapshot.egressIndexV4.lookup ifindex with
    | none => rfl
    | some interfaceEgress =>
      simp only [Option.bind_some]
      cases interfaceEgress.slots[routeIndex]? with
      | none => rfl
      | some slot =>
        cases slot with
        | none => rfl
        | onLink =>
          simp only [Option.bind_some, resolveL2OnLinkV4, Option.bind_eq_bind]
          cases snapshot.routesV4[routeIndex]? with
          | none => rfl
          | some route =>
            simp only [Option.bind_some]
            cases snapshot.interfaces.lookup ifindex with
            | none => rfl
            | some interface =>
              simp only [Option.bind_some]
              cases neighborMac snapshot.neighborsV4 ifindex route.ifindex dst <;> rfl
        | gateway slot =>
          simp only [Option.bind_some]
          cases interfaceEgress.egresses[slot]? <;> rfl

/-- An egress that a consistent snapshot resolves is one of IPv4 for the interface and the
queue that are asked for. -/
theorem Consistent.exists_egress (consistent : snapshot.Consistent) {dst : Ipv4Addr}
    {ifindex : IfIndex} {queue : QueueId} {resolved : XdpResolvedEgress}
    (isResolved : snapshot.resolvedV4ForInterface dst ifindex queue = some resolved) :
    ∃ dstMac srcMac mtu, resolved = .fromEgress (.ipv4 ifindex queue dstMac srcMac mtu) := by
  rw [consistent.resolved_eq_reference] at isResolved
  simp only [referenceV4, Option.bind_eq_bind, Option.bind_eq_some_iff] at isResolved
  obtain ⟨route, _, interface, present, isEgress⟩ := isResolved
  rw [routeEgress] at isEgress
  split at isEgress
  · obtain ⟨dstMac, _, rfl⟩ := Option.map_eq_some_iff.mp isEgress
    rw [consistent.keyed ifindex interface present]
    exact ⟨_, _, _, rfl⟩
  · cases isEgress

end RouteSnapshot

/-! ## The two resolvers -/

/-- The checks of the default resolver reject nothing that a consistent snapshot
resolves. -/
theorem parts_defaultResolveUdpL2 {router : XdpQueueLocalRouter}
    (consistent : router.routes.snapshot.Consistent) (dst : Ipv4Addr) (context : XdpRouteContext) :
    (defaultResolveUdpL2 router.resolveUdpEgressResolved dst context).map ResolvedL2.parts =
      (router.resolveUdpEgressResolved dst context).map (·.parts context.mtu) := by
  rw [defaultResolveUdpL2]
  cases isResolved : router.resolveUdpEgressResolved dst context with
  | none => rfl
  | some resolved =>
    obtain ⟨dstMac, srcMac, mtu, rfl⟩ := consistent.exists_egress isResolved
    rw [Option.bind_eq_bind, Option.bind_some, if_neg]
    · rfl
    · rintro (otherInterface | otherQueue | otherType)
      · exact otherInterface rfl
      · exact otherQueue rfl
      · exact otherType rfl

/-- After any sequence of updates the queue-local router resolves the destinations that
the default resolver resolves, to the same header bytes and the same MTU. -/
theorem resolveUdpL2_eq_default {updates : List RouteUpdate} {router : XdpQueueLocalRouter}
    (reached : RouteSnapshot.applyAll updates = .ok router.routes.snapshot) (dst : Ipv4Addr)
    (context : XdpRouteContext) :
    (router.resolveUdpL2 dst context).map ResolvedL2.parts =
      (defaultResolveUdpL2 router.resolveUdpEgressResolved dst context).map ResolvedL2.parts := by
  rw [parts_defaultResolveUdpL2 (RouteSnapshot.consistent_applyAll reached)]
  exact RouteSnapshot.parts_resolveL2ForInterface _ dst context.ifindex context.queue context.mtu

/-- Both resolvers find the gateway of a default route, with a queue that is not the one
of the interface. -/
theorem resolveUdpL2_eq_default_gateway :
    ∃ (router : XdpQueueLocalRouter) (header : List Byte),
      RouteSnapshot.applyAll RouteSnapshot.sampleUpdates = .ok router.routes.snapshot ∧
      (router.resolveUdpL2 0x08080808#32 { ifindex := 8, queue := 1, mtu := 1400 }).map
          ResolvedL2.parts = some (header, 1400) ∧
      (defaultResolveUdpL2 router.resolveUdpEgressResolved 0x08080808#32
        { ifindex := 8, queue := 1, mtu := 1400 }).map ResolvedL2.parts = some (header, 1400) := by
  obtain ⟨snapshot, updated, reference⟩ := RouteSnapshot.applyAll_sampleUpdates
  have consistent := RouteSnapshot.consistent_applyAll updated
  have agrees := @resolveUdpL2_eq_default _ { routes := .new snapshot } updated 0x08080808#32
    { ifindex := 8, queue := 1, mtu := 1400 }
  have slow := @parts_defaultResolveUdpL2 { routes := .new snapshot } consistent 0x08080808#32
    { ifindex := 8, queue := 1, mtu := 1400 }
  have resolved : XdpQueueLocalRouter.resolveUdpEgressResolved { routes := .new snapshot }
      0x08080808#32 { ifindex := 8, queue := 1, mtu := 1400 } =
        some (.fromEgress (.ipv4 8 1 0x020000000002#48 0x020000000001#48 1500)) :=
    (consistent.resolved_eq_reference _ _ _).trans reference
  rw [resolved] at slow
  exact ⟨{ routes := .new snapshot }, _, updated, agrees.trans slow, slow⟩

end FastSocket.Xdp
