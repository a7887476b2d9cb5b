import FastSocket.Xdp.DirectBatch
import FastSocket.Xdp.HeaderRuns

/-!
# Routes of endpoint packets

An endpoint caches the header that the router gave for its destination.  A packet sent
through a cache that was built under some routes carries the L2 header, the addresses
and the length limit that these routes give, however often the lengths in the cached
header have been patched since.
-/

namespace FastSocket.Xdp

open Packet Transition

/-- The router's answer for the destination of an endpoint. -/
def XdpUdpConfig.resolve (udp : XdpUdpConfig) (spec : UdpEndpointSpec) : Option ResolvedL2 :=
  match spec.ipv4Destination with
  | .ok destination => udp.resolveUdpL2 destination.ip udp.routeContext
  | .error _ => none

/-- A header with given L2 bytes, addresses and ports, for some payload length. -/
def HeaderFor (l2Header : List Byte) (fields : Ipv4UdpHeaderFields) (header : List Byte) : Prop :=
  ∃ payloadLen checksum, header = l2Header ++ headerBytes (withPayloadLen fields payloadLen) checksum

/-- A frame carries the headers of an endpoint as a resolution gives them, and its
payload keeps the limit of the resolution. -/
def XdpTxFrame.SentAlong (frame : XdpTxFrame) (udp : XdpUdpConfig) (spec : UdpEndpointSpec)
    (resolved : ResolvedL2) : Prop :=
  ∃ header payload, frame.bytes = header ++ payload ∧
    HeaderFor resolved.l2Header (spec.headerFields udp.localAddr udp.ttl 0) header ∧
    payload.length ≤ resolved.ipMtu - (ipv4MinHeaderLen + udpHeaderLen)

/-- A cache and its limit are those of a resolution. -/
structure XdpUdpEndpointCache.BuiltFrom (cache : XdpUdpEndpointCache) (udp : XdpUdpConfig)
    (spec : UdpEndpointSpec) (info : UdpEndpointInfo) (resolved : ResolvedL2) : Prop where
  mtu : info.mtu = resolved.ipMtu - (ipv4MinHeaderLen + udpHeaderLen)
  l2Len : cache.l2Len = resolved.l2Header.length
  header : HeaderFor resolved.l2Header (spec.headerFields udp.localAddr udp.ttl 0) cache.header

/-- An endpoint that XDP can send for at all. -/
structure UdpEndpointSpec.Sendable (spec : UdpEndpointSpec) (localAddr : SocketAddrV4) :
    Prop where
  destination : ∃ destination, spec.ipv4Destination = .ok destination
  source : ∃ source, spec.ipv4Source localAddr = .ok source
  gso : spec.gsoSegmentSize = none

/-! ## Building a cache -/

variable {info : UdpEndpointInfo} {payloadLen : Nat}

section Build

variable {udp : XdpUdpConfig} {spec : UdpEndpointSpec}

theorem buildCache_eq_ok {cache : XdpUdpEndpointCache}
    (built : udp.buildCache spec = .ok (cache, info)) :
    spec.Sendable udp.localAddr ∧ cache.routeGeneration = udp.routeGeneration ∧
      ∃ resolved, udp.resolve spec = some resolved ∧
        cache.BuiltFrom udp spec info resolved := by
  obtain ⟨destination, source, resolved, isDestination, isSource, gso, resolves, rfl, _, rfl, _⟩ :=
    buildXdpUdpEndpointCache_eq_ok built
  refine ⟨⟨⟨destination, isDestination⟩, ⟨source, isSource⟩, gso⟩, rfl, resolved, ?_, rfl, rfl, ?_⟩
  · rw [XdpUdpConfig.resolve, isDestination]
    exact resolves
  · exact ⟨spec.payloadLen.getD 0, _, rebuiltHeader_eq _ _ _⟩

theorem buildCache_of_unresolved (sendable : spec.Sendable udp.localAddr)
    (unresolved : udp.resolve spec = none) : udp.buildCache spec = .error .noEgressRoute := by
  obtain ⟨⟨destination, isDestination⟩, ⟨source, isSource⟩, gso⟩ := sendable
  rw [XdpUdpConfig.resolve, isDestination] at unresolved
  exact buildXdpUdpEndpointCache_of_unresolved isDestination isSource gso unresolved

end Build

/-! ## The ways a send can go -/

/-- The slot path fails to refresh the endpoint, or sends through the refreshed cache. -/
theorem sendUdpEndpointInner_cases (udp : XdpUdpConfig) (endpoint : XdpUdpEndpoint)
    (batch : List (TxSlot (UdpEndpointTransmit XdpPacketBuf))) (socket : XdpSocket) :
    (∃ refreshed kind, refreshUdpEndpointCache udp endpoint = (refreshed, .error kind) ∧
      (sendUdpEndpointInner udp endpoint batch).run socket =
        (some (.unsent (.error kind) refreshed batch), socket)) ∨
    ∃ refreshed cache outcome target,
      refreshUdpEndpointCache udp endpoint = (refreshed, .ok cache) ∧
      Sends (prepareEndpointTransmit refreshed.info) cache batch socket outcome target ∧
      (sendUdpEndpointInner udp endpoint batch).run socket =
        (some (outcome.intoEndpoint refreshed), target) := by
  rw [sendUdpEndpointInner]
  split
  next refreshed kind done => exact .inl ⟨refreshed, kind, done, rfl⟩
  next refreshed cache done =>
    obtain ⟨outcome, returned, sends⟩ :=
      sends_sendBatch (prepareEndpointTransmit refreshed.info) cache batch socket
    refine .inr ⟨refreshed, cache, outcome, _, done, sends, ?_⟩
    rw [run_bind, returned]
    rfl

/-- The direct path has nothing to send, fails to refresh the endpoint or to make a
batch from it, or sends the batch. -/
theorem sendUdpEndpointDirectBatch_cases (udp : XdpUdpConfig) (endpoint : XdpUdpEndpoint)
    (max : Nat) (fill : Nat → FillCall) (socket : XdpSocket) :
    let run := (sendUdpEndpointDirectBatch udp endpoint max fill).run socket
    (max = 0 ∧ run = ((endpoint, some (.unsent (.ok ()))), socket)) ∨
    (∃ refreshed kind, refreshUdpEndpointCache udp endpoint = (refreshed, .error kind) ∧
      run = ((refreshed, some (.unsent (.error kind))), socket)) ∨
    ∃ refreshed cache, refreshUdpEndpointCache udp endpoint = (refreshed, .ok cache) ∧
      (run = ((refreshed, some (.unsent (.error .invalidPacket))), socket) ∨
        ∃ batch outcome target, EndpointBatch.ofCache refreshed.info cache = some batch ∧
          DirectSends batch max fill socket outcome target ∧
          run = ((refreshed, some outcome), target)) := by
  dsimp only
  rw [sendUdpEndpointDirectBatch]
  split
  next empty => exact .inl ⟨empty, rfl⟩
  next =>
    right
    split
    next refreshed kind done => exact .inl ⟨refreshed, kind, done, rfl⟩
    next refreshed cache done =>
      refine .inr ⟨refreshed, cache, done, ?_⟩
      split
      next => exact .inl rfl
      next batch made =>
        obtain ⟨outcome, returned, sends⟩ := directSends_sendDirect batch max fill socket
        refine .inr ⟨batch, outcome, _, made, sends, ?_⟩
        rw [run_bind, returned]
        rfl

/-! ## Sending through a cache -/

theorem validateXdpUdpEndpointPayload_le
    (valid : validateXdpUdpEndpointPayload info payloadLen = .ok ()) : payloadLen ≤ info.mtu := by
  rw [validateXdpUdpEndpointPayload] at valid
  split at valid
  · cases valid
  · split at valid
    · cases valid
    · rename_i fits
      exact Nat.le_of_not_gt fits

section Send

variable {udp : XdpUdpConfig} {spec : UdpEndpointSpec} {resolved : ResolvedL2}
  {cache next : XdpUdpEndpointCache}

/-- Bringing a header to a payload length only patches its lengths. -/
theorem XdpUdpEndpointCache.BuiltFrom.update (built : cache.BuiltFrom udp spec info resolved)
    (updated : updateXdpUdpEndpointHeader cache info payloadLen = .ok next) :
    next.BuiltFrom udp spec info resolved := by
  rcases updateXdpUdpEndpointHeader_eq_ok updated with ⟨_, _, rfl⟩ | ⟨_, _, header, patched, rfl⟩
  · exact built
  · obtain ⟨mtu, l2Len, old, checksum, shape⟩ := built
    refine ⟨mtu, l2Len, ?_⟩
    rw [shape, l2Len] at patched
    have fits : payloadLen + 28 ≤ 65535 := by
      by_contra tooLong
      rw [patchXdpUdpEndpointHeaderLengths,
        if_pos (by rw [udpHeaderLen, ipv4MinHeaderLen]; omega)] at patched
      cases patched
    rw [patchXdpUdpEndpointHeaderLengths_headerBytes _ _ fits] at patched
    cases patched
    exact ⟨payloadLen, _, rfl⟩

theorem routeGeneration_update
    (updated : updateXdpUdpEndpointHeader cache info payloadLen = .ok next) :
    next.routeGeneration = cache.routeGeneration := by
  rcases updateXdpUdpEndpointHeader_eq_ok updated with ⟨_, _, rfl⟩ | ⟨_, _, header, _, rfl⟩ <;> rfl

/-- The slot path keeps the cache and sends along the resolution that it was built
from. -/
theorem prepareEndpointTransmit_sentAlong (tx : UdpEndpointTransmit XdpPacketBuf)
    (built : cache.BuiltFrom udp spec info resolved) :
    (prepareEndpointTransmit info cache tx).cache.BuiltFrom udp spec info resolved ∧
      ∀ frame, (prepareEndpointTransmit info cache tx).frame = .ok frame →
        frame.SentAlong udp spec resolved := by
  fun_cases prepareEndpointTransmit info cache tx with
  | case1 kind refused => exact ⟨built, by rintro _ ⟨⟩⟩
  | case2 next updated written =>
    have nextBuilt := built.update updated
    refine ⟨nextBuilt, ?_⟩
    intro frame prepared
    obtain ⟨_, _, _, _, _, _, bytes⟩ :=
      XdpPacketBuf.prepareTxFrameWithHeader_of_some (frameResult_eq_ok.mp prepared)
    refine ⟨next.header, tx.packet.packet, bytes, nextBuilt.header, ?_⟩
    rw [← built.mtu]
    rcases updateXdpUdpEndpointHeader_eq_ok updated with ⟨valid, _⟩ | ⟨valid, _⟩ <;>
      exact validateXdpUdpEndpointPayload_le valid

variable {socket target : XdpSocket} {batch : EndpointBatch} {fill : Nat → FillCall}

theorem Sends.sentAlong {batch : List (TxSlot (UdpEndpointTransmit XdpPacketBuf))}
    {outcome : SendOutcome XdpUdpEndpointCache (UdpEndpointTransmit XdpPacketBuf)}
    (sends : Sends (prepareEndpointTransmit info) cache batch socket outcome target)
    (built : cache.BuiltFrom udp spec info resolved) :
    ∀ frame ∈ outcome.sent, frame.SentAlong udp spec resolved := by
  have step : ∀ cache tx, cache.BuiltFrom udp spec info resolved →
      (prepareEndpointTransmit info cache tx).cache.BuiltFrom udp spec info resolved ∧
        ∀ frame, (prepareEndpointTransmit info cache tx).frame = .ok frame →
          frame.SentAlong udp spec resolved :=
    fun _ tx built => prepareEndpointTransmit_sentAlong tx built
  exact (sends.forall_sent step built).2

theorem routeGeneration_prepareEndpointTransmit (tx : UdpEndpointTransmit XdpPacketBuf) :
    (prepareEndpointTransmit info cache tx).cache.routeGeneration = cache.routeGeneration := by
  fun_cases prepareEndpointTransmit info cache tx with
  | case1 kind refused => rfl
  | case2 next updated written => exact routeGeneration_update updated

/-- The direct path sends copies of the cached header, patched for their payloads. -/
theorem EndpointBatch.sentAlong_writeFrame {headerStart : Nat} {addr : Addr} {payload : List Byte}
    {frame : XdpTxFrame} (built : cache.BuiltFrom udp spec info resolved)
    (made : EndpointBatch.ofCache info cache = some batch)
    (wrote : batch.writeFrame headerStart addr payload = .ok frame) :
    frame.SentAlong udp spec resolved := by
  obtain ⟨patch, isPatch, rfl⟩ := Option.map_eq_some_iff.mp made
  obtain ⟨mtu, l2Len, old, checksum, shape⟩ := built
  rw [shape, l2Len] at isPatch
  rw [writeFrame] at wrote
  split at wrote
  · cases wrote
  · split at wrote
    · cases wrote
    · rename_i fits
      cases wrote
      refine ⟨_, payload, rfl, ?_, ?_⟩
      · dsimp only
        rw [shape, patch_headerBytes isPatch]
        exact ⟨payload.length, _, rfl⟩
      · rw [← mtu]
        exact le_trans (Nat.le_of_not_gt fits) (Nat.min_le_left _ _)

theorem exists_write_of_mem {write : Addr → List Byte → Except Error XdpTxFrame} {written : Nat}
    {addrs : List Addr} {frames : List XdpTxFrame}
    (filled : (fillFrames write fill written addrs socket).1 = .ok frames) :
    ∀ frame ∈ frames, ∃ addr payload, write addr payload = .ok frame := by
  have pairs := forall₂_fillFrames filled
  clear filled
  induction pairs with
  | nil => exact nofun
  | cons wrote _ ih => exact List.forall_mem_cons.mpr ⟨⟨_, wrote⟩, ih⟩

theorem DirectSends.sentAlong {max : Nat} {outcome : DirectOutcome}
    (sends : DirectSends batch max fill socket outcome target)
    (built : cache.BuiltFrom udp spec info resolved)
    (made : EndpointBatch.ofCache info cache = some batch) :
    ∀ frame ∈ outcome.sent, frame.SentAlong udp spec resolved := by
  cases sends with
  | sent reserve prepares room wake =>
    cases prepares with
    | stopped none =>
      cases none _ rfl
      exact nofun
    | filled admits retained few loop =>
      intro frame member
      obtain ⟨addr, payload, wrote⟩ := exists_write_of_mem (congrArg Prod.fst loop) frame member
      exact EndpointBatch.sentAlong_writeFrame built made wrote
  | _ => exact nofun

end Send

end FastSocket.Xdp
