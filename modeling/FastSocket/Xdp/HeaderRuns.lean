import FastSocket.Xdp.HeaderPatch

/-!
# Packets sent through a cached header

A run of packets patches one cached header again and again, in place on the slot
path and in copies on the direct path.  Every packet carries the header that a
full rebuild produces exactly when no patch of the run loses a carry.
-/

namespace FastSocket.Xdp

open Packet OnesComplement

/-- One packet sent through a cached header: patched in place, or in a copy. -/
inductive PatchOp where
  | slot (payloadLen : Nat)
  | direct (payloadLen : Nat)
deriving DecidableEq, Repr

namespace PatchOp

def payloadLen : PatchOp → Nat
  | .slot payloadLen => payloadLen
  | .direct payloadLen => payloadLen

/-- The cached header after the packet, and the header of the packet unless the
patch is refused. -/
def apply (l2Len : Nat) (header : List Byte) : PatchOp → List Byte × Option (List Byte)
  | .slot payloadLen =>
    match patchXdpUdpEndpointHeaderLengths header l2Len payloadLen with
    | .ok patched => (patched, some patched)
    | .error _ => (header, none)
  | .direct payloadLen =>
    (header, (XdpEndpointHeaderPatch.ofCache header l2Len).map (·.patch header payloadLen))

end PatchOp

/-- The headers of the packets sent through a cached header. -/
def sentHeaders (l2Len : Nat) : List Byte → List PatchOp → List (PatchOp × Option (List Byte))
  | _, [] => []
  | header, op :: rest =>
    let (next, sent) := op.apply l2Len header
    (op, sent) :: sentHeaders l2Len next rest

/-- A sent header is the rebuilt one and its checksum verifies.  Only a direct
packet whose offsets exceed 16 bits is refused. -/
def SentRebuilt (l2Header : List Byte) (fields : Nat → Ipv4UdpHeaderFields)
    (op : PatchOp) : Option (List Byte) → Prop
  | some bytes => bytes = rebuiltHeader l2Header fields op.payloadLen ∧
      ipv4HeaderChecksum ((bytes.drop l2Header.length).take ipv4MinHeaderLen) = 0#16
  | none => op = .direct op.payloadLen ∧ 65536 ≤ l2Header.length + 24

instance (l2Header : List Byte) (fields : Nat → Ipv4UdpHeaderFields) (op : PatchOp) :
    (sent : Option (List Byte)) → Decidable (SentRebuilt l2Header fields op sent)
  | some _ => inferInstanceAs (Decidable (_ ∧ _))
  | none => inferInstanceAs (Decidable (_ ∧ _))

/-- No packet raises the length field of the cached header to a value at which a
carry is lost. -/
def CarriesKept (fixed l2Len : Nat) : Nat → List PatchOp → Prop
  | _, [] => True
  | current, .slot payloadLen :: rest =>
    ¬ LosesCarry fixed (current + 28) (payloadLen + 28) ∧ CarriesKept fixed l2Len payloadLen rest
  | current, .direct payloadLen :: rest =>
    (l2Len + 24 < 65536 → ¬ LosesCarry fixed (current + 28) (payloadLen + 28)) ∧
      CarriesKept fixed l2Len current rest

instance (fixed l2Len : Nat) :
    (current : Nat) → (ops : List PatchOp) → Decidable (CarriesKept fixed l2Len current ops)
  | _, [] => inferInstanceAs (Decidable True)
  | _, .slot payloadLen :: rest =>
    have := instDecidableCarriesKept fixed l2Len payloadLen rest
    inferInstanceAs (Decidable (_ ∧ _))
  | current, .direct _ :: rest =>
    have := instDecidableCarriesKept fixed l2Len current rest
    inferInstanceAs (Decidable (_ ∧ _))

section Runs

variable {l2Header : List Byte} {fields : Nat → Ipv4UdpHeaderFields} {current : Nat}
  {payloadLen : Nat}

theorem toNat_totalLen (family : LengthFamily fields) (fits : payloadLen + 28 ≤ 65535) :
    (fields payloadLen).totalLen.toNat = payloadLen + 28 := by
  rw [family.totalLen, BitVec.toNat_ofNat, udpHeaderLen, ipv4MinHeaderLen]
  exact Nat.mod_eq_of_lt (by omega)

/-- An incremental patch is the rebuilt header unless it loses a carry. -/
theorem patchedHeader_eq_iff (l2Header : List Byte) (family : LengthFamily fields)
    {old new : Nat}
    (oldFits : old + 28 ≤ 65535) (newFits : new + 28 ≤ 65535) :
    patchedHeader l2Header fields old new = rebuiltHeader l2Header fields new ↔
      ¬ LosesCarry (fixedSum (fields 0)) (old + 28) (new + 28) := by
  have sameFixed : fixedSum (fields old) = fixedSum (fields 0) := by
    rw [family.relength 0 old]
    rfl
  have sameRebuilt : rebuiltChecksum (fields new) =
      rebuiltChecksum { fields old with totalLen := (fields new).totalLen } := by
    rw [family.totalLen new, family.relength old new]
    rfl
  rw [← sameFixed, ← toNat_totalLen family oldFits, ← toNat_totalLen family newFits,
    ← ipv4ChecksumReplaceWord_eq_iff, ← sameRebuilt, patchedHeader, rebuiltHeader_eq,
    List.append_cancel_left_eq]
  constructor
  · exact headerBytes_inj _ _
  · intro equal
    rw [equal]

/-- A packet patched from a rebuilt header is sent as rebuilt unless it loses a
carry. -/
theorem sentRebuilt_patched_iff (l2Header : List Byte) (family : LengthFamily fields)
    (op : PatchOp) (currentFits : current + 28 ≤ 65535) (opFits : op.payloadLen + 28 ≤ 65535) :
    SentRebuilt l2Header fields op (some (patchedHeader l2Header fields current op.payloadLen)) ↔
      ¬ LosesCarry (fixedSum (fields 0)) (current + 28) (op.payloadLen + 28) := by
  rw [← patchedHeader_eq_iff l2Header family currentFits opFits, SentRebuilt]
  constructor
  · exact And.left
  · intro equal
    refine ⟨equal, ?_⟩
    rw [equal, rebuiltHeader_eq, List.drop_left']
    · exact ipv4HeaderChecksum_rebuilt _
    · rfl

theorem apply_slot_rebuilt (family : LengthFamily fields) (fits : payloadLen + 28 ≤ 65535) :
    (PatchOp.slot payloadLen).apply l2Header.length (rebuiltHeader l2Header fields current) =
      (patchedHeader l2Header fields current payloadLen,
        some (patchedHeader l2Header fields current payloadLen)) := by
  rw [PatchOp.apply, patchXdpUdpEndpointHeaderLengths_rebuilt family fits]

theorem apply_direct_rebuilt (family : LengthFamily fields) (payloadLen : Nat)
    (offsets : l2Header.length + 24 < 65536) :
    (PatchOp.direct payloadLen).apply l2Header.length (rebuiltHeader l2Header fields current) =
      (rebuiltHeader l2Header fields current,
        some (patchedHeader l2Header fields current payloadLen)) := by
  have made := ofCache_rebuilt fields current offsets
  rw [PatchOp.apply, made, Option.map_some, patch_rebuilt family made]

theorem apply_direct_refused (header : List Byte) (payloadLen : Nat)
    (offsets : ¬ l2Header.length + 24 < 65536) :
    (PatchOp.direct payloadLen).apply l2Header.length header = (header, none) := by
  rw [PatchOp.apply, ofCache_eq_none (Nat.le_of_not_lt offsets), Option.map_none]

/-- Every packet of a run is sent with the rebuilt header exactly when no patch of
the run loses a carry. -/
theorem forall_sentHeaders_iff (family : LengthFamily fields) (ops : List PatchOp)
    (currentFits : current + 28 ≤ 65535) (fits : ∀ op ∈ ops, op.payloadLen + 28 ≤ 65535) :
    (∀ sent ∈ sentHeaders l2Header.length (rebuiltHeader l2Header fields current) ops,
      SentRebuilt l2Header fields sent.1 sent.2) ↔
      CarriesKept (fixedSum (fields 0)) l2Header.length current ops := by
  induction ops generalizing current with
  | nil => simp [sentHeaders, CarriesKept]
  | cons op rest ih =>
    have opFits := fits op List.mem_cons_self
    have restFits : ∀ op ∈ rest, op.payloadLen + 28 ≤ 65535 :=
      fun other member => fits other (List.mem_cons_of_mem op member)
    have here := sentRebuilt_patched_iff l2Header family op currentFits opFits
    cases op with
    | slot payloadLen =>
      change payloadLen + 28 ≤ 65535 at opFits
      rw [sentHeaders, apply_slot_rebuilt family opFits, List.forall_mem_cons]
      refine and_congr_right_iff.mpr ?_ |>.trans (and_congr_left_iff.mpr fun _ => here)
      intro rebuilt
      rw [(patchedHeader_eq_iff l2Header family currentFits opFits).mpr (here.mp rebuilt)]
      exact ih opFits restFits
    | direct payloadLen =>
      by_cases offsets : l2Header.length + 24 < 65536
      · rw [sentHeaders, apply_direct_rebuilt family payloadLen offsets, List.forall_mem_cons]
        refine and_congr (here.trans ?_) (ih currentFits restFits)
        exact (imp_iff_right offsets).symm
      · rw [sentHeaders, apply_direct_refused _ payloadLen offsets, List.forall_mem_cons]
        refine and_congr ?_ (ih currentFits restFits)
        exact iff_of_true ⟨rfl, Nat.le_of_not_lt offsets⟩ fun inRange => absurd inRange offsets

end Runs

variable {spec : UdpEndpointSpec} {localAddr destination : SocketAddrV4} {sourceIp : Ipv4Addr}
  {resolveUdpL2 : ResolveUdpL2} {ttl : Byte} {routeContext : XdpRouteContext}
  {routeGeneration : Nat}

theorem headerFields_of_ipv4 (ttl : Byte) (payloadLen : Nat)
    (destinationEq : spec.ipv4Destination = .ok destination)
    (sourceEq : spec.ipv4Source localAddr = .ok sourceIp) :
    spec.headerFields localAddr ttl payloadLen =
      { sourcePort := spec.sourcePort.getD localAddr.port
        destinationPort := destination.port
        source := sourceIp
        destination := destination.ip
        totalLen := BitVec.ofNat 16 (payloadLen + udpHeaderLen + ipv4MinHeaderLen)
        udpLen := BitVec.ofNat 16 (payloadLen + udpHeaderLen)
        ttl := ttl
        ecn := spec.ecn } := by
  rcases spec with ⟨_ | _, _ | (_ | _), _, _, _, _⟩ <;> cases destinationEq <;> cases sourceEq <;> rfl

/-- A built cache holds the rebuilt header of its own length, behind the L2 header that
the router gives for the destination, and that length fits the route. -/
theorem buildXdpUdpEndpointCache_eq_ok {cache : XdpUdpEndpointCache} {info : UdpEndpointInfo}
    (built : buildXdpUdpEndpointCache resolveUdpL2 localAddr ttl routeContext routeGeneration
      spec = .ok (cache, info)) :
    ∃ destination sourceIp resolved, spec.ipv4Destination = .ok destination ∧
      spec.ipv4Source localAddr = .ok sourceIp ∧ spec.gsoSegmentSize = none ∧
      resolveUdpL2 destination.ip routeContext = some resolved ∧
      info = { mtu := resolved.ipMtu - (ipv4MinHeaderLen + udpHeaderLen)
               payloadLen := spec.payloadLen, gsoSegmentSize := none } ∧
      spec.payloadLen.getD 0 + 28 ≤ 65535 ∧
      cache = { routeGeneration := routeGeneration
                header := rebuiltHeader resolved.l2Header (spec.headerFields localAddr ttl)
                  (spec.payloadLen.getD 0)
                l2Len := resolved.l2Header.length } ∧
      ipv4MinHeaderLen + udpHeaderLen ≤ resolved.ipMtu ∧
      validateXdpUdpEndpointPayload info (spec.payloadLen.getD 0) = .ok () := by
  rw [buildXdpUdpEndpointCache] at built
  cases destinationEq : spec.ipv4Destination with
  | error error => rw [destinationEq] at built; cases built
  | ok destination =>
    cases sourceEq : spec.ipv4Source localAddr with
    | error error => rw [destinationEq, sourceEq] at built; cases built
    | ok sourceIp =>
      cases gso : spec.gsoSegmentSize with
      | some size => rw [destinationEq, sourceEq, gso] at built; cases built
      | none =>
        cases resolves : resolveUdpL2 destination.ip routeContext with
        | none =>
          rw [destinationEq, sourceEq, gso] at built
          simp only [bind, Except.bind, resolves] at built
          cases built
        | some resolved =>
          rw [destinationEq, sourceEq, gso] at built
          simp only [bind, Except.bind, resolves, throw, throwThe, MonadExceptOf.throw,
            pure, Except.pure, Option.isSome_none, Bool.false_eq_true, if_false] at built
          split at built
          · cases built
          · split at built
            · cases built
            · split at built
              · cases built
              · rename_i large _ _ valid inRange
                cases built
                refine ⟨destination, sourceIp, resolved, rfl, rfl, rfl, resolves, rfl, ?_,
                  ?_, Nat.not_lt.mp large, valid⟩
                · change ¬ spec.payloadLen.getD 0 + 8 + 20 > 65535 at inRange
                  omega
                · rw [rebuiltHeader,
                    headerFields_of_ipv4 ttl _ destinationEq sourceEq]

/-- Without a route for its destination no cache is built. -/
theorem buildXdpUdpEndpointCache_of_unresolved
    (destinationEq : spec.ipv4Destination = .ok destination)
    (sourceEq : spec.ipv4Source localAddr = .ok sourceIp) (gso : spec.gsoSegmentSize = none)
    (unresolved : resolveUdpL2 destination.ip routeContext = none) :
    buildXdpUdpEndpointCache resolveUdpL2 localAddr ttl routeContext routeGeneration spec =
      .error .noEgressRoute := by
  rw [buildXdpUdpEndpointCache, destinationEq, sourceEq, gso]
  simp only [bind, Except.bind, unresolved]
  rfl

/-- The packets sent through a built endpoint header, patched in place or in
copies, carry the rebuilt headers with verifying checksums exactly when no patch
loses a carry. -/
theorem sentHeaders_rebuilt_iff (resolveUdpL2 : ResolveUdpL2) (localAddr : SocketAddrV4)
    (ttl : Byte) (routeContext : XdpRouteContext) (routeGeneration : Nat)
    (spec : UdpEndpointSpec) (cache : XdpUdpEndpointCache) (info : UdpEndpointInfo)
    (ops : List PatchOp)
    (built : buildXdpUdpEndpointCache resolveUdpL2 localAddr ttl routeContext routeGeneration
      spec = .ok (cache, info))
    (fits : ∀ op ∈ ops, op.payloadLen + 28 ≤ 65535) :
    (∀ sent ∈ sentHeaders cache.l2Len cache.header ops,
      SentRebuilt (cache.header.take cache.l2Len) (spec.headerFields localAddr ttl)
        sent.1 sent.2) ↔
      CarriesKept (fixedSum (spec.headerFields localAddr ttl 0)) cache.l2Len
        (spec.payloadLen.getD 0) ops := by
  obtain ⟨_, _, resolved, _, _, _, _, _, cacheFits, rfl, _⟩ :=
    buildXdpUdpEndpointCache_eq_ok built
  dsimp only
  rw [show (rebuiltHeader resolved.l2Header (spec.headerFields localAddr ttl) _).take
    resolved.l2Header.length = resolved.l2Header from List.take_left' rfl]
  exact forall_sentHeaders_iff (lengthFamily_headerFields spec localAddr ttl) ops cacheFits fits

/-- A router with one Ethernet header for every destination. -/
def sampleRouter : ResolveUdpL2 :=
  fun _ _ =>
    let (l2Header, l2Len) := buildEthernetHeader
      (.ipv4 7 0 0x020000000002#48 0x020000000001#48 1500)
    some (.inline l2Header l2Len 1500)

/-- A socket bound to 192.0.2.10 builds the header of an endpoint of variable
payload length. -/
def sampleLocalAddr : SocketAddrV4 :=
  { ip := 0xc000020a#32, port := 9000#16 }

def sampleEndpointSpec (destination : Ipv4Addr) : UdpEndpointSpec :=
  { destination := .v4 { ip := destination, port := 4433#16 }
    sourceIp := none
    sourcePort := none
    ecn := none
    gsoSegmentSize := none
    payloadLen := none }

def sampleContext : XdpRouteContext :=
  { ifindex := 7, queue := 0, mtu := 1500 }

def sampleCache (destination : Ipv4Addr) : Except Error (XdpUdpEndpointCache × UdpEndpointInfo) :=
  buildXdpUdpEndpointCache sampleRouter sampleLocalAddr 64#8 sampleContext 1
    (sampleEndpointSpec destination)

/-- Towards 198.51.100.20 no carry is lost. -/
theorem sentHeaders_rebuilt_sample :
    ∃ cache info, sampleCache 0xc6336414#32 = .ok (cache, info) ∧
      ∀ sent ∈ sentHeaders cache.l2Len cache.header [.slot 1, .direct 1200, .slot 2],
        SentRebuilt (cache.header.take cache.l2Len)
          ((sampleEndpointSpec 0xc6336414#32).headerFields sampleLocalAddr 64#8)
          sent.1 sent.2 :=
  ⟨_, _, rfl, (sentHeaders_rebuilt_iff sampleRouter sampleLocalAddr 64#8 sampleContext 1
    (sampleEndpointSpec 0xc6336414#32) _ _ [.slot 1, .direct 1200, .slot 2] rfl
    (by decide)).mpr (by decide +kernel)⟩

/-- Towards 198.51.242.147 both paths send the payload length 1 with the checksum
`0xffff` where the rebuilt header has `0xfffe`. -/
theorem sentHeaders_carry_lost :
    ∃ cache info, sampleCache 0xc633f293#32 = .ok (cache, info) ∧
      ∀ op ∈ [PatchOp.slot 1, PatchOp.direct 1],
        ¬ ∀ sent ∈ sentHeaders cache.l2Len cache.header [op],
          SentRebuilt (cache.header.take cache.l2Len)
            ((sampleEndpointSpec 0xc633f293#32).headerFields sampleLocalAddr 64#8)
            sent.1 sent.2 :=
  ⟨_, _, rfl, by decide +kernel⟩

end FastSocket.Xdp
