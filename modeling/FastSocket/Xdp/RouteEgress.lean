import FastSocket.Xdp.RouteIndex

/-!
# The egress index resolves every route position

For each interface the egress index holds one slot per route position.  The slots
are read back here as what they stand for: no egress, an on-link route, or the
prebuilt egress of a gateway.
-/

namespace FastSocket.Xdp

open Packet

/-- A route leaves through its own interface or through a slave of it. -/
def Egresses (interface : InterfaceInfo) (route : Ipv4Route) : Prop :=
  route.ifindex = interface.ifindex ∨ interface.masterIfindex = some route.ifindex

instance (interface : InterfaceInfo) (route : Ipv4Route) : Decidable (Egresses interface route) :=
  inferInstanceAs (Decidable (_ ∨ _))

/-- What a slot stands for. -/
inductive SlotMeaning where
  | unusable
  | onLink
  | prebuilt (resolved : XdpResolvedEgress)
deriving DecidableEq, Repr

/-- A slot of an interface stands for a meaning, given the stored egresses. -/
def SlotMeans (egresses : List XdpResolvedEgress) : EgressSlot → SlotMeaning → Prop
  | .none, meaning => meaning = .unusable
  | .onLink, meaning => meaning = .onLink
  | .gateway index, meaning => ∃ resolved, egresses[index]? = some resolved ∧
      meaning = .prebuilt resolved

variable {slot : EgressSlot}

theorem SlotMeans.append {egresses : List XdpResolvedEgress} {meaning : SlotMeaning}
    (means : SlotMeans egresses slot meaning) (more : List XdpResolvedEgress) :
    SlotMeans (egresses ++ more) slot meaning := by
  cases slot with
  | none => exact means
  | onLink => exact means
  | gateway index =>
    obtain ⟨resolved, stored, rfl⟩ := means
    exact ⟨resolved, List.getElem?_append_left (List.getElem?_eq_some_iff.mp stored).1 ▸ stored,
      rfl⟩

section Scan

variable (routes : List Ipv4Route) (neighbors : NeighborTable) (interface : InterfaceInfo)

/-- The prebuilt egress of a gateway route whose next hop has a known address. -/
def gatewayEgress (route : Ipv4Route) (dstMac : LinkAddr) : XdpResolvedEgress :=
  .fromEgress (.ipv4 interface.ifindex interface.queue dstMac interface.mac
    (min route.mtu interface.mtu))

/-- What the slot of a route should stand for. -/
def routeMeaning (route : Ipv4Route) : SlotMeaning :=
  if Egresses interface route then
    match route.gateway with
    | none => .onLink
    | some gateway =>
      match neighborMac neighbors interface.ifindex route.ifindex gateway with
      | none => .unusable
      | some dstMac => .prebuilt (gatewayEgress interface route dstMac)
  else
    .unusable

/-- The state of the scan after the first `done` routes. -/
structure ScanCorrect (done : Nat) (scan : EgressScan) : Prop where
  interned : ∀ resolved slot, scan.dedup.lookup resolved = some slot →
    scan.egresses[slot]? = some resolved
  slots : ∀ i route, routes[i]? = some route → ∃ slot, scan.slots[i]? = some slot ∧
    SlotMeans scan.egresses slot
      (if i < done then routeMeaning neighbors interface route else .unusable)
  unused : scan.egressable = false → ∀ i route, routes[i]? = some route → i < done →
    routeMeaning neighbors interface route = .unusable

variable {routes neighbors interface} {done : Nat} {scan : EgressScan} {route : Ipv4Route}

/-- A route without a usable egress leaves its slot as it is. -/
theorem ScanCorrect.skip (correct : ScanCorrect routes neighbors interface done scan)
    (atDone : routes[done]? = some route)
    (unusable : routeMeaning neighbors interface route = .unusable) :
    ScanCorrect routes neighbors interface (done + 1) scan := by
  refine ⟨correct.interned, ?_, ?_⟩
  · intro i other isOther
    obtain ⟨slot, stored, means⟩ := correct.slots i other isOther
    refine ⟨slot, stored, ?_⟩
    rcases eq_or_ne i done with rfl | differs
    · rw [atDone, Option.some.injEq] at isOther
      rw [if_neg (Nat.lt_irrefl i)] at means
      rwa [if_pos (Nat.lt_succ_self i), ← isOther, unusable]
    · have position : i < done + 1 ↔ i < done := by omega
      simpa only [position] using means
  · intro inactive i other isOther less
    rcases Nat.lt_succ_iff_lt_or_eq.mp less with less | rfl
    · exact correct.unused inactive i other isOther less
    · rw [atDone, Option.some.injEq] at isOther
      rwa [← isOther]

/-- Storing a slot for the next route. -/
theorem ScanCorrect.store (correct : ScanCorrect routes neighbors interface done scan)
    (atDone : routes[done]? = some route) {next : EgressScan} {more : List XdpResolvedEgress}
    (slotsEq : next.slots = scan.slots.set done slot)
    (egressesEq : next.egresses = scan.egresses ++ more)
    (interned : ∀ resolved slot, next.dedup.lookup resolved = some slot →
      next.egresses[slot]? = some resolved) (active : next.egressable = true)
    (means : SlotMeans next.egresses slot (routeMeaning neighbors interface route)) :
    ScanCorrect routes neighbors interface (done + 1) next := by
  refine ⟨interned, ?_, fun inactive => by rw [active] at inactive; cases inactive⟩
  intro i other isOther
  obtain ⟨old, stored, oldMeans⟩ := correct.slots i other isOther
  rcases eq_or_ne i done with rfl | differs
  · rw [atDone, Option.some.injEq] at isOther
    subst isOther
    refine ⟨slot, ?_, by rwa [if_pos (Nat.lt_succ_self i)]⟩
    rw [slotsEq, List.getElem?_set_self (List.getElem?_eq_some_iff.mp stored).1]
  · refine ⟨old, ?_, ?_⟩
    · rwa [slotsEq, List.getElem?_set_ne differs.symm]
    · rw [egressesEq]
      have position : i < done + 1 ↔ i < done := by omega
      simp only [position]
      exact oldMeans.append more

/-- Interning an egress yields a slot that stands for it. -/
theorem EgressScan.intern_spec (scan : EgressScan) (resolved : XdpResolvedEgress)
    (interned : ∀ resolved slot, scan.dedup.lookup resolved = some slot →
      scan.egresses[slot]? = some resolved) :
    (scan.intern resolved).1.slots = scan.slots ∧
      (∃ more, (scan.intern resolved).1.egresses = scan.egresses ++ more) ∧
      (∀ other slot, (scan.intern resolved).1.dedup.lookup other = some slot →
        (scan.intern resolved).1.egresses[slot]? = some other) ∧
      (scan.intern resolved).1.egresses[(scan.intern resolved).2]? = some resolved := by
  rw [EgressScan.intern]
  cases found : scan.dedup.lookup resolved with
  | some slot => exact ⟨rfl, ⟨[], (List.append_nil _).symm⟩, interned, interned resolved slot found⟩
  | none =>
    refine ⟨rfl, ⟨[resolved], rfl⟩, ?_, by simp⟩
    intro other slot isSlot
    rw [List.lookup_cons] at isSlot
    split at isSlot
    case h_1 same =>
      cases isSlot
      rw [eq_of_beq same]
      simp
    case h_2 differs =>
      have stored := interned other slot isSlot
      rwa [List.getElem?_append_left (List.getElem?_eq_some_iff.mp stored).1]

theorem scanRoute_spec (correct : ScanCorrect routes neighbors interface done scan)
    (atDone : routes[done]? = some route) :
    ScanCorrect routes neighbors interface (done + 1)
      (scanRoute neighbors interface scan done route) := by
  rw [scanRoute]
  by_cases egresses : Egresses interface route
  · rw [if_neg (by rw [Egresses] at egresses; tauto)]
    cases gatewayEq : route.gateway with
    | none =>
      refine ScanCorrect.store correct atDone rfl (List.append_nil _).symm ?_ rfl ?_
      · exact correct.interned
      · rw [routeMeaning, if_pos egresses, gatewayEq]
        rfl
    | some gateway =>
      cases macEq : neighborMac neighbors interface.ifindex route.ifindex gateway with
      | none =>
        simp only [macEq]
        apply correct.skip atDone
        simp only [routeMeaning, if_pos egresses, gatewayEq, macEq]
      | some dstMac =>
        obtain ⟨slotsEq, ⟨more, egressesEq⟩, interned, stored⟩ :=
          scan.intern_spec (gatewayEgress interface route dstMac) correct.interned
        simp only [macEq]
        refine ScanCorrect.store correct atDone (congrArg (List.set · done _) slotsEq)
          egressesEq ?_ rfl ⟨_, stored, ?_⟩
        · exact interned
        · simp only [routeMeaning, if_pos egresses, gatewayEq, macEq]
  · rw [if_pos (by rw [Egresses] at egresses; tauto)]
    apply correct.skip atDone
    rw [routeMeaning, if_neg egresses]

theorem scanRoutes_spec (rest : List Ipv4Route)
    (correct : ScanCorrect routes neighbors interface done scan)
    (remaining : routes.drop done = rest) :
    ScanCorrect routes neighbors interface (done + rest.length)
      (scanRoutes neighbors interface done rest scan) := by
  induction rest generalizing done scan with
  | nil => exact correct
  | cons route rest ih =>
    have atDone : routes[done]? = some route := by
      rw [← List.head?_drop, remaining, List.head?_cons]
    have next := ih (scanRoute_spec correct atDone) (by
      rw [← List.tail_drop, remaining, List.tail_cons])
    rw [scanRoutes, List.length_cons, Nat.add_comm rest.length 1, ← Nat.add_assoc]
    exact next

/-- After the scan every slot stands for what its route should resolve to. -/
theorem scanInterface_spec (routes : List Ipv4Route) (neighbors : NeighborTable)
    (interface : InterfaceInfo) :
    ScanCorrect routes neighbors interface routes.length
      (scanInterface routes neighbors interface) := by
  have start : ScanCorrect routes neighbors interface 0
      { slots := List.replicate routes.length .none, egresses := [], dedup := [],
        egressable := false } := by
    refine ⟨by simp, ?_, fun _ i route _ less => absurd less (Nat.not_lt_zero i)⟩
    intro i route isRoute
    refine ⟨.none, ?_, by simp [SlotMeans]⟩
    rw [List.getElem?_replicate, if_pos (List.getElem?_eq_some_iff.mp isRoute).1]
  have finished := scanRoutes_spec routes start rfl
  rwa [Nat.zero_add] at finished

end Scan

end FastSocket.Xdp
