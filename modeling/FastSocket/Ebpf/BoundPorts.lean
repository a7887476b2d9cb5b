import FastSocket.Ebpf.Agreement
import FastSocket.Ebpf.Program
import FastSocket.Transition.Run
import Mathlib.Data.BitVec
import Mathlib.Data.Fintype.Card

/-!
# Bound ports are redirected

Whatever map write fails, the entries of the ports in use are set and the count is
not zero.  So a port in use is redirected: no frame to it that the receive path
would accept is passed to the kernel.
-/

namespace FastSocket.Ebpf

open Packet Xdp Transition

/-! ## Map entries -/

variable {port : Word} {count : Nat}

namespace Maps

variable {maps : Maps}

theorem isBoundPort_setBoundPort_self (length : maps.boundPorts.length = boundPortsLen)
    (port : Word) (enabled : Byte) :
    (maps.setBoundPort port enabled).isBoundPort port = (enabled != 0) := by
  have inside : port.toNat < maps.boundPorts.length := by
    rw [length]
    exact port.isLt
  simp only [isBoundPort, setBoundPort, List.getElem?_set_self inside]

theorem isBoundPort_setBoundPort_ne {other : Word} (differs : other ≠ port) (enabled : Byte) :
    (maps.setBoundPort port enabled).isBoundPort other = maps.isBoundPort other := by
  have indexes : port.toNat ≠ other.toNat := fun same => differs (BitVec.eq_of_toNat_eq same.symm)
  simp only [isBoundPort, setBoundPort, List.getElem?_set_ne indexes]

theorem hasBoundPorts_setBoundPortCount (length : maps.boundPortCount.length = 1)
    (count : BitVec 32) : (maps.setBoundPortCount count).hasBoundPorts = (count != 0) := by
  have inside : 0 < maps.boundPortCount.length := by omega
  simp only [hasBoundPorts, setBoundPortCount, List.getElem?_set_self inside]

end Maps

theorem boundCount_le (bound : AList fun _ : Word => Nat) : bound.keys.length ≤ 2 ^ 16 := by
  have distinct : (bound.keys.map BitVec.toFin).Nodup :=
    bound.keys_nodup.map BitVec.toFin_injective
  have fits := distinct.length_le_card
  rwa [List.length_map, Fintype.card_fin] at fits

/-- A count between one and the number of ports is not zero in its map entry. -/
theorem boundCount_ne_zero (positive : 0 < count) (fits : count ≤ 2 ^ 16 + 1) :
    (BitVec.ofNat 32 count != 0) = true := by
  rw [bne_iff_ne]
  intro zero
  have value := congrArg BitVec.toNat zero
  rw [BitVec.toNat_ofNat, Nat.mod_eq_of_lt (by omega)] at value
  exact absurd value (by simpa using positive.ne')

/-! ## Reachable programs -/

namespace XdpProgram

/-- The maps cover the ports in use. -/
structure WellFormed (program : XdpProgram) : Prop where
  ports : program.maps.boundPorts.length = boundPortsLen
  counts : program.maps.boundPortCount.length = 1
  used : ∀ port refcount, program.boundPorts.lookup port = some refcount → 0 < refcount
  bound : ∀ port ∈ program.boundPorts,
    program.maps.isBoundPort port = true ∧ program.maps.hasBoundPorts = true
  range : ∀ start stop, program.config = .portRange start stop →
    program.maps.boundPortRangeOf = some (start, stop)

theorem wellFormed_loadAndAttach {config : XdpProgramConfig} {program : XdpProgram}
    (loaded : loadAndAttach config = .ok program) : program.WellFormed := by
  rw [loadAndAttach] at loaded
  cases config with
  | boundPorts =>
    cases loaded
    refine ⟨List.length_replicate, rfl, ?_, ?_, ?_⟩
    · rintro port refcount ⟨⟩
    · intro port member
      exact absurd member (AList.notMem_empty port)
    · rintro start stop ⟨⟩
  | portRange start stop =>
    rw [XdpProgramConfig.validate] at loaded
    split at loaded
    · cases loaded
    · split at loaded
      · cases loaded
      · rename_i ordered enabled
        cases loaded
        refine ⟨List.length_replicate, rfl, ?_, ?_, ?_⟩
        · rintro port refcount ⟨⟩
        · intro port member
          exact absurd member (AList.notMem_empty port)
        · rintro _ _ ⟨⟩
          change (if _ then _ else _) = _
          rw [if_neg enabled, if_neg ordered]
          rfl

variable {program : XdpProgram}

theorem WellFormed.not_mem_of_refcount (wellFormed : program.WellFormed)
    (unused : (program.boundPorts.lookup port).getD 0 = 0) : port ∉ program.boundPorts := by
  intro member
  obtain ⟨refcount, found⟩ := Option.isSome_iff_exists.mp (AList.lookup_isSome.mpr member)
  rw [found, Option.getD_some] at unused
  exact (wellFormed.used port refcount found).ne' unused

theorem used_insert {bound : AList fun _ : Word => Nat}
    (used : ∀ port refcount, bound.lookup port = some refcount → 0 < refcount)
    (positive : 0 < count) (other : Word) (refcount : Nat)
    (found : (bound.insert port count).lookup other = some refcount) : 0 < refcount := by
  rcases eq_or_ne other port with rfl | differs
  · rw [AList.lookup_insert, Option.some.injEq] at found
    exact found ▸ positive
  · rw [AList.lookup_insert_ne differs] at found
    exact used other refcount found

/-- Writing the entry of a port that is not in use. -/
theorem WellFormed.setBoundPort (wellFormed : program.WellFormed)
    (unused : port ∉ program.boundPorts) (enabled : Byte) :
    { program with maps := program.maps.setBoundPort port enabled }.WellFormed := by
  refine ⟨?_, wellFormed.counts, wellFormed.used, ?_, wellFormed.range⟩
  · exact List.length_set.trans wellFormed.ports
  · intro other member
    have differs : other ≠ port := fun same => unused (same ▸ member)
    exact ⟨(Maps.isBoundPort_setBoundPort_ne differs enabled).trans
      (wellFormed.bound other member).1, (wellFormed.bound other member).2⟩

theorem WellFormed.bindPort (wellFormed : program.WellFormed) (port : Word)
    (writes : PortWrites) : (program.bindPort port writes).2.WellFormed := by
  have used : ∀ other refcount, (program.boundPorts.insert port
      ((program.boundPorts.lookup port).getD 0 + 1)).lookup other = some refcount →
        0 < refcount :=
    used_insert wellFormed.used (Nat.succ_pos _)
  rw [XdpProgram.bindPort]
  split
  case isTrue => exact wellFormed
  case isFalse =>
    simp only
    split
    case isTrue unused =>
      have absent := wellFormed.not_mem_of_refcount unused
      split
      · split
        · refine ⟨List.length_set.trans wellFormed.ports,
            List.length_set.trans wellFormed.counts, used, ?_, wellFormed.range⟩
          intro other member
          constructor
          · rcases (AList.mem_insert _).mp member with rfl | old
            · exact Maps.isBoundPort_setBoundPort_self wellFormed.ports other 1
            · exact ((wellFormed.setBoundPort absent 1).bound other old).1
          · have fits := boundCount_le program.boundPorts
            exact (Maps.hasBoundPorts_setBoundPortCount wellFormed.counts _).trans
              (boundCount_ne_zero (Nat.succ_pos _) (Nat.succ_le_succ fits))
        · have written := wellFormed.setBoundPort absent 1
          split
          · exact written.setBoundPort absent 0
          · exact written
      · exact wellFormed
    case isFalse inUse =>
      have present : port ∈ program.boundPorts := by
        rw [← AList.lookup_isSome]
        cases found : program.boundPorts.lookup port with
        | none => exact absurd (by rw [found]; rfl) inUse
        | some refcount => rfl
      refine ⟨wellFormed.ports, wellFormed.counts, used, ?_, wellFormed.range⟩
      intro other member
      rcases (AList.mem_insert _).mp member with rfl | old
      · exact wellFormed.bound other present
      · exact wellFormed.bound other old

theorem WellFormed.unbindPort (wellFormed : program.WellFormed) (port : Word)
    (writes : PortWrites) : (program.unbindPort port writes).2.WellFormed := by
  rw [XdpProgram.unbindPort]
  split
  case isTrue => exact wellFormed
  case isFalse =>
    cases found : program.boundPorts.lookup port with
    | none => exact wellFormed
    | some refcount =>
      have present : port ∈ program.boundPorts := by
        rw [← AList.lookup_isSome, found]
        rfl
      simp only
      split
      · refine ⟨wellFormed.ports, wellFormed.counts,
          used_insert wellFormed.used (by omega), ?_, wellFormed.range⟩
        intro other member
        rcases (AList.mem_insert _).mp member with rfl | old
        · exact wellFormed.bound other present
        · exact wellFormed.bound other old
      · split
        · have erased : { program with boundPorts := program.boundPorts.erase port }.WellFormed := by
            refine ⟨wellFormed.ports, wellFormed.counts, ?_, ?_, wellFormed.range⟩
            · intro other count isCount
              rcases eq_or_ne other port with rfl | differs
              · rw [AList.lookup_erase] at isCount
                cases isCount
              · rw [AList.lookup_erase_ne differs] at isCount
                exact wellFormed.used other count isCount
            · intro other member
              exact wellFormed.bound other (AList.mem_erase.mp member).2
          have absent : port ∉ program.boundPorts.erase port := by
            intro member
            exact (AList.mem_erase.mp member).1 rfl
          have cleared := erased.setBoundPort absent 0
          split
          · refine ⟨cleared.ports, List.length_set.trans wellFormed.counts, cleared.used, ?_,
              wellFormed.range⟩
            intro other member
            have fits := boundCount_le (program.boundPorts.erase port)
            have positive : 0 < (program.boundPorts.erase port).keys.length :=
              List.length_pos_of_mem (AList.mem_keys.mp member)
            exact ⟨(cleared.bound other member).1,
              (Maps.hasBoundPorts_setBoundPortCount wellFormed.counts _).trans
                (boundCount_ne_zero positive (by omega))⟩
          · exact cleared
        · exact wellFormed

/-- A program passes a packet on or redirects it. -/
theorem handle_cases (program : XdpProgram) (context : XdpContext) :
    program.handle context = (.pass, program.maps) ∨
      program.handle context = redirectToXskmap program.maps context := by
  rw [handle]
  cases program.config with
  | boundPorts =>
    simp only [fastSocketXdp, tryRedirectBoundPorts]
    rcases packetUdpDestinationPort context.packet with _ | _ | port
    · exact .inl rfl
    · exact .inl rfl
    · change orPass _ (if _ then _ else _) = _ ∨ orPass _ (if _ then _ else _) = _
      split
      · exact .inl rfl
      · split
        · exact .inl rfl
        · exact .inr rfl
  | portRange start stop =>
    simp only [fastSocketXdpPortRange, tryRedirectPortRange]
    rcases packetUdpDestinationPort context.packet with _ | _ | port
    · exact .inl rfl
    · exact .inl rfl
    · cases program.maps.boundPortRangeOf with
      | none => exact .inl rfl
      | some range =>
        change orPass _ (if _ then _ else _) = _ ∨ orPass _ (if _ then _ else _) = _
        split
        · exact .inl rfl
        · exact .inr rfl

theorem WellFormed.handle (wellFormed : program.WellFormed) (context : XdpContext) :
    { program with maps := (program.handle context).2 }.WellFormed := by
  rcases program.handle_cases context with passed | redirected
  · rw [passed]
    exact wellFormed
  · rw [redirected, redirectToXskmap]
    split
    · exact wellFormed
    · exact ⟨wellFormed.ports, wellFormed.counts, wellFormed.used, wellFormed.bound,
        wellFormed.range⟩

theorem WellFormed.step {target : XdpProgram} (wellFormed : program.WellFormed)
    {action : ProgramAction} (taken : program.step action = some target) :
    target.WellFormed := by
  cases action with
  | bindPort port writes =>
    cases taken
    exact wellFormed.bindPort port writes
  | unbindPort port writes =>
    cases taken
    exact wellFormed.unbindPort port writes
  | sockets xskmap =>
    cases taken
    exact ⟨wellFormed.ports, wellFormed.counts, wellFormed.used, wellFormed.bound,
      wellFormed.range⟩
  | packet context =>
    cases taken
    exact wellFormed.handle context

/-- A packet to an accepted port is redirected. -/
theorem WellFormed.redirects (wellFormed : program.WellFormed) {context : XdpContext}
    (found : packetUdpDestinationPort context.packet = .ok (some port))
    (accepts : program.Accepts port) :
    program.handle context = redirectToXskmap program.maps context := by
  rw [XdpProgram.handle]
  rw [Accepts] at accepts
  cases config : program.config with
  | boundPorts =>
    rw [config] at accepts
    obtain ⟨isBound, hasBound⟩ := wellFormed.bound port accepts
    simp only [fastSocketXdp, tryRedirectBoundPorts, found]
    change orPass _ (if _ then _ else if _ then _ else _) = _
    rw [hasBound, isBound]
    rfl
  | portRange start stop =>
    rw [config] at accepts
    simp only [fastSocketXdpPortRange, tryRedirectPortRange, found]
    rw [wellFormed.range start stop config]
    change orPass _ (if _ then _ else _) = _
    rw [if_neg (not_or.mpr ⟨BitVec.not_lt.mpr accepts.1, BitVec.not_lt.mpr accepts.2⟩)]
    rfl

end XdpProgram

theorem redirectToXskmap_ne_pass (maps : Maps) (context : XdpContext) :
    (redirectToXskmap maps context).1 ≠ .pass := by
  rw [redirectToXskmap]
  split
  · rintro ⟨⟩
  · rintro ⟨⟩

/-- A program finds the port of every frame that the receive path accepts.  In
every state that a loaded program reaches, it hands such a frame to the socket of
its queue when the port is in use, and never passes it to the kernel. -/
theorem redirected_of_parsed {frame : List Byte} {parsed : ParsedIpv4Udp}
    (accepted : parseEthernetIpv4Udp frame = .udp parsed) :
    packetUdpDestinationPort frame = .ok (some parsed.destinationPort) ∧
      ∀ config loaded actions program, XdpProgram.loadAndAttach config = .ok loaded →
        run XdpProgram.step loaded actions = some program →
        program.Accepts parsed.destinationPort →
        ∀ queue, program.handle ⟨frame, queue⟩ = redirectToXskmap program.maps ⟨frame, queue⟩ ∧
          (program.handle ⟨frame, queue⟩).1 ≠ .pass := by
  have found := packetUdpDestinationPort_of_parsed accepted
  refine ⟨found, ?_⟩
  intro config loaded actions program isLoaded reached accepts queue
  have wellFormed : program.WellFormed :=
    run_invariant_of_step (fun _ _ _ wellFormed taken => wellFormed.step taken)
      (XdpProgram.wellFormed_loadAndAttach isLoaded) reached
  have redirects : program.handle ⟨frame, queue⟩ = redirectToXskmap program.maps ⟨frame, queue⟩ :=
    wellFormed.redirects found accepts
  rw [redirects]
  exact ⟨rfl, redirectToXskmap_ne_pass program.maps ⟨frame, queue⟩⟩

/-- The sample frame is accepted, and its port can be bound. -/
theorem redirected_of_parsed_sample :
    packetUdpDestinationPort (sampleFrame [0x08, 0x00]) = .ok (some 5001#16) ∧
      ∃ loaded program, XdpProgram.loadAndAttach .boundPorts = .ok loaded ∧
        run XdpProgram.step loaded [.bindPort 5001#16 ⟨true, true, true⟩] = some program ∧
        (program.handle ⟨sampleFrame [0x08, 0x00], 0⟩).1 ≠ .pass := by
  have accepted : parseEthernetIpv4Udp (sampleFrame [0x08, 0x00]) =
      .udp { datagramOf sampleDatagram with payloadOffset := 42 } := by decide
  obtain ⟨found, redirects⟩ := redirected_of_parsed accepted
  have reached : run XdpProgram.step ⟨.boundPorts, .zeroed, ∅⟩
      [.bindPort 5001#16 ⟨true, true, true⟩] =
        some ⟨.boundPorts, (Maps.zeroed.setBoundPort 5001#16 1).setBoundPortCount 1,
          AList.insert 5001#16 1 ∅⟩ := rfl
  exact ⟨found, _, _, rfl, reached, (redirects .boundPorts _ _ _ rfl reached
    ((AList.mem_insert _).mpr (.inl rfl)) 0).2⟩

end FastSocket.Ebpf
