import FastSocket.Xdp.FactoryRollback
import FastSocket.Xdp.OpenPlans

/-!
# Filled port filters

The port filter of a factory is translated twice: into the maps of the program on each
interface, and into the ports that the members accept.  Opening a plan binds the local
port where the filter names no ports.
-/

namespace FastSocket.Xdp

open Ebpf Packet Transition

/-- The maps of a program let packets to a port through to the sockets. -/
def Redirects (program : XdpProgram) (port : Word) : Prop :=
  match program.config with
  | .boundPorts => program.RedirectsPort port
  | .portRange _ _ =>
    ∃ range, program.maps.boundPortRangeOf = some range ∧ range.1 ≤ port ∧ port ≤ range.2

theorem redirects_iff_accepts {program : XdpProgram} (wellFormed : program.WellFormed)
    (exact : program.config = .boundPorts → program.Exact) (port : Word) :
    Redirects program port ↔ program.Accepts port := by
  rw [Redirects, XdpProgram.Accepts]
  cases config : program.config with
  | boundPorts =>
    exact ((exact config).redirectsPort_iff port).trans
      (XdpProgram.refcount_pos_iff wellFormed port)
  | portRange start stop =>
    rw [wellFormed.range start stop config]
    simp

/-- A program selects the ports of a filter, where the local port of sockets is there only
once they are open. -/
structure Fills (filter : PortFilter) (localPort : Word) (isOpen : Prop) (program : XdpProgram) :
    Prop where
  config : program.config = filter.programConfig
  exact : program.config = .boundPorts → program.Exact
  accepts : ∀ port, program.Accepts port ↔
    filter.Selects localPort port ∧ (filter = .allIp → isOpen)

/-! ## The members -/

theorem accepts_acceptedPorts {filter : PortFilter} {localPort : Word}
    {accepted : XdpUdpAcceptedPorts} (isAccepted : filter.acceptedPorts localPort = .ok accepted)
    (port : Word) : accepted.accepts port = true ↔ filter.Selects localPort port := by
  cases filter with
  | allIp =>
    cases isAccepted
    exact decide_eq_true_iff
  | udpPorts ports =>
    obtain ⟨_, _, ⟨⟩⟩ := bind_eq_ok_iff.mp isAccepted
    rw [XdpUdpAcceptedPorts.accepts, List.contains_iff_mem, List.mem_dedup,
      List.mem_insertionSort, PortFilter.Selects]
  | udpPortRange start stop =>
    obtain ⟨_, _, ⟨⟩⟩ := bind_eq_ok_iff.mp isAccepted
    rw [XdpUdpAcceptedPorts.accepts, Bool.and_eq_true, decide_eq_true_eq, decide_eq_true_eq,
      PortFilter.Selects]

/-! ## Binding -/

variable {writes : PortWrites} {isOpen : Prop}

section Binding

variable {program target : XdpProgram} {port : Word}

theorem mem_boundPorts_of_bindPort (config : program.config = .boundPorts)
    (isBound : program.bindPort port writes = (.ok (), target)) (other : Word) :
    other ∈ target.boundPorts ↔ other = port ∨ other ∈ program.boundPorts := by
  rcases XdpProgram.bindPort_cases config port writes with
    ⟨_, bound⟩ | ⟨_, bound⟩ | ⟨_, refused | refused⟩
  · cases bound.symm.trans isBound
    exact AList.mem_insert _
  · cases bound.symm.trans isBound
    exact AList.mem_insert _
  · cases refused.symm.trans isBound
  · cases refused.symm.trans isBound

theorem bindPorts_spec {writes : Nat → PortWrites} {ports : List Word}
    (undone : ∀ position, (writes position).undo = true) (exact : program.Exact)
    (isBound : XdpFactoryBuilder.bindPorts writes ports program = (.ok (), target)) :
    target.Exact ∧ ∀ port, port ∈ target.boundPorts ↔ port ∈ ports ∨ port ∈ program.boundPorts := by
  induction ports generalizing writes program with
  | nil =>
    cases isBound
    exact ⟨exact, fun port => (or_iff_right List.not_mem_nil).symm⟩
  | cons first rest ih =>
    rw [XdpFactoryBuilder.bindPorts] at isBound
    split at isBound
    · cases isBound
    next next isNext =>
      have exactNext := exact.bindPort first (undone 0)
      rw [isNext] at exactNext
      obtain ⟨exactTarget, members⟩ := ih (fun position => undone (position + 1)) exactNext isBound
      refine ⟨exactTarget, fun port => ?_⟩
      rw [members, mem_boundPorts_of_bindPort exact.config isNext, List.mem_cons, or_assoc,
        or_left_comm]

theorem accepts_iff_mem (config : program.config = .boundPorts) :
    program.Accepts port ↔ port ∈ program.boundPorts := by
  rw [XdpProgram.Accepts, config]


theorem exact_withSockets (exact : program.Exact) (xskmap : Nat → Bool) :
    (withSockets program xskmap).Exact := by
  have wellFormed := exact.wellFormed
  exact ⟨exact.config, ⟨wellFormed.ports, wellFormed.counts, wellFormed.used, wellFormed.bound,
    wellFormed.range⟩, exact.only⟩

end Binding

/-! ## Opening a plan -/

namespace Fills

variable {filter : PortFilter} {localPort : Word} {program target : XdpProgram}

theorem withSockets (fills : Fills filter localPort isOpen program) (xskmap : Nat → Bool) :
    Fills filter localPort isOpen (withSockets program xskmap) :=
  ⟨fills.config, fun config => exact_withSockets (fills.exact config) xskmap, fills.accepts⟩

/-- The local port is bound for sockets that have no other ports. -/
theorem bindPort (undone : writes.undo = true) (fills : Fills .allIp localPort isOpen program)
    (isBound : program.bindPort localPort writes = (.ok (), target)) :
    Fills .allIp localPort True target := by
  have exact := (fills.exact fills.config).bindPort localPort undone
  rw [isBound] at exact
  refine ⟨exact.config, fun _ => exact, fun port => ?_⟩
  have before := fills.accepts port
  rw [accepts_iff_mem fills.config] at before
  rw [accepts_iff_mem exact.config, mem_boundPorts_of_bindPort fills.config isBound, before,
    PortFilter.Selects]
  tauto

theorem congr {isOpenToo : Prop} (same : isOpen ↔ isOpenToo)
    (fills : Fills filter localPort isOpen program) : Fills filter localPort isOpenToo program :=
  propext same ▸ fills

/-- Sockets that have ports of their own find them in the program already. -/
theorem opened (fills : Fills filter localPort isOpen program) (others : filter ≠ .allIp) :
    Fills filter localPort True program :=
  ⟨fills.config, fills.exact, fun port => (fills.accepts port).trans
    (and_congr_right fun _ => iff_of_true (absurd · others) fun _ => trivial)⟩

end Fills

section Plan

variable {settings : SharedOpenConfig} {host : OpenHost} {localPort : Word}
  {loaded target : SocketProgram} {members : List UdpMember}

theorem openSharedAccepting_eq_ok {queues : List QueueId}
    {acceptedPorts : Except (Stop OpenError) XdpUdpAcceptedPorts}
    (isOpen : settings.openSharedAccepting host queues acceptedPorts loaded =
      (.ok members, target)) :
    ∃ accepted, acceptedPorts = .ok accepted ∧ members ≠ [] ∧
      (∀ member ∈ members, member.acceptedPorts = accepted) ∧ ∃ xskmap,
        (settings.bindUdpPort = none ∧ target.program = withSockets loaded.program xskmap) ∨
        ∃ port, settings.bindUdpPort = some port ∧
          (withSockets loaded.program xskmap).bindPort port host.binds =
            (.ok (), target.program) := by
  rw [SharedOpenConfig.openSharedAccepting.eq_def] at isOpen
  split at isOpen
  · cases isOpen
  next accepted =>
    split at isOpen
    · cases isOpen
    next opened _ isOpened =>
      cases isOpen
      obtain ⟨someMembers, filter⟩ := SharedOpenConfig.openSharedMembers_filter isOpened
      refine ⟨accepted, rfl, mt List.map_eq_nil_iff.mp someMembers, ?_, filter⟩
      intro member isMember
      obtain ⟨_, _, rfl⟩ := List.mem_map.mp isMember
      rfl

variable {plan : XdpWorkerPlan}
  (opens : plan.openUdp settings host localPort loaded = (.ok members, target))

include opens

theorem accepts_of_openUdp :
    members ≠ [] ∧ ∀ member ∈ members, ∀ port,
      member.acceptedPorts.accepts port = true ↔ plan.portFilter.Selects localPort port := by
  obtain ⟨accepted, isAccepted, someMembers, same, _⟩ := openSharedAccepting_eq_ok opens
  refine ⟨someMembers, fun member isMember port => ?_⟩
  rw [same member isMember]
  exact accepts_acceptedPorts isAccepted port

/-- An open plan adds what the filter of its program misses. -/
theorem Fills.openUdp (undone : host.binds.undo = true)
    (fills : Fills plan.portFilter localPort isOpen loaded.program) :
    Fills plan.portFilter localPort True target.program := by
  obtain ⟨_, _, _, _, xskmap, filter⟩ := openSharedAccepting_eq_ok opens
  cases isFilter : plan.portFilter with
  | allIp =>
    rw [isFilter] at filter fills
    obtain ⟨⟨⟩, _⟩ | ⟨_, ⟨⟩, isBound⟩ := filter
    exact (fills.withSockets xskmap).bindPort undone isBound
  | udpPorts ports =>
    rw [isFilter] at filter fills
    obtain ⟨_, isProgram⟩ | ⟨_, ⟨⟩, _⟩ := filter
    rw [isProgram]
    exact (fills.withSockets xskmap).opened nofun
  | udpPortRange start stop =>
    rw [isFilter] at filter fills
    obtain ⟨_, isProgram⟩ | ⟨_, ⟨⟩, _⟩ := filter
    rw [isProgram]
    exact (fills.withSockets xskmap).opened nofun

end Plan

section Plans

variable {settings : SharedOpenConfig} {localPort : Word} {filter : PortFilter}
  {order : List (XdpWorkerPlan × OpenHost)} {programs final : IfIndex → SocketProgram}
  {aggregates : List UdpAggregate}

theorem openPlans_cons_eq_ok {plan : XdpWorkerPlan} {host : OpenHost}
    (opens : openPlans settings localPort ((plan, host) :: order) programs =
      (.ok aggregates, final)) :
    ∃ members loaded others,
      plan.openUdp settings host localPort (programs plan.ifindex) = (.ok members, loaded) ∧
      openPlans settings localPort order (Function.update programs plan.ifindex loaded) =
        (.ok others, final) ∧
      aggregates = ⟨plan.ifindex, members⟩ :: others := by
  rw [openPlans] at opens
  rcases isOpen : plan.openUdp settings host localPort (programs plan.ifindex) with
    ⟨stop | members, loaded⟩
  · rw [isOpen] at opens
    cases opens
  · rw [isOpen] at opens
    rcases areOpen : openPlans settings localPort order
      (Function.update programs plan.ifindex loaded) with ⟨stop | others, _⟩
    · rw [areOpen] at opens
      cases opens
    · rw [areOpen] at opens
      cases opens
      exact ⟨members, loaded, others, rfl, areOpen, rfl⟩

variable (filters : ∀ entry ∈ order, entry.1.portFilter = filter ∧ entry.2.binds.undo = true)
  (opens : openPlans settings localPort order programs = (.ok aggregates, final))

include filters opens

/-- The filter of a program is complete once a plan of its interface is open. -/
theorem Fills.openPlans {ifindex : IfIndex}
    (fills : Fills filter localPort isOpen (programs ifindex).program) :
    Fills filter localPort (isOpen ∨ ∃ entry ∈ order, entry.1.ifindex = ifindex)
      (final ifindex).program := by
  induction order generalizing programs aggregates isOpen with
  | nil =>
    cases opens
    exact fills.congr (by simp)
  | cons entry rest ih =>
    obtain ⟨plan, host⟩ := entry
    obtain ⟨⟨rfl, undone⟩, others⟩ := List.forall_mem_cons.mp filters
    obtain ⟨members, loaded, aggregates, isOpened, areOpened, rfl⟩ := openPlans_cons_eq_ok opens
    rw [List.exists_mem_cons_iff]
    by_cases same : plan.ifindex = ifindex
    · subst same
      have filled := Fills.openUdp isOpened undone fills
      rw [← Function.update_self plan.ifindex loaded programs] at filled
      exact (ih others areOpened filled).congr (by simp)
    · rw [← Function.update_of_ne (Ne.symm same) loaded programs] at fills
      exact (ih others areOpened fills).congr (by simp [same])

/-- Every plan is opened, and its members accept what the filter selects. -/
theorem accepts_of_openPlans :
    (∀ aggregate ∈ aggregates, ∀ member ∈ aggregate.members, ∀ port,
      member.acceptedPorts.accepts port = true ↔ filter.Selects localPort port) ∧
    ∀ entry ∈ order, ∃ aggregate ∈ aggregates,
      aggregate.ifindex = entry.1.ifindex ∧ aggregate.members ≠ [] := by
  induction order generalizing programs aggregates with
  | nil =>
    cases opens
    exact ⟨nofun, nofun⟩
  | cons entry rest ih =>
    obtain ⟨plan, host⟩ := entry
    obtain ⟨⟨rfl, _⟩, others⟩ := List.forall_mem_cons.mp filters
    obtain ⟨members, loaded, aggregates, isOpened, areOpened, rfl⟩ := openPlans_cons_eq_ok opens
    obtain ⟨someMembers, accepts⟩ := accepts_of_openUdp isOpened
    obtain ⟨othersAccept, opened⟩ := ih others areOpened
    refine ⟨List.forall_mem_cons.mpr ⟨accepts, othersAccept⟩, List.forall_mem_cons.mpr ⟨?_, ?_⟩⟩
    · exact ⟨_, List.mem_cons_self, rfl, someMembers⟩
    · intro entry isEntry
      obtain ⟨aggregate, isAggregate, isOf⟩ := opened entry isEntry
      exact ⟨aggregate, List.mem_cons_of_mem _ isAggregate, isOf⟩

end Plans

end FastSocket.Xdp
