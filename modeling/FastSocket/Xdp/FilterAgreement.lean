import FastSocket.Xdp.FilterFill

/-!
# Kernel filter and socket filter

On an interface that only one factory uses, the program redirects exactly the ports that
the members of the opened plans accept.
-/

namespace FastSocket.Xdp

open Ebpf Packet Transition

/-! ## Building -/

namespace XdpFactoryBuilder

/-- What is known of the program of an interface. -/
def ProgramAt (registry : Registry) (ifindex : IfIndex) (P : XdpProgram → Prop) : Prop :=
  ∀ attached, registry.lookup ifindex = some attached → P attached.program

variable {registry : Registry} {ifindex : IfIndex} {P : XdpProgram → Prop} {other : IfIndex}
  {claimed : List XdpQueueSlot} {programs : List IfIndex} {program : XdpProgram}
  {factory : XdpFactory} {built : Registry}

theorem ProgramAt.insert (known : ProgramAt registry ifindex P) {handle : AttachedProgram}
    (isNew : other = ifindex → P handle.program) :
    ProgramAt (registry.insert other handle) ifindex P := by
  intro attached found
  by_cases same : other = ifindex
  · rw [same, AList.lookup_insert] at found
    cases found
    exact isNew same
  · rw [AList.lookup_insert_ne (Ne.symm same)] at found
    exact known attached found

theorem ProgramAt.acquire (known : ProgramAt registry ifindex P) {attached : AttachedProgram}
    (found : registry.lookup other = some attached) :
    ProgramAt (registry.insert other attached.acquire) ifindex P :=
  known.insert fun same => known attached (same ▸ found)

theorem ProgramAt.cloneHandles (known : ProgramAt registry ifindex P)
    (plans : List XdpWorkerPlan) :
    ProgramAt (plans.foldl cloneHandle registry) ifindex P := by
  induction plans generalizing registry with
  | nil => exact known
  | cons plan rest ih =>
    apply ih
    rw [cloneHandle]
    split
    · exact known.acquire ‹_›
    · exact known

theorem ProgramAt.getOrLoadWithConfig {config : XdpProgramConfig}
    (valid : config.validate = .ok config)
    (fresh : ∀ program, XdpProgram.loadAndAttach config = .ok program → P program)
    (known : ProgramAt registry ifindex P) (other : IfIndex) (mode : AttachMode)
    (programHash : BitVec 64) (attaches : Bool) :
    ProgramAt (registry.getOrLoadWithConfig other mode config programHash attaches).2 ifindex P := by
  rw [Registry.getOrLoadWithConfig, valid]
  dsimp only
  split
  next existing found =>
    split
    · exact known
    · exact known.acquire found
  next =>
    split
    · exact known
    next program isLoaded =>
      split
      · exact known.insert fun _ => fresh program isLoaded
      · exact known

variable {host : FactoryHost} {builder : XdpFactoryBuilder}

theorem ProgramAt.loadPrograms {held : List IfIndex} {result : Except FactoryError Unit}
    {target : Registry} (valid : builder.portFilter.validate = .ok ())
    (fresh : ∀ program, XdpProgram.loadAndAttach builder.portFilter.programConfig = .ok program →
      P program) (known : ProgramAt registry ifindex P)
    (done : builder.loadPrograms host claimed programs registry = (result, held, target)) :
    ProgramAt target ifindex P := by
  induction claimed generalizing programs registry with
  | nil =>
    cases done
    exact known
  | cons slot rest ih =>
    rw [loadPrograms] at done
    split at done
    · exact ih known done
    · have loaded := known.getOrLoadWithConfig
        (validate_programConfig valid) fresh slot.ifindex builder.attachMode
        host.programHash (host.attaches slot.ifindex)
      split at done
      next failed =>
        cases done
        rwa [failed] at loaded
      next succeeded =>
        rw [succeeded] at loaded
        exact ih loaded done

/-- A program that has just been loaded, with the ports of a list bound. -/
theorem fills_of_loaded (valid : builder.portFilter.validate = .ok ())
    (isLoaded : XdpProgram.loadAndAttach builder.portFilter.programConfig = .ok program)
    (others : ∀ ports, builder.portFilter ≠ .udpPorts ports) (localPort : Word) :
    Fills builder.portFilter localPort False program := by
  obtain ⟨_, isSame, isConfig, unbound⟩ :=
    Registry.exists_loadAndAttach (validate_programConfig valid)
  cases isSame.symm.trans isLoaded
  refine ⟨isConfig, fun config => ?_, fun port => ?_⟩
  · rw [← isConfig, config] at isLoaded
    exact (PortLedger.Balanced.new isLoaded).exact
  · rw [XdpProgram.Accepts, isConfig]
    cases isFilter : builder.portFilter with
    | allIp => simp [PortFilter.programConfig, unbound]
    | udpPorts ports => exact absurd isFilter (others ports)
    | udpPortRange start stop => simp [PortFilter.programConfig, PortFilter.Selects]

theorem fills_of_bound {ports : List Word} (isFilter : builder.portFilter = .udpPorts ports)
    {target : XdpProgram} {writes : Nat → PortWrites}
    (undone : ∀ position, (writes position).undo = true)
    (isLoaded : XdpProgram.loadAndAttach builder.portFilter.programConfig = .ok program)
    (isBound : bindPorts writes ports program = (.ok (), target)) (localPort : Word) :
    Fills builder.portFilter localPort False target := by
  rw [isFilter] at isLoaded ⊢
  have exactLoaded : program.Exact := (PortLedger.Balanced.new isLoaded).exact
  obtain ⟨exact, members⟩ := bindPorts_spec undone exactLoaded isBound
  refine ⟨exact.config, fun _ => exact, fun port => ?_⟩
  cases isLoaded
  rw [accepts_iff_mem exact.config, members, PortFilter.Selects]
  simp

/-- A built factory has filled the filter of each program that only it uses. -/
theorem fills_of_build (undone : ∀ ifindex position, (host.portWrites ifindex position).undo = true)
    (isBuilt : builder.build host registry = (.ok factory, built))
    (isProgram : ifindex ∈ factory.programs) (unused : registry.lookup ifindex = none)
    (localPort : Word) : ProgramAt built ifindex (Fills builder.portFilter localPort False) := by
  have outcome := buildOutcome_build host builder registry
  rw [isBuilt] at outcome
  cases outcome with
  | @built claimed threads plans programs loaded bound isChecked isLoad isBind isPlan =>
    have valid := valid_of_checked isChecked
    have known : ProgramAt loaded ifindex fun program =>
        XdpProgram.loadAndAttach builder.portFilter.programConfig = .ok program := by
      refine ProgramAt.loadPrograms valid (fun _ isLoaded => isLoaded) ?_ isLoad
      intro attached found
      cases unused.symm.trans found
    apply ProgramAt.cloneHandles
    rcases fillPortFilter_cases valid programs loaded with
      ⟨port, ports, isFilter, isFill⟩ | ⟨others, isFill⟩
    · obtain ⟨holds, _⟩ := loaded_spec isChecked isLoad
      have inOrder := @bindsInOrder_bindPrograms host (port :: ports) programs
        loaded holds.ordered
      rw [← isFill, isBind] at inOrder
      have binds := inOrder.succeeds.mp rfl
      intro attached found
      rw [inOrder.reached ifindex isProgram fun earlier isEarlier _ => binds earlier isEarlier]
        at found
      obtain ⟨before, isBefore, rfl⟩ := Option.map_eq_some_iff.mp found
      exact fills_of_bound isFilter (undone ifindex) (known before isBefore)
        (Prod.ext (binds ifindex isProgram before isBefore) rfl) localPort
    · cases isFill.symm.trans isBind
      exact fun attached found => fills_of_loaded valid (known attached found) others localPort

/-- The plans carry the filter of the builder. -/
theorem portFilter_of_plans {threads : Nat} {plans : List XdpWorkerPlan}
    (planned : builder.plans host programs claimed threads = .ok plans) {plan : XdpWorkerPlan}
    (member : plan ∈ plans) : plan.portFilter = builder.portFilter := by
  obtain ⟨byNode, _, planned⟩ := bind_eq_ok_iff.mp planned
  obtain ⟨_, _, planned⟩ := bind_eq_ok_iff.mp planned
  obtain ⟨_, _, planned⟩ := bind_eq_ok_iff.mp planned
  obtain ⟨lists, areLists, ⟨⟩⟩ := bind_eq_ok_iff.mp planned
  obtain ⟨list, isList, inList⟩ := List.mem_flatten.mp member
  obtain ⟨group, _, isNode⟩ := exists_of_mem_forall₂ (mapM_eq_ok areLists) isList
  obtain ⟨_, _, isNode⟩ := bind_eq_ok_iff.mp isNode
  obtain ⟨_, _, isNode⟩ := bind_eq_ok_iff.mp isNode
  obtain ⟨cores, _, isNode⟩ := bind_eq_ok_iff.mp isNode
  obtain ⟨_, _, isNode⟩ := bind_eq_ok_iff.mp isNode
  obtain ⟨block, _, isBlock⟩ := exists_of_mem_forall₂ (mapM_eq_ok isNode) inList
  obtain ⟨_, _, isBlock⟩ := bind_eq_ok_iff.mp isBlock
  obtain ⟨_, _, isBlock⟩ := bind_eq_ok_iff.mp isBlock
  obtain ⟨_, _, isBlock⟩ := bind_eq_ok_iff.mp isBlock
  obtain ⟨_, _, isBlock⟩ := bind_eq_ok_iff.mp isBlock
  obtain ⟨_, _, ⟨⟩⟩ := bind_eq_ok_iff.mp isBlock
  rfl

/-- The plans of a factory have its filter, and each of its programs has one. -/
theorem plans_of_build (isBuilt : builder.build host registry = (.ok factory, built)) :
    (∀ plan ∈ factory.plans, plan.portFilter = builder.portFilter) ∧
      ∀ ifindex ∈ factory.programs, ∃ plan ∈ factory.plans, plan.ifindex = ifindex := by
  have outcome := buildOutcome_build host builder registry
  rw [isBuilt] at outcome
  cases outcome with
  | built isChecked isLoad isBind isPlan =>
    refine ⟨fun plan isPlan' => portFilter_of_plans isPlan isPlan', fun ifindex isProgram => ?_⟩
    obtain ⟨_, members, _⟩ := loaded_spec isChecked isLoad
    obtain ⟨slot, isSlot, rfl⟩ := (members ifindex).mp isProgram
    have pairs := (partitionsQueues_of_plans isPlan).pairs
    have isPair := pairs.mem_iff.mpr (List.mem_map_of_mem isSlot)
    obtain ⟨plan, isPlan, inPlan⟩ := List.mem_flatMap.mp isPair
    obtain ⟨_, _, same⟩ := List.mem_map.mp inPlan
    exact ⟨plan, isPlan, congrArg Prod.fst same⟩

end XdpFactoryBuilder

/-- Kernel filter and socket filter agree.  On each interface that only a factory uses, once
all of its plans are open, in any order, and all map writes have succeeded, the program
redirects a UDP port exactly if every member on the interface accepts it. -/
theorem filters_agree {host : FactoryHost} {builder : XdpFactoryBuilder} {registry built : Registry}
    {factory : XdpFactory} {settings : SharedOpenConfig} {localPort : Word}
    {order : List (XdpWorkerPlan × OpenHost)} {programs final : IfIndex → SocketProgram}
    {aggregates : List UdpAggregate} {ifindex : IfIndex}
    (buildWrites : ∀ ifindex position, host.portWrites ifindex position = .all)
    (isBuilt : builder.build host registry = (.ok factory, built))
    (isProgram : ifindex ∈ factory.programs) (unused : registry.lookup ifindex = none)
    (attached : ∃ attached, built.lookup ifindex = some attached ∧
      (programs ifindex).program = attached.program)
    (isOrder : (order.map Prod.fst).Perm factory.plans)
    (openWrites : ∀ entry ∈ order, entry.2.binds = .all)
    (opens : openPlans settings localPort order programs = (.ok aggregates, final)) (port : Word) :
    Redirects (final ifindex).program port ↔
      ∀ aggregate ∈ aggregates, aggregate.ifindex = ifindex →
        ∀ member ∈ aggregate.members, member.acceptedPorts.accepts port = true := by
  obtain ⟨sameFilter, hasPlan⟩ := XdpFactoryBuilder.plans_of_build isBuilt
  have filters : ∀ entry ∈ order,
      entry.1.portFilter = builder.portFilter ∧ entry.2.binds.undo = true := by
    intro entry isEntry
    refine ⟨sameFilter entry.1 (isOrder.mem_iff.mp (List.mem_map_of_mem isEntry)), ?_⟩
    rw [openWrites entry isEntry]
    rfl
  have isPlan : ∃ entry ∈ order, entry.1.ifindex = ifindex := by
    obtain ⟨plan, isPlan, onInterface⟩ := hasPlan ifindex isProgram
    obtain ⟨entry, isEntry, rfl⟩ := List.mem_map.mp (isOrder.mem_iff.mpr isPlan)
    exact ⟨entry, isEntry, onInterface⟩
  obtain ⟨handle, found, isSame⟩ := attached
  have filled := XdpFactoryBuilder.fills_of_build (fun ifindex position => by rw [buildWrites]; rfl) isBuilt isProgram
    unused localPort handle found
  rw [← isSame] at filled
  have fills := filled.openPlans filters opens
  obtain ⟨accepts, opened⟩ := accepts_of_openPlans filters opens
  have selects : Redirects (final ifindex).program port ↔
      builder.portFilter.Selects localPort port := by
    rw [redirects_iff_accepts (final ifindex).wellFormed fills.exact, fills.accepts]
    exact and_iff_left fun _ => .inr isPlan
  rw [selects]
  constructor
  · intro selected aggregate isAggregate _ member isMember
    exact (accepts aggregate isAggregate member isMember port).mpr selected
  · intro accepted
    obtain ⟨entry, isEntry, rfl⟩ := isPlan
    obtain ⟨aggregate, isAggregate, onInterface, someMembers⟩ := opened entry isEntry
    obtain ⟨member, isMember⟩ := List.exists_mem_of_ne_nil _ someMembers
    exact (accepts aggregate isAggregate member isMember port).mp
      (accepted aggregate isAggregate onInterface member isMember)

section Sample

open SharedOpenConfig XdpFactoryBuilder

/-- The plans of a factory without ports of its own, opened from the last to the first. -/
def sampleOrder : List (XdpWorkerPlan × OpenHost) :=
  twoPlans.reverse.map (·, sampleOpenHost fun _ => true)

theorem filters_agree_twoThreads :
    ∃ aggregates final, openPlans sampleOpen 5001#16 sampleOrder
        (fun _ => unusedProgram) = (.ok aggregates, final) ∧
      (Redirects (final 2).program 5001#16 ↔
        ∀ aggregate ∈ aggregates, aggregate.ifindex = 2 →
          ∀ member ∈ aggregate.members, member.acceptedPorts.accepts 5001#16 = true) := by
  have opens : (openPlans sampleOpen 5001#16 sampleOrder
      fun _ => unusedProgram).1.toOption.isSome = true := by decide +kernel
  have built : (twoThreads.build twoNodes ∅).1 =
      .ok { plans := twoPlans, programs := [2, 3] } := by decide +kernel
  have isLoaded : ((twoThreads.build twoNodes ∅).2.lookup 2).map
      (·.program) = some unusedProgram.program := by rfl
  obtain ⟨attached, found, isSame⟩ := Option.map_eq_some_iff.mp isLoaded
  have isOrder : (sampleOrder.map Prod.fst).Perm twoPlans :=
    List.reverse_perm twoPlans
  rcases areOpen : openPlans sampleOpen 5001#16 sampleOrder
    (fun _ => unusedProgram) with ⟨stop | aggregates, final⟩
  · rw [areOpen] at opens
    cases opens
  · refine ⟨aggregates, final, rfl, ?_⟩
    exact filters_agree (fun _ _ => rfl) (Prod.ext built rfl) List.mem_cons_self rfl
      ⟨attached, found, isSame.symm⟩ isOrder
      (by simp [sampleOrder, sampleOpenHost]) areOpen 5001#16

end Sample

end FastSocket.Xdp
