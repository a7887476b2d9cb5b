import FastSocket.Xdp.FactoryBuild
import FastSocket.Xdp.FactoryFilter
import FastSocket.Xdp.FactoryPlacement

/-!
# Failed builds and port filters

A build that fails drops its handles of the programs but does not unbind the ports that
it has bound.  The users of a program that was attached before then see ports that
nobody uses.
-/

namespace FastSocket.Xdp

open Ebpf Packet Sorting Transition

/-- The users of the ports of every program that was attached are the same, and so are
the ports whose packets it takes. -/
def KeepsPortFilters (registry target : Registry) : Prop :=
  ∀ ifindex attached, registry.lookup ifindex = some attached →
    ∃ after, target.lookup ifindex = some after ∧
      ∀ port, after.program.refcount port = attached.program.refcount port ∧
        (after.program.Accepts port ↔ attached.program.Accepts port)

theorem KeepsPortFilters.refl (registry : Registry) : KeepsPortFilters registry registry :=
  fun _ attached found => ⟨attached, found, fun _ => ⟨rfl, Iff.rfl⟩⟩

/-- The users of the ports of an attached program; none if there is no program. -/
def portCounts : Option AttachedProgram → Word → Nat
  | some attached => attached.program.refcount
  | none => fun _ => 0

namespace XdpFactoryBuilder

/-- The program of an interface takes all ports of a filter. -/
def TakesPorts (host : FactoryHost) (registry : Registry) (ports : List Word)
    (ifindex : IfIndex) : Prop :=
  BindsPorts (portCounts (registry.lookup ifindex)) (host.portWrites ifindex) ports

/-- A program that was attached before takes the first port, and so it has to come to it:
the programs of the interfaces before it take all ports. -/
def BindsShared (host : FactoryHost) (registry : Registry) (claimed : List XdpQueueSlot)
    (port : Word) (ports : List Word) : Prop :=
  ∃ slot ∈ claimed, ∃ attached, registry.lookup slot.ifindex = some attached ∧
    attached.program.BindsPort port (host.portWrites slot.ifindex 0) ∧
    ∀ other ∈ claimed, other.ifindex < slot.ifindex →
      TakesPorts host registry (port :: ports) other.ifindex

/-- A build that binds a port in a program that was attached before, and then fails: the
checks and the loads pass, but then a program does not take a port or the placement is
refused. -/
inductive LeaksPorts (host : FactoryHost) (builder : XdpFactoryBuilder) (registry : Registry) : Prop
  | intro {claimed : List XdpQueueSlot} {threads : Nat} {port : Word} {ports : List Word}
      (isChecked : builder.checked = .ok (claimed, threads))
      (isFilter : builder.portFilter = .udpPorts (port :: ports))
      (loads : ∀ slot ∈ claimed, builder.LoadsAt host registry slot.ifindex)
      (shared : BindsShared host registry claimed port ports)
      (fails : (∃ slot ∈ claimed, ¬ TakesPorts host registry (port :: ports) slot.ifindex) ∨
        PlacementFails host builder claimed threads) :
      LeaksPorts host builder registry

variable {host : FactoryHost} {builder : XdpFactoryBuilder} {registry : Registry}

theorem valid_of_checked {claimed : List XdpQueueSlot} {threads : Nat}
    (isChecked : builder.checked = .ok (claimed, threads)) :
    builder.portFilter.validate = .ok () := by
  obtain ⟨_, valid, _⟩ := bind_eq_ok_iff.mp isChecked
  exact valid

theorem validate_programConfig {filter : PortFilter} (valid : filter.validate = .ok ()) :
    filter.programConfig.validate = .ok filter.programConfig := by
  cases filter with
  | allIp => rfl
  | udpPorts ports => rfl
  | udpPortRange start stop =>
    rw [PortFilter.validate] at valid
    rw [PortFilter.programConfig, XdpProgramConfig.validate]
    split at valid
    · cases valid
    · split at valid
      · cases valid
      case isFalse ordered enabled => rw [if_neg ordered, if_neg enabled]

/-! ## The bind phase -/

section Bound

variable {claimed : List XdpQueueSlot} {programs : List IfIndex} {loaded : Registry}

/-- The users of the ports of a program that the factory holds. -/
theorem program_of_handle {existing : Option AttachedProgram} {mode : AttachMode}
    {config : XdpProgramConfig} {programHash : BitVec 64} {attaches : Bool}
    {handle : AttachedProgram} (loads : Registry.Loads existing mode config programHash attaches)
    (isHandle : Registry.IsHandle existing config handle) :
    handle.program.config = config ∧ handle.program.refcount = portCounts existing := by
  cases existing with
  | some attached =>
    cases isHandle
    exact ⟨loads.2.2, rfl⟩
  | none =>
    refine ⟨isHandle.1, funext fun port => ?_⟩
    rw [XdpProgram.refcount, isHandle.2, AList.lookup_empty]
    rfl

theorem bindsAt_iff (isConfig : builder.portFilter.programConfig = .boundPorts)
    (holds : Holds registry builder.portFilter.programConfig programs loaded) {ifindex : IfIndex}
    (member : ifindex ∈ programs) (loads : builder.LoadsAt host registry ifindex)
    (ports : List Word) :
    BindsAt host ports loaded ifindex ↔ TakesPorts host registry ports ifindex := by
  obtain ⟨handle, isHeld, isHandle⟩ := holds.handles ifindex member
  obtain ⟨config, counts⟩ := program_of_handle loads isHandle
  have binds : (bindPorts (host.portWrites ifindex) ports handle.program).1 = .ok () ↔
      TakesPorts host registry ports ifindex := by
    rw [bindPorts_eq_ok_iff (config.trans isConfig), counts, TakesPorts]
  rw [BindsAt, isHeld]
  exact ⟨fun all => binds.mp (all handle rfl), fun takes => by rintro _ ⟨⟩; exact binds.mpr takes⟩

/-- The ports in use decide about the users of ports and about the ports that are taken. -/
theorem sameFilter_of_boundPorts {before after : XdpProgram}
    (config : after.config = before.config) (bound : after.boundPorts = before.boundPorts)
    (port : Word) :
    after.refcount port = before.refcount port ∧ (after.Accepts port ↔ before.Accepts port) := by
  rw [XdpProgram.refcount, XdpProgram.Accepts, config, bound]
  exact ⟨rfl, Iff.rfl⟩

variable {port : Word} {ports : List Word} {ifindex : IfIndex} {attached : AttachedProgram}

theorem config_of_loadsAt (loads : builder.LoadsAt host registry ifindex)
    (shared : registry.lookup ifindex = some attached) :
    attached.program.config = builder.portFilter.programConfig := by
  rw [LoadsAt, shared] at loads
  exact loads.2.2

variable {bound : Registry}

/-- What is left of a program that was attached before, if the bind phase reaches it. -/
theorem lookup_release_reached
    (holds : Holds registry builder.portFilter.programConfig programs loaded)
    (member : ifindex ∈ programs) (shared : registry.lookup ifindex = some attached)
    (reached : bound.lookup ifindex =
      (loaded.lookup ifindex).map (bindAttached host ports ifindex)) :
    (releaseAll programs bound).lookup ifindex = some (bindAttached host ports ifindex attached) := by
  obtain ⟨handle, isHeld, isHandle⟩ := holds.handles ifindex member
  rw [shared] at isHandle
  cases isHandle
  rw [isHeld] at reached
  exact lookup_releaseAll_of_mem holds.ordered member reached

theorem lookup_release_unreached
    (holds : Holds registry builder.portFilter.programConfig programs loaded)
    (shared : registry.lookup ifindex = some attached)
    (unreached : bound.lookup ifindex = loaded.lookup ifindex) :
    (releaseAll programs bound).lookup ifindex = some attached := by
  by_cases member : ifindex ∈ programs
  · obtain ⟨handle, isHeld, isHandle⟩ := holds.handles ifindex member
    rw [shared] at isHandle
    cases isHandle
    exact lookup_releaseAll_of_mem holds.ordered member (unreached.trans isHeld)
  · rw [lookup_releaseAll_of_not_mem member, unreached, holds.others ifindex member, shared]

/-- The handles of a load, dropped again. -/
theorem Holds.keepsPortFilters
    (holds : Holds registry builder.portFilter.programConfig programs loaded) :
    KeepsPortFilters registry (releaseAll programs loaded) :=
  fun _ attached shared =>
    ⟨attached, lookup_release_unreached holds shared rfl, fun _ => ⟨rfl, Iff.rfl⟩⟩

/-- Binding the ports and dropping the handles keeps the filters unless a port has been
bound in a program that was attached before. -/
theorem keepsPortFilters_bindPrograms_iff {result : Except FactoryError Unit}
    (isConfig : builder.portFilter.programConfig = .boundPorts)
    (holds : Holds registry builder.portFilter.programConfig programs loaded)
    (members : ∀ ifindex, ifindex ∈ programs ↔ ∃ slot ∈ claimed, slot.ifindex = ifindex)
    (loads : ∀ slot ∈ claimed, builder.LoadsAt host registry slot.ifindex)
    (isBind : bindPrograms host (port :: ports) programs loaded = (result, bound)) :
    KeepsPortFilters registry (releaseAll programs bound) ↔
      ¬ BindsShared host registry claimed port ports := by
  have inOrder : BindsInOrder host (port :: ports) programs loaded (result, bound) :=
    isBind ▸ bindsInOrder_bindPrograms holds.ordered
  have takes : ∀ slot ∈ claimed, BindsAt host (port :: ports) loaded slot.ifindex ↔
      TakesPorts host registry (port :: ports) slot.ifindex := fun slot member =>
    bindsAt_iff isConfig holds ((members _).mpr ⟨slot, member, rfl⟩) (loads slot member) _
  have reached : ∀ slot ∈ claimed, ∀ attached, registry.lookup slot.ifindex = some attached →
      (∀ other ∈ claimed, other.ifindex < slot.ifindex →
        TakesPorts host registry (port :: ports) other.ifindex) →
      (releaseAll programs bound).lookup slot.ifindex =
        some (bindAttached host (port :: ports) slot.ifindex attached) := by
    intro slot isSlot attached shared earlierTake
    have member := (members _).mpr ⟨slot, isSlot, rfl⟩
    apply lookup_release_reached holds member shared (inOrder.reached _ member _)
    intro earlier isEarlier less
    obtain ⟨other, isOther, rfl⟩ := (members earlier).mp isEarlier
    exact (takes other isOther).mpr (earlierTake other isOther less)
  constructor
  · rintro keeps ⟨slot, isSlot, attached, shared, binds, earlierTake⟩
    obtain ⟨after, isAfter, same⟩ := keeps slot.ifindex attached shared
    cases isAfter.symm.trans (reached slot isSlot attached shared earlierTake)
    have config := (config_of_loadsAt (loads slot isSlot) shared).trans isConfig
    exact (refcount_lt_bindPorts config ports binds).ne' (same port).1
  · intro unshared ifindex attached shared
    by_cases unreached : bound.lookup ifindex = loaded.lookup ifindex
    · exact ⟨attached, lookup_release_unreached holds shared unreached, fun _ => ⟨rfl, Iff.rfl⟩⟩
    · have member : ifindex ∈ programs := by
        by_contra outside
        exact unreached (inOrder.others ifindex outside)
      obtain ⟨slot, isSlot, rfl⟩ := (members ifindex).mp member
      have earlierTake : ∀ other ∈ claimed, other.ifindex < slot.ifindex →
          TakesPorts host registry (port :: ports) other.ifindex := by
        intro other isOther less
        rw [← takes other isOther]
        by_contra refused
        exact unreached (inOrder.unreached _
          ⟨other.ifindex, (members _).mpr ⟨other, isOther, rfl⟩, less, refused⟩)
      have config := (config_of_loadsAt (loads slot isSlot) shared).trans isConfig
      have refused : ¬ attached.program.BindsPort port (host.portWrites slot.ifindex 0) :=
        fun binds => unshared ⟨slot, isSlot, attached, shared, binds, earlierTake⟩
      obtain ⟨sameConfig, sameBound⟩ := boundPorts_bindPorts config ports refused
      exact ⟨_, reached slot isSlot attached shared earlierTake,
        sameFilter_of_boundPorts (sameConfig.trans config.symm) sameBound⟩

/-- The bind phase succeeds exactly if every program takes all ports. -/
theorem bindPrograms_eq_ok_iff (isConfig : builder.portFilter.programConfig = .boundPorts)
    (holds : Holds registry builder.portFilter.programConfig programs loaded)
    (members : ∀ ifindex, ifindex ∈ programs ↔ ∃ slot ∈ claimed, slot.ifindex = ifindex)
    (loads : ∀ slot ∈ claimed, builder.LoadsAt host registry slot.ifindex) :
    (bindPrograms host ports programs loaded).1 = .ok () ↔
      ∀ slot ∈ claimed, TakesPorts host registry ports slot.ifindex := by
  rw [(bindsInOrder_bindPrograms holds.ordered).succeeds]
  constructor
  · intro binds slot isSlot
    have member := (members _).mpr ⟨slot, isSlot, rfl⟩
    exact (bindsAt_iff isConfig holds member (loads slot isSlot) ports).mp (binds _ member)
  · intro takes ifindex member
    obtain ⟨slot, isSlot, rfl⟩ := (members ifindex).mp member
    exact (bindsAt_iff isConfig holds member (loads slot isSlot) ports).mpr (takes slot isSlot)

end Bound

/-! ## Whole builds -/

/-- The ways the filter can be filled: the ports of a list are bound, or there is nothing
to bind. -/
theorem fillPortFilter_cases (valid : builder.portFilter.validate = .ok ())
    (programs : List IfIndex) (loaded : Registry) :
    (∃ port ports, builder.portFilter = .udpPorts (port :: ports) ∧
      builder.fillPortFilter host programs loaded =
        bindPrograms host (port :: ports) programs loaded) ∨
    (∀ ports, builder.portFilter ≠ .udpPorts ports) ∧
      builder.fillPortFilter host programs loaded = (.ok (), loaded) := by
  rw [fillPortFilter]
  cases isFilter : builder.portFilter with
  | udpPorts ports =>
    cases ports with
    | nil =>
      rw [isFilter] at valid
      cases valid
    | cons port ports => exact .inl ⟨port, ports, rfl, rfl⟩
  | allIp => exact .inr ⟨nofun, rfl⟩
  | udpPortRange start stop => exact .inr ⟨nofun, rfl⟩

variable {ports : List Word}

theorem programConfig_of_udpPorts (isFilter : builder.portFilter = .udpPorts ports) :
    builder.portFilter.programConfig = .boundPorts := by
  rw [isFilter]
  rfl

section Builds

variable {claimed : List XdpQueueSlot} {threads : Nat} {programs : List IfIndex}
  {loaded bound : Registry}

/-- What the factory holds after the loads. -/
theorem loaded_spec (isChecked : builder.checked = .ok (claimed, threads))
    (isLoad : builder.loadPrograms host claimed [] registry = (.ok (), programs, loaded)) :
    Holds registry builder.portFilter.programConfig programs loaded ∧
      (∀ ifindex, ifindex ∈ programs ↔ ∃ slot ∈ claimed, slot.ifindex = ifindex) ∧
      ∀ slot ∈ claimed, builder.LoadsAt host registry slot.ifindex := by
  have valid := validate_programConfig (valid_of_checked isChecked)
  obtain ⟨holds, members, succeeds⟩ := Holds.loadPrograms valid (.nil registry _) isLoad
  refine ⟨holds, fun ifindex => ?_, fun slot member => ?_⟩
  · rw [members rfl, or_iff_right List.not_mem_nil]
  · exact (succeeds.mp rfl slot member).resolve_left List.not_mem_nil

variable {port : Word}

theorem leaksPorts_iff (isChecked : builder.checked = .ok (claimed, threads))
    (isFilter : builder.portFilter = .udpPorts (port :: ports))
    (loads : ∀ slot ∈ claimed, builder.LoadsAt host registry slot.ifindex) :
    builder.LeaksPorts host registry ↔
      BindsShared host registry claimed port ports ∧
        ((∃ slot ∈ claimed, ¬ TakesPorts host registry (port :: ports) slot.ifindex) ∨
          PlacementFails host builder claimed threads) := by
  constructor
  · rintro ⟨isLeak, isLeakFilter, _, shared, fails⟩
    cases isChecked.symm.trans isLeak
    cases isFilter.symm.trans isLeakFilter
    exact ⟨shared, fails⟩
  · rintro ⟨shared, fails⟩
    exact ⟨isChecked, isFilter, loads, shared, fails⟩

theorem not_leaksPorts_of_filter (isOther : ∀ ports, builder.portFilter ≠ .udpPorts ports) :
    ¬ builder.LeaksPorts host registry := by
  rintro ⟨_, isFilter, _⟩
  exact isOther _ isFilter

/-- A build past the bind phase leaks ports exactly if it has bound one in a program that
was attached before and its placement fails. -/
theorem leaksPorts_iff_of_bound (isChecked : builder.checked = .ok (claimed, threads))
    (isFilter : builder.portFilter = .udpPorts (port :: ports))
    (isLoad : builder.loadPrograms host claimed [] registry = (.ok (), programs, loaded))
    (isBind : bindPrograms host (port :: ports) programs loaded = (.ok (), bound)) :
    builder.LeaksPorts host registry ↔
      BindsShared host registry claimed port ports ∧
        ∃ error, builder.plans host programs claimed threads = .error (.failed error) := by
  obtain ⟨holds, members, loads⟩ := loaded_spec isChecked isLoad
  obtain ⟨_, someClaimed, someThreads⟩ := checked_eq_ok isChecked
  have isConfig := programConfig_of_udpPorts isFilter
  have takes := (bindPrograms_eq_ok_iff isConfig holds members loads).mp (congrArg Prod.fst isBind)
  rw [leaksPorts_iff isChecked isFilter loads,
    failed_plans_iff someClaimed someThreads (mem_loadPrograms isLoad).2, or_iff_right]
  rintro ⟨slot, member, refused⟩
  exact refused (takes slot member)

end Builds

theorem forall_failed_iff {property : Registry → Prop} {error : FactoryError} {left : Registry} :
    (∀ other target, ((.error (.failed error), left) :
        Except (Stop FactoryError) XdpFactory × Registry) = (.error (.failed other), target) →
      property target) ↔ property left := by
  constructor
  · exact fun all => all error left rfl
  · rintro holds _ _ ⟨⟩
    exact holds

/-- A program that someone else has attached to the first interface and uses for one
port. -/
def sharedProgram : AttachedProgram :=
  let fresh : XdpProgram := { config := .boundPorts, maps := .zeroed, boundPorts := ∅ }
  { program := (fresh.bindPort 443 { port := true, count := true, undo := true }).2
    mode := .drv
    programHash := 0
    users := 1
    users_pos := Nat.one_pos }

/-- Three threads cannot be shared out among the two nodes of the queues. -/
def threeThreads : XdpFactoryBuilder :=
  { twoThreads with threads := some 3, portFilter := .udpPorts [53] }

end XdpFactoryBuilder

end FastSocket.Xdp
