import FastSocket.Xdp.FactoryPartition

/-!
# Built factories

A factory that is built partitions the claimed queues exactly, and no index or block
operation of the build is out of range.
-/

namespace FastSocket.Xdp

open Ebpf Packet Sorting Transition

/-- The plans take the claimed queues apart into blocks, one for each thread: each block
on one interface and one node, as large as the others of its node, with a CPU of the
node.  By default the CPUs of a node are distinct as far as it has enough of them. -/
structure PartitionsQueues (host : FactoryHost) (builder : XdpFactoryBuilder)
    (claimed : List XdpQueueSlot) (threads : Nat) (plans : List XdpWorkerPlan) : Prop where
  pairs : (plans.flatMap fun plan => plan.queues.map fun queue => (plan.ifindex, queue)).Perm
    (claimed.map fun slot => (slot.ifindex, slot.queue))
  count : plans.length = threads
  blocks : ∃ cpuNode blocks, XdpFactoryBuilder.buildCpuNodeMap host = .ok cpuNode ∧
    blocks.flatten.Perm claimed ∧
    List.Forall₂ (fun block plan => ∃ node, plan.Drives node block ∧
      ∀ slot ∈ block, XdpFactoryBuilder.queueNumaNode host cpuNode slot = .ok node) blocks plans
  equal : ∀ plan ∈ plans, ∀ other ∈ plans, plan.numa = other.numa →
    plan.queues.length = other.queues.length
  cpu : ∀ plan ∈ plans, ∃ node cores, plan.numa = some node ∧
    host.coresForNumaNode node = some cores ∧ plan.cpu ∈ cores
  distinct : builder.coreAssignment = none →
    ∀ node cores, host.coresForNumaNode node = some cores → cores.Nodup →
      (plans.filter (·.numa = some node)).length ≤ cores.length →
      ((plans.filter (·.numa = some node)).map (·.cpu)).Nodup

namespace XdpFactoryBuilder

variable {host : FactoryHost} {builder : XdpFactoryBuilder} {programs : List IfIndex}
  {claimed : List XdpQueueSlot} {threads : Nat} {plans : List XdpWorkerPlan}

theorem flatMap_pairs {blocks : List (List XdpQueueSlot)} {on : List XdpQueueSlot → NumaNode → Prop}
    (drives : List.Forall₂ (fun block plan => ∃ node, plan.Drives node block ∧ on block node)
      blocks plans) :
    (plans.flatMap fun plan => plan.queues.map fun queue => (plan.ifindex, queue)) =
      blocks.flatten.map fun slot => (slot.ifindex, slot.queue) := by
  induction drives with
  | nil => rfl
  | @cons block plan _ _ first _ ih =>
    obtain ⟨node, isPlan, _⟩ := first
    rw [List.flatMap_cons, ih, List.flatten_cons, List.map_append, isPlan.queues, List.map_map]
    congr 1
    apply List.map_congr_left
    intro slot member
    rw [Function.comp_apply, isPlan.ifindex slot member]

theorem partitionsQueues_of_plans
    (planned : builder.plans host programs claimed threads = .ok plans) :
    PartitionsQueues host builder claimed threads plans := by
  rw [XdpFactoryBuilder.plans] at planned
  obtain ⟨byNode, isGrouped, planned⟩ := bind_eq_ok_iff.mp planned
  obtain ⟨_, divides, planned⟩ := bind_eq_ok_iff.mp planned
  obtain ⟨_, _, planned⟩ := bind_eq_ok_iff.mp planned
  obtain ⟨lists, areLists, isFlatten⟩ := bind_eq_ok_iff.mp planned
  cases isFlatten
  obtain ⟨cpuNode, isMap, grouped⟩ := grouped_of_groupByNode isGrouped
  have nodes := (mapM_eq_ok areLists).imp fun _ _ isPlanned => plansNode_of_planNode isPlanned
  obtain ⟨blocks, perm, drives⟩ := exists_blocks nodes
  have onNode : List.Forall₂ (fun block plan => ∃ node, plan.Drives node block ∧
      ∀ slot ∈ block, queueNumaNode host cpuNode slot = .ok node) blocks lists.flatten := by
    refine drives.imp ?_
    rintro block plan ⟨group, isGroup, subset, isPlan⟩
    exact ⟨group.1, isPlan, fun slot member => grouped.keys group isGroup slot (subset member)⟩
  have permClaimed := perm.trans grouped.perm
  constructor
  · rw [flatMap_pairs onNode]
    exact permClaimed.map _
  · rw [length_flatten_plans nodes]
    exact Nat.mul_div_cancel' (ensure_eq_ok.mp divides)
  · exact ⟨cpuNode, blocks, isMap, permClaimed, onNode⟩
  · intro plan member other otherMember same
    obtain ⟨group, isGroup, _, _, inList, isPlanned⟩ := exists_group nodes member
    obtain ⟨otherGroup, isOther, _, _, inOther, otherPlanned⟩ := exists_group nodes otherMember
    rw [isPlanned.numa plan inList, otherPlanned.numa other inOther, Option.some.injEq] at same
    rw [isPlanned.size plan inList, otherPlanned.size other inOther,
      grouped.eq_of_key_eq isGroup isOther same]
  · intro plan member
    obtain ⟨group, _, _, _, inList, isPlanned⟩ := exists_group nodes member
    obtain ⟨cores, isCores, inCores, _⟩ := isPlanned.cpus
    exact ⟨group.1, cores, isPlanned.numa plan inList, isCores, inCores plan inList⟩
  · intro byDefault node cores isCores nodup enough
    rcases filter_numa_flatten grouped.ordered nodes node with none | ⟨group, _, rfl, isPlanned⟩
    · rw [none]
      exact List.nodup_nil
    · obtain ⟨nodeCores, isNodeCores, _, distinct⟩ := isPlanned.cpus
      cases isNodeCores.symm.trans isCores
      exact distinct byDefault nodup enough

/-! ## Whole builds -/

theorem checked_eq_ok (isChecked : builder.checked = .ok (claimed, threads)) :
    builder.claimedSlotsChecked = .ok claimed ∧ claimed ≠ [] ∧ threads ≠ 0 := by
  rw [checked] at isChecked
  obtain ⟨_, _, isChecked⟩ := bind_eq_ok_iff.mp isChecked
  obtain ⟨_, isClaimed, isChecked⟩ := bind_eq_ok_iff.mp isChecked
  obtain ⟨_, someClaimed, isChecked⟩ := bind_eq_ok_iff.mp isChecked
  obtain ⟨_, someThreads, isChecked⟩ := bind_eq_ok_iff.mp isChecked
  cases isChecked
  exact ⟨isClaimed, ensure_eq_ok.mp someClaimed, ensure_eq_ok.mp someThreads⟩

/-- Every claimed interface has its program loaded. -/
theorem mem_loadPrograms {loaded : List IfIndex} {registry target : Registry}
    (done : builder.loadPrograms host claimed programs registry = (.ok (), loaded, target)) :
    programs ⊆ loaded ∧ ∀ slot ∈ claimed, slot.ifindex ∈ loaded := by
  induction claimed generalizing programs registry with
  | nil =>
    cases done
    exact ⟨fun _ member => member, nofun⟩
  | cons slot rest ih =>
    rw [loadPrograms] at done
    split at done
    case isTrue already =>
      obtain ⟨kept, others⟩ := ih done
      exact ⟨kept, List.forall_mem_cons.mpr ⟨kept already, others⟩⟩
    case isFalse =>
      split at done
      · cases done
      · obtain ⟨kept, others⟩ := ih done
        refine ⟨fun _ member => kept ((List.mem_orderedInsert _).mpr (.inr member)), ?_⟩
        exact List.forall_mem_cons.mpr ⟨kept ((List.mem_orderedInsert _).mpr (.inl rfl)), others⟩

/-- The ways a build can go: its checks, a load, a bind or the placement stops it, or it
returns a factory. -/
inductive BuildOutcome (host : FactoryHost) (builder : XdpFactoryBuilder) (registry : Registry) :
    Except (Stop FactoryError) XdpFactory × Registry → Prop
  | unchecked {error : FactoryError} (isChecked : builder.checked = .error error) :
      BuildOutcome host builder registry (.error (.failed error), registry)
  | unloaded {claimed : List XdpQueueSlot} {threads : Nat} {error : FactoryError}
      {programs : List IfIndex} {loaded : Registry}
      (isChecked : builder.checked = .ok (claimed, threads))
      (isLoad : builder.loadPrograms host claimed [] registry = (.error error, programs, loaded)) :
      BuildOutcome host builder registry (.error (.failed error), releaseAll programs loaded)
  | unbound {claimed : List XdpQueueSlot} {threads : Nat} {error : FactoryError}
      {programs : List IfIndex} {loaded bound : Registry}
      (isChecked : builder.checked = .ok (claimed, threads))
      (isLoad : builder.loadPrograms host claimed [] registry = (.ok (), programs, loaded))
      (isBind : builder.fillPortFilter host programs loaded = (.error error, bound)) :
      BuildOutcome host builder registry (.error (.failed error), releaseAll programs bound)
  | unplaced {claimed : List XdpQueueSlot} {threads : Nat} {stop : Stop FactoryError}
      {programs : List IfIndex} {loaded bound : Registry}
      (isChecked : builder.checked = .ok (claimed, threads))
      (isLoad : builder.loadPrograms host claimed [] registry = (.ok (), programs, loaded))
      (isBind : builder.fillPortFilter host programs loaded = (.ok (), bound))
      (isPlan : builder.plans host programs claimed threads = .error stop) :
      BuildOutcome host builder registry (.error stop, releaseAll programs bound)
  | built {claimed : List XdpQueueSlot} {threads : Nat} {plans : List XdpWorkerPlan}
      {programs : List IfIndex} {loaded bound : Registry}
      (isChecked : builder.checked = .ok (claimed, threads))
      (isLoad : builder.loadPrograms host claimed [] registry = (.ok (), programs, loaded))
      (isBind : builder.fillPortFilter host programs loaded = (.ok (), bound))
      (isPlan : builder.plans host programs claimed threads = .ok plans) :
      BuildOutcome host builder registry
        (.ok { plans := plans, programs := programs }, plans.foldl cloneHandle bound)

theorem buildOutcome_build (host : FactoryHost) (builder : XdpFactoryBuilder)
    (registry : Registry) :
    BuildOutcome host builder registry (builder.build host registry) := by
  rw [build]
  cases isChecked : builder.checked with
  | error error => exact .unchecked isChecked
  | ok job =>
    obtain ⟨claimed, threads⟩ := job
    dsimp only
    rcases isLoad : builder.loadPrograms host claimed [] registry with ⟨_ | _, programs, loaded⟩
    · exact .unloaded isChecked isLoad
    · dsimp only
      rcases isBind : builder.fillPortFilter host programs loaded with ⟨_ | _, bound⟩
      · exact .unbound isChecked isLoad isBind
      · dsimp only
        cases isPlan : builder.plans host programs claimed threads with
        | error stop => exact .unplaced isChecked isLoad isBind isPlan
        | ok plans => exact .built isChecked isLoad isBind isPlan

/-- If every node has a CPU, a build never stops the program, and a factory that it
returns has one plan for each thread, which take the claimed queues apart. -/
theorem factory_partitions_queues (host : FactoryHost) (builder : XdpFactoryBuilder)
    (registry : Registry)
    (someCores : ∀ node cores, host.coresForNumaNode node = some cores → cores ≠ []) :
    NoPanic (builder.build host registry).1 ∧
      ∀ factory, (builder.build host registry).1 = .ok factory →
        ∃ claimed threads, builder.checked = .ok (claimed, threads) ∧
          PartitionsQueues host builder claimed threads factory.plans := by
  have outcome := buildOutcome_build host builder registry
  generalize builder.build host registry = result at outcome
  cases outcome with
  | unchecked => exact ⟨.failed _, nofun⟩
  | unloaded => exact ⟨.failed _, nofun⟩
  | unbound => exact ⟨.failed _, nofun⟩
  | unplaced isChecked isLoad _ isPlan =>
    obtain ⟨_, someClaimed, someThreads⟩ := checked_eq_ok isChecked
    refine ⟨?_, nofun⟩
    have placed := @noPanic_plans host builder _ _ _ someCores someClaimed someThreads
      (mem_loadPrograms isLoad).2
    rw [isPlan] at placed
    intro panics
    cases panics
    exact placed rfl
  | built isChecked _ _ isPlan =>
    refine ⟨.ok _, ?_⟩
    rintro _ ⟨⟩
    exact ⟨_, _, isChecked, partitionsQueues_of_plans isPlan⟩

/-- A host with two nodes of two CPUs each, and one interface on each node. -/
def twoNodes : FactoryHost :=
  { programHash := 0
    attaches := fun _ => true
    portWrites := fun _ _ => { port := true, count := true, undo := true }
    onlineNumaNodes := some [0, 1]
    cpusForNumaNode := fun node => some [2 * node, 2 * node + 1]
    cpuForXdpQueue := fun slot => some (2 * (slot.ifindex - 2) + slot.queue)
    ifIndexToName := fun _ => none
    numaNodeForInterface := fun _ => none
    coresForNumaNode := fun node => some [2 * node, 2 * node + 1] }

/-- Claims two queues of each interface for two threads. -/
def twoThreads : XdpFactoryBuilder :=
  { slots := [
      { iface := "eth1", ifindex := 3, queue := 0, flatIndex := 0 },
      { iface := "eth0", ifindex := 2, queue := 0, flatIndex := 1 },
      { iface := "eth1", ifindex := 3, queue := 1, flatIndex := 2 },
      { iface := "eth0", ifindex := 2, queue := 1, flatIndex := 3 }]
    claim := .all
    threads := some 2
    portFilter := .allIp
    attachMode := .drv
    coreAssignment := none }

def twoPlans : List XdpWorkerPlan :=
  [{ cpu := 0, numa := some 0, ifindex := 2, queues := [0, 1], queueId := 0, portFilter := .allIp },
    { cpu := 2, numa := some 1, ifindex := 3, queues := [0, 1], queueId := 0,
      portFilter := .allIp }]

theorem factory_partitions_queues_twoThreads :
    (∀ node cores, twoNodes.coresForNumaNode node = some cores → cores ≠ []) ∧
      (twoThreads.build twoNodes ∅).1 = .ok { plans := twoPlans, programs := [2, 3] } ∧
      PartitionsQueues twoNodes twoThreads twoThreads.slots 2 twoPlans := by
  have someCores : ∀ node cores, twoNodes.coresForNumaNode node = some cores → cores ≠ [] := by
    rintro node _ ⟨⟩
    exact List.cons_ne_nil _ _
  have built : (twoThreads.build twoNodes ∅).1 =
      .ok { plans := twoPlans, programs := [2, 3] } := by
    decide +kernel
  obtain ⟨_, _, isChecked, partitions⟩ :=
    (factory_partitions_queues twoNodes twoThreads ∅ someCores).2 _ built
  cases isChecked
  exact ⟨someCores, built, partitions⟩

end XdpFactoryBuilder

end FastSocket.Xdp
