import FastSocket.Xdp.Factory

/-!
# Partition of the claimed queues

A factory's plans take the claimed queues apart exactly: every queue is in one plan, on
the interface and the NUMA node of the plan.  The plans of one node have equally many
queues, and CPUs of that node.
-/

namespace FastSocket.Xdp

open Packet Sorting Transition

/-- A plan drives the queues of a block, on one interface and one node. -/
structure XdpWorkerPlan.Drives (plan : XdpWorkerPlan) (node : NumaNode)
    (block : List XdpQueueSlot) : Prop where
  queues : plan.queues = block.map (·.queue)
  ifindex : ∀ slot ∈ block, slot.ifindex = plan.ifindex
  numa : plan.numa = some node

variable {host : FactoryHost} {builder : XdpFactoryBuilder} {programs : List IfIndex} {α : Type}
  {value : α}

theorem orFail_eq_ok {answer : Option α} {error : FactoryError} :
    orFail answer error = .ok value ↔ answer = some value := by
  cases answer <;> simp [orFail]

theorem orPanic_eq_ok {element : Option α} :
    orPanic element = .ok value ↔ element = some value := by
  cases element <;> simp [orPanic]

theorem noPanic_orFail (answer : Option α) (error : FactoryError) :
    NoPanic (orFail answer error) := by
  cases answer with
  | none => exact .failed error
  | some value => exact .ok value

namespace XdpFactoryBuilder

/-! ## One worker -/

variable {node : NumaNode} {cores : List Nat} {plan : XdpWorkerPlan} {plans : List XdpWorkerPlan}
  {threadsPerNode threads : Nat} {group : NumaNode × List XdpQueueSlot}
  {claimed slots : List XdpQueueSlot}

theorem chooseCpu_eq_ok {index cpu : Nat} (chosen : builder.chooseCpu node cores index = .ok cpu) :
    cpu ∈ cores ∧ (builder.coreAssignment = none → cores[index % cores.length]? = some cpu) := by
  rw [chooseCpu] at chosen
  cases assignment : builder.coreAssignment with
  | some assign =>
    simp only [assignment] at chosen
    split at chosen
    case isTrue member =>
      cases chosen
      exact ⟨member, nofun⟩
    case isFalse => cases chosen
  | none =>
    simp only [assignment] at chosen
    have found := orPanic_eq_ok.mp chosen
    exact ⟨List.mem_of_getElem? found, fun _ => found⟩

theorem planBlock_eq_ok {block : List XdpQueueSlot × Nat}
    (planned : builder.planBlock programs node cores block = .ok plan) :
    plan.Drives node block.1 ∧ plan.cpu ∈ cores ∧
      (builder.coreAssignment = none → cores[block.2 % cores.length]? = some plan.cpu) := by
  rw [planBlock] at planned
  obtain ⟨first, isFirst, planned⟩ := bind_eq_ok_iff.mp planned
  obtain ⟨_, single, planned⟩ := bind_eq_ok_iff.mp planned
  obtain ⟨cpu, chosen, planned⟩ := bind_eq_ok_iff.mp planned
  obtain ⟨queueId, isQueue, planned⟩ := bind_eq_ok_iff.mp planned
  obtain ⟨_, _, planned⟩ := bind_eq_ok_iff.mp planned
  cases planned
  obtain ⟨isCore, byDefault⟩ := chooseCpu_eq_ok chosen
  exact ⟨⟨rfl, ensure_eq_ok.mp single, rfl⟩, isCore, byDefault⟩

/-! ## One node -/

/-- The default CPUs of workers are the CPUs of the node in order. -/
theorem cpus_of_default {blocks : List (List XdpQueueSlot)} {start : Nat}
    (byDefault : builder.coreAssignment = none)
    (planned : List.Forall₂ (fun block plan => builder.planBlock programs node cores block = .ok plan)
      (blocks.zipIdx start) plans) (enough : start + plans.length ≤ cores.length) :
    plans.map (·.cpu) = (cores.drop start).take plans.length := by
  induction blocks generalizing start plans with
  | nil =>
    cases planned
    simp
  | cons block rest ih =>
    rw [List.zipIdx_cons] at planned
    cases planned with
    | cons first others =>
      rename_i plan plans
      rw [List.length_cons] at enough
      have inside : start < cores.length := by omega
      have cpu := (planBlock_eq_ok first).2.2 byDefault
      rw [Nat.mod_eq_of_lt inside, List.getElem?_eq_getElem inside, Option.some.injEq] at cpu
      rw [List.map_cons, ih others (by omega), List.drop_eq_getElem_cons inside, cpu,
        List.length_cons, List.take_succ_cons]

/-- The plans of a node: they take its queues apart into as many blocks of one size as
there are workers, and have CPUs of the node. -/
structure PlansNode (host : FactoryHost) (builder : XdpFactoryBuilder) (threadsPerNode : Nat)
    (group : NumaNode × List XdpQueueSlot) (plans : List XdpWorkerPlan) : Prop where
  length : plans.length = threadsPerNode
  blocks : ∃ blocks : List (List XdpQueueSlot), blocks.flatten.Perm group.2 ∧
    List.Forall₂ (fun plan block => plan.Drives group.1 block) plans blocks
  size : ∀ plan ∈ plans, plan.queues.length = group.2.length / threadsPerNode
  cpus : ∃ cores, host.coresForNumaNode group.1 = some cores ∧ (∀ plan ∈ plans, plan.cpu ∈ cores) ∧
    (builder.coreAssignment = none → cores.Nodup → plans.length ≤ cores.length →
      (plans.map (·.cpu)).Nodup)

theorem plansNode_of_planNode
    (planned : builder.planNode host programs threadsPerNode group = .ok plans) :
    PlansNode host builder threadsPerNode group plans := by
  rw [planNode] at planned
  obtain ⟨_, divides, planned⟩ := bind_eq_ok_iff.mp planned
  obtain ⟨_, _, planned⟩ := bind_eq_ok_iff.mp planned
  obtain ⟨cores, isCores, planned⟩ := bind_eq_ok_iff.mp planned
  obtain ⟨_, positive, planned⟩ := bind_eq_ok_iff.mp planned
  have perm := List.perm_insertionSort (fun left right => left.ifindex ≤ right.ifindex) group.2
  have exactly := Nat.mul_div_cancel' (ensure_eq_ok.mp divides)
  obtain ⟨count, flatten, size⟩ := chunks_spec (Nat.pos_of_ne_zero (ensure_eq_ok.mp positive))
    (perm.length_eq.trans exactly.symm)
  have planned := mapM_eq_ok planned
  have each : List.Forall₂ (fun block plan => plan.Drives group.1 block)
      ((nodeBlocks threadsPerNode group.2).map Prod.fst) plans :=
    List.forall₂_map_left_iff.mpr (planned.imp fun _ _ isPlan => (planBlock_eq_ok isPlan).1)
  have drives := List.zipIdx_map_fst _ _ ▸ each
  constructor
  · rw [← drives.length_eq, count]
  · exact ⟨_, by rwa [flatten], drives.flip⟩
  · intro plan member
    obtain ⟨block, isBlock, isPlan⟩ := exists_of_mem_forall₂ drives member
    rw [isPlan.queues, List.length_map, size block isBlock]
  · refine ⟨cores, orFail_eq_ok.mp isCores, ?_, ?_⟩
    · intro plan member
      obtain ⟨block, _, isPlan⟩ := exists_of_mem_forall₂ planned member
      exact (planBlock_eq_ok isPlan).2.1
    · intro byDefault distinct enough
      rw [cpus_of_default byDefault planned (by rwa [Nat.zero_add])]
      exact distinct.sublist ((List.take_sublist _ _).trans (List.drop_sublist _ _))

/-! ## All nodes -/

theorem grouped_of_groupByNode {groups : List (NumaNode × List XdpQueueSlot)}
    (grouped : groupByNode host claimed = .ok groups) :
    ∃ cpuNode, buildCpuNodeMap host = .ok cpuNode ∧
      Grouped (fun slot node => queueNumaNode host cpuNode slot = .ok node) groups claimed := by
  rw [groupByNode] at grouped
  obtain ⟨cpuNode, isMap, grouped⟩ := bind_eq_ok_iff.mp grouped
  refine ⟨cpuNode, isMap, ?_⟩
  refine foldlM_eq_ok (Grouped fun slot node => queueNumaNode host cpuNode slot = .ok node) ?_ .nil
    grouped
  intro groups done slot next holds taken
  obtain ⟨node, isNode, taken⟩ := bind_eq_ok_iff.mp taken
  cases taken
  exact holds.insert isNode

theorem PlansNode.numa (planned : PlansNode host builder threadsPerNode group plans) :
    ∀ plan ∈ plans, plan.numa = some group.1 := by
  intro plan member
  obtain ⟨blocks, _, drives⟩ := planned.blocks
  obtain ⟨_, _, isPlan⟩ := exists_of_mem_forall₂ drives.flip member
  exact isPlan.numa

section Nodes

variable {groups : List (NumaNode × List XdpQueueSlot)} {lists : List (List XdpWorkerPlan)}

theorem exists_group (planned : List.Forall₂ (PlansNode host builder threadsPerNode) groups lists)
    (member : plan ∈ lists.flatten) :
    ∃ group ∈ groups, ∃ plans ∈ lists, plan ∈ plans ∧
      PlansNode host builder threadsPerNode group plans := by
  obtain ⟨plans, isList, inList⟩ := List.mem_flatten.mp member
  obtain ⟨group, isGroup, isPlanned⟩ := exists_of_mem_forall₂ planned isList
  exact ⟨group, isGroup, plans, isList, inList, isPlanned⟩

/-- The plans on one node are those of its group. -/
theorem filter_numa_flatten (ordered : groups.Pairwise fun first second => first.1 < second.1)
    (planned : List.Forall₂ (PlansNode host builder threadsPerNode) groups lists)
    (node : NumaNode) :
    lists.flatten.filter (·.numa = some node) = [] ∨
      ∃ group ∈ groups, group.1 = node ∧
        PlansNode host builder threadsPerNode group
          (lists.flatten.filter (·.numa = some node)) := by
  induction planned with
  | nil => exact .inl rfl
  | @cons group plans groups lists first others ih =>
    obtain ⟨before, restOrdered⟩ := List.pairwise_cons.mp ordered
    have here := first.numa
    rw [List.flatten_cons, List.filter_append]
    by_cases same : group.1 = node
    · have all : plans.filter (·.numa = some node) = plans := by
        rw [List.filter_eq_self]
        intro plan member
        rw [here plan member, same]
        exact decide_eq_true rfl
      have none : lists.flatten.filter (·.numa = some node) = [] := by
        rw [List.filter_eq_nil_iff]
        intro plan member isNode
        obtain ⟨other, isGroup, _, _, inList, isPlanned⟩ := exists_group others member
        rw [decide_eq_true_eq, isPlanned.numa plan inList, Option.some.injEq] at isNode
        exact (before other isGroup).ne (same.trans isNode.symm)
      rw [all, none, List.append_nil]
      exact .inr ⟨group, List.mem_cons_self, same, first⟩
    · have none : plans.filter (·.numa = some node) = [] := by
        rw [List.filter_eq_nil_iff]
        intro plan member isNode
        rw [decide_eq_true_eq, here plan member, Option.some.injEq] at isNode
        exact same isNode
      rw [none, List.nil_append]
      refine (ih restOrdered).imp_right ?_
      rintro ⟨other, isGroup, isNode, isPlanned⟩
      exact ⟨other, List.mem_cons_of_mem _ isGroup, isNode, isPlanned⟩

theorem length_flatten_plans
    (planned : List.Forall₂ (PlansNode host builder threadsPerNode) groups lists) :
    lists.flatten.length = groups.length * threadsPerNode := by
  induction planned with
  | nil => simp
  | cons first _ ih =>
    rw [List.flatten_cons, List.length_append, first.length, ih, List.length_cons, Nat.succ_mul,
      Nat.add_comm]

/-- The blocks of all plans take the queues of all groups apart. -/
theorem exists_blocks
    (planned : List.Forall₂ (PlansNode host builder threadsPerNode) groups lists) :
    ∃ blocks : List (List XdpQueueSlot), blocks.flatten.Perm (groups.flatMap Prod.snd) ∧
      List.Forall₂ (fun block plan => ∃ group ∈ groups, block ⊆ group.2 ∧
        plan.Drives group.1 block) blocks lists.flatten := by
  induction planned with
  | nil => exact ⟨[], .refl _, .nil⟩
  | @cons group plans groups lists first _ ih =>
    obtain ⟨blocks, perm, drives⟩ := first.blocks
    obtain ⟨others, otherPerm, otherDrives⟩ := ih
    refine ⟨blocks ++ others, ?_, ?_⟩
    · rw [List.flatten_append]
      exact perm.append otherPerm
    · have inGroup : ∀ block ∈ blocks, block ⊆ group.2 := fun block isBlock slot isSlot =>
        perm.mem_iff.mp (List.mem_flatten.mpr ⟨block, isBlock, isSlot⟩)
      rw [List.flatten_cons]
      refine List.rel_append ?_ ?_
      · exact ((List.forall₂_and_left _ _).mpr ⟨inGroup, drives.flip⟩).imp
          fun _ _ isPlan => ⟨group, List.mem_cons_self, isPlan⟩
      · exact otherDrives.imp fun _ _ ⟨other, isGroup, isPlan⟩ =>
          ⟨other, List.mem_cons_of_mem _ isGroup, isPlan⟩

end Nodes

/-! ## The program does not stop -/

theorem noPanic_groupByNode (host : FactoryHost) (claimed : List XdpQueueSlot) :
    NoPanic (groupByNode host claimed) := by
  refine NoPanic.bind ?_ fun cpuNode _ => .foldlM (fun groups slot => ?_) claimed []
  · exact (noPanic_orFail _ _).bind fun _ _ => .foldlM
      (fun _ _ => (noPanic_orFail _ _).bind fun _ _ => .ok _) _ _
  · refine NoPanic.bind ?_ fun _ _ => .ok _
    rw [queueNumaNode]
    split
    · exact .ok _
    · exact (noPanic_orFail _ _).bind fun _ _ => noPanic_orFail _ _

theorem noPanic_chooseCpu (someCore : builder.coreAssignment = none → cores ≠ []) (node : NumaNode)
    (index : Nat) : NoPanic (builder.chooseCpu node cores index) := by
  rw [chooseCpu]
  cases isAssignment : builder.coreAssignment with
  | some assign =>
    dsimp only
    split
    · exact .ok _
    · exact .failed _
  | none =>
    have inside := Nat.mod_lt index (List.length_pos_iff.mpr (someCore isAssignment))
    dsimp only
    rw [List.getElem?_eq_getElem inside]
    exact .ok _

theorem noPanic_planBlock (someCore : builder.coreAssignment = none → cores ≠ [])
    (someSlots : slots ≠ []) (loaded : ∀ slot ∈ slots, slot.ifindex ∈ programs) (index : Nat) :
    NoPanic (builder.planBlock programs node cores (slots, index)) := by
  cases slots with
  | nil => exact absurd rfl someSlots
  | cons first rest =>
    have isLoaded := loaded first List.mem_cons_self
    refine (NoPanic.ok first).bind fun _ isFirst => ?_
    cases isFirst
    exact (NoPanic.check _ _).bind fun _ _ => (noPanic_chooseCpu someCore _ _).bind fun _ _ =>
      (NoPanic.ok first.queue).bind fun _ _ => (NoPanic.assert isLoaded _).bind fun _ _ => .ok _

theorem nodeBlocks_spec (divides : threadsPerNode ∣ slots.length) (someSlots : slots ≠ []) :
    slots.length / threadsPerNode ≠ 0 ∧ nodeBlocks threadsPerNode slots ≠ [] ∧
      ∀ block ∈ nodeBlocks threadsPerNode slots, block.1 ≠ [] ∧ block.1 ⊆ slots := by
  have perm := List.perm_insertionSort (fun left right => left.ifindex ≤ right.ifindex) slots
  have exactly := Nat.mul_div_cancel' divides
  have positive : slots.length / threadsPerNode ≠ 0 := by
    intro zero
    rw [zero, Nat.mul_zero] at exactly
    exact someSlots (List.length_eq_zero_iff.mp exactly.symm)
  rw [nodeBlocks]
  obtain ⟨_, flatten, size⟩ := chunks_spec (Nat.pos_of_ne_zero positive)
    (perm.length_eq.trans exactly.symm)
  refine ⟨positive, ?_, ?_⟩
  · intro none
    rw [List.zipIdx_eq_nil_iff.mp none, List.flatten_nil] at flatten
    exact someSlots (List.nil_perm.mp (flatten ▸ perm))
  · rintro ⟨block, index⟩ member
    have isBlock := List.fst_mem_of_mem_zipIdx member
    constructor
    · rintro rfl
      exact positive (size [] isBlock).symm
    · intro slot isSlot
      rw [← perm.mem_iff, ← flatten]
      exact List.mem_flatten.mpr ⟨block, isBlock, isSlot⟩

theorem noPanic_planNode
    (cores : ∀ node cores, host.coresForNumaNode node = some cores → cores ≠ [])
    (threads : threadsPerNode ≠ 0) (nonempty : group.2 ≠ [])
    (loaded : ∀ slot ∈ group.2, slot.ifindex ∈ programs) :
    NoPanic (builder.planNode host programs threadsPerNode group) := by
  rw [planNode]
  refine (NoPanic.check _ _).bind fun _ divides => (NoPanic.assert threads _).bind fun _ _ =>
    (noPanic_orFail _ _).bind fun nodeCores isCores => ?_
  obtain ⟨positive, _, blocks⟩ := nodeBlocks_spec (ensure_eq_ok.mp divides) nonempty
  refine (NoPanic.assert positive _).bind fun _ _ => .mapM fun block member => ?_
  obtain ⟨someSlots, subset⟩ := blocks block member
  exact noPanic_planBlock (fun _ => cores _ _ (orFail_eq_ok.mp isCores)) someSlots
    (fun slot isSlot => loaded slot (subset isSlot)) block.2

/-- What the checks and the groups of the claimed queues say about each node. -/
theorem nodes_of_groupByNode {byNode : List (NumaNode × List XdpQueueSlot)}
    (someClaimed : claimed ≠ []) (someThreads : threads ≠ 0)
    (loaded : ∀ slot ∈ claimed, slot.ifindex ∈ programs)
    (isGrouped : groupByNode host claimed = .ok byNode) (even : byNode.length ∣ threads) :
    byNode.length ≠ 0 ∧ threads / byNode.length ≠ 0 ∧
      ∀ group ∈ byNode, group.2 ≠ [] ∧ ∀ slot ∈ group.2, slot.ifindex ∈ programs := by
  obtain ⟨_, _, grouped⟩ := grouped_of_groupByNode isGrouped
  refine ⟨?_, ?_, ?_⟩
  · intro none
    rw [List.length_eq_zero_iff.mp none] at grouped
    exact someClaimed (List.nil_perm.mp grouped.perm)
  · intro zero
    have exactly := Nat.mul_div_cancel' even
    rw [zero, Nat.mul_zero] at exactly
    exact someThreads exactly.symm
  · intro group isGroup
    refine ⟨grouped.nonempty group isGroup, fun slot isSlot => loaded slot ?_⟩
    exact grouped.perm.mem_iff.mp (List.mem_flatMap.mpr ⟨group, isGroup, isSlot⟩)

theorem noPanic_plans (cores : ∀ node cores, host.coresForNumaNode node = some cores → cores ≠ [])
    (someClaimed : claimed ≠ []) (someThreads : threads ≠ 0)
    (loaded : ∀ slot ∈ claimed, slot.ifindex ∈ programs) :
    NoPanic (builder.plans host programs claimed threads) := by
  refine (noPanic_groupByNode host claimed).bind fun byNode isGrouped =>
    (NoPanic.check _ _).bind fun _ even => ?_
  obtain ⟨someNodes, perNode, nodes⟩ :=
    nodes_of_groupByNode someClaimed someThreads loaded isGrouped (ensure_eq_ok.mp even)
  refine (NoPanic.assert someNodes _).bind fun _ _ => NoPanic.bind (.mapM ?_) fun _ _ => .ok _
  intro group isGroup
  obtain ⟨someSlots, areLoaded⟩ := nodes group isGroup
  exact noPanic_planNode cores perNode someSlots areLoaded

end XdpFactoryBuilder

end FastSocket.Xdp
