import FastSocket.Xdp.FactoryPartition

/-!
# Refused placements

When the placement of the claimed queues returns an error, in terms of the queues, the
threads and the answers of the host alone.  A node whose list of CPUs is empty stops the
program instead, unless the node is refused before.
-/

namespace FastSocket.Xdp

open Packet Sorting Transition

def OneInterface (block : List XdpQueueSlot) : Prop :=
  ∀ slot ∈ block, ∀ other ∈ block, slot.ifindex = other.ifindex

namespace XdpFactoryBuilder

/-- A choice of the caller is a CPU of the node. -/
def AssignsCore (builder : XdpFactoryBuilder) (node : NumaNode) (cores : List Nat)
    (index : Nat) : Prop :=
  ∀ assign, builder.coreAssignment = some assign → assign node cores index ∈ cores

/-- The queues of a node can be shared out among its threads. -/
structure NodeFits (host : FactoryHost) (builder : XdpFactoryBuilder) (threadsPerNode : Nat)
    (group : NumaNode × List XdpQueueSlot) : Prop where
  divides : threadsPerNode ∣ group.2.length
  cores : ∃ cores, host.coresForNumaNode group.1 = some cores ∧
    (builder.coreAssignment = none → cores ≠ []) ∧
    ∀ block ∈ nodeBlocks threadsPerNode group.2,
      OneInterface block.1 ∧ builder.AssignsCore group.1 cores block.2

/-- By default the first worker of a node without CPUs has none to take. -/
structure NodePanics (host : FactoryHost) (builder : XdpFactoryBuilder) (threadsPerNode : Nat)
    (group : NumaNode × List XdpQueueSlot) : Prop where
  divides : threadsPerNode ∣ group.2.length
  byDefault : builder.coreAssignment = none
  cores : host.coresForNumaNode group.1 = some []
  first : ∀ block ∈ (nodeBlocks threadsPerNode group.2).head?, OneInterface block.1

/-- The placement of the claimed queues is refused: the node of a queue is not known, the
threads cannot be shared out among the nodes, or a node cannot share out its queues. -/
inductive PlacementFails (host : FactoryHost) (builder : XdpFactoryBuilder)
    (claimed : List XdpQueueSlot) (threads : Nat) : Prop
  | unknownNode (unknown : ∀ cpuNode, buildCpuNodeMap host = .ok cpuNode →
      ∃ slot ∈ claimed, ∀ node, queueNumaNode host cpuNode slot ≠ .ok node)
  | unevenThreads {byNode : List (NumaNode × List XdpQueueSlot)}
      (grouped : groupByNode host claimed = .ok byNode) (uneven : ¬ byNode.length ∣ threads)
  | refusedNode {before after : List (NumaNode × List XdpQueueSlot)}
      {group : NumaNode × List XdpQueueSlot}
      (grouped : groupByNode host claimed = .ok (before ++ group :: after))
      (even : (before ++ group :: after).length ∣ threads)
      (fits : ∀ earlier ∈ before,
        NodeFits host builder (threads / (before ++ group :: after).length) earlier)
      (refused : ¬ NodeFits host builder (threads / (before ++ group :: after).length) group)
      (returns : ¬ NodePanics host builder (threads / (before ++ group :: after).length) group)

variable {host : FactoryHost} {builder : XdpFactoryBuilder} {programs : List IfIndex}

/-! ## One worker -/

theorem exists_chooseCpu {node : NumaNode} {cores : List Nat} {index : Nat} :
    (∃ cpu, builder.chooseCpu node cores index = .ok cpu) ↔
      builder.AssignsCore node cores index ∧ (builder.coreAssignment = none → cores ≠ []) := by
  rw [chooseCpu, AssignsCore]
  cases builder.coreAssignment with
  | some assign =>
    dsimp only
    split
    case isTrue member =>
      refine iff_of_true ⟨_, rfl⟩ ⟨?_, by rintro ⟨⟩⟩
      rintro _ ⟨⟩
      exact member
    case isFalse foreign =>
      exact iff_of_false (by rintro ⟨_, ⟨⟩⟩) fun assigns => foreign (assigns.1 assign rfl)
  | none =>
    cases cores with
    | nil => exact iff_of_false (by rintro ⟨_, ⟨⟩⟩) fun assigns => assigns.2 rfl rfl
    | cons core rest =>
      have inside := Nat.mod_lt index (Nat.succ_pos rest.length)
      refine iff_of_true ?_ ⟨by rintro _ ⟨⟩, fun _ => List.cons_ne_nil _ _⟩
      exact ⟨_, orPanic_eq_ok.mpr (List.getElem?_eq_getElem inside)⟩

section Block

variable {node : NumaNode} {cores : List Nat} {block : List XdpQueueSlot × Nat}

theorem oneInterface_cons {first : XdpQueueSlot} {rest : List XdpQueueSlot} :
    OneInterface (first :: rest) ↔ ∀ slot ∈ first :: rest, slot.ifindex = first.ifindex := by
  constructor
  · exact fun single slot member => single slot member first List.mem_cons_self
  · exact fun single slot member other isOther =>
      (single slot member).trans (single other isOther).symm

theorem exists_planBlock (someSlots : block.1 ≠ [])
    (loaded : ∀ slot ∈ block.1, slot.ifindex ∈ programs) :
    (∃ plan, builder.planBlock programs node cores block = .ok plan) ↔
      OneInterface block.1 ∧ builder.AssignsCore node cores block.2 ∧
        (builder.coreAssignment = none → cores ≠ []) := by
  obtain ⟨slots, index⟩ := block
  cases slots with
  | nil => exact absurd rfl someSlots
  | cons first rest =>
    rw [← exists_chooseCpu, oneInterface_cons]
    constructor
    · rintro ⟨plan, planned⟩
      obtain ⟨_, ⟨⟩, planned⟩ := bind_eq_ok_iff.mp planned
      obtain ⟨_, single, planned⟩ := bind_eq_ok_iff.mp planned
      obtain ⟨cpu, chosen, _⟩ := bind_eq_ok_iff.mp planned
      exact ⟨ensure_eq_ok.mp single, cpu, chosen⟩
    · rintro ⟨single, cpu, chosen⟩
      have isLoaded := loaded first List.mem_cons_self
      refine ⟨_, bind_eq_ok_iff.mpr ⟨first, rfl, bind_eq_ok_iff.mpr ⟨(), ensure_eq_ok.mpr single,
        bind_eq_ok_iff.mpr ⟨cpu, chosen, bind_eq_ok_iff.mpr ⟨first.queue, rfl,
          bind_eq_ok_iff.mpr ⟨(), ensure_eq_ok.mpr isLoaded, rfl⟩⟩⟩⟩⟩⟩

/-- A block stops the program exactly when there is no CPU for it. -/
theorem planBlock_eq_panicked (someSlots : block.1 ≠ [])
    (loaded : ∀ slot ∈ block.1, slot.ifindex ∈ programs) :
    builder.planBlock programs node cores block = .error .panicked ↔
      OneInterface block.1 ∧ builder.coreAssignment = none ∧ cores = [] := by
  obtain ⟨slots, index⟩ := block
  constructor
  · intro panics
    have noCore : ¬ (builder.coreAssignment = none → cores ≠ []) := fun someCore =>
      noPanic_planBlock someCore someSlots loaded index panics
    rw [Classical.not_imp, not_not] at noCore
    refine ⟨?_, noCore⟩
    cases slots with
    | nil => exact absurd rfl someSlots
    | cons first rest =>
      rcases bind_eq_error_iff.mp panics with ⟨⟨⟩⟩ | ⟨_, ⟨⟩, panics⟩
      rcases bind_eq_error_iff.mp panics with checks | ⟨_, single, _⟩
      · exact absurd checks (NoPanic.check _ _)
      · exact oneInterface_cons.mpr (ensure_eq_ok.mp single)
  · rintro ⟨single, byDefault, rfl⟩
    cases slots with
    | nil => exact absurd rfl someSlots
    | cons first rest =>
      refine bind_eq_error_iff.mpr (.inr ⟨first, rfl, bind_eq_error_iff.mpr (.inr
        ⟨(), ensure_eq_ok.mpr (oneInterface_cons.mp single), bind_eq_error_iff.mpr (.inl ?_)⟩)⟩)
      rw [chooseCpu, byDefault]
      rfl

end Block

/-! ## One node -/

section Node

variable {threadsPerNode : Nat} {group : NumaNode × List XdpQueueSlot}

theorem exists_planNode (someThreads : threadsPerNode ≠ 0) (someSlots : group.2 ≠ [])
    (loaded : ∀ slot ∈ group.2, slot.ifindex ∈ programs) :
    (∃ plans, builder.planNode host programs threadsPerNode group = .ok plans) ↔
      NodeFits host builder threadsPerNode group := by
  constructor
  · rintro ⟨plans, planned⟩
    obtain ⟨_, divides, planned⟩ := bind_eq_ok_iff.mp planned
    obtain ⟨_, _, planned⟩ := bind_eq_ok_iff.mp planned
    obtain ⟨cores, isCores, planned⟩ := bind_eq_ok_iff.mp planned
    obtain ⟨_, _, planned⟩ := bind_eq_ok_iff.mp planned
    have divides := ensure_eq_ok.mp divides
    obtain ⟨_, someBlocks, blocks⟩ := nodeBlocks_spec divides someSlots
    have each : ∀ block ∈ nodeBlocks threadsPerNode group.2, OneInterface block.1 ∧
        builder.AssignsCore group.1 cores block.2 ∧ (builder.coreAssignment = none → cores ≠ []) := by
      intro block member
      obtain ⟨someSlots, subset⟩ := blocks block member
      exact (exists_planBlock someSlots fun slot isSlot => loaded slot (subset isSlot)).mp
        (exists_mapM_eq_ok.mp ⟨plans, planned⟩ block member)
    obtain ⟨first, isFirst⟩ := List.exists_mem_of_ne_nil _ someBlocks
    exact ⟨divides, cores, orFail_eq_ok.mp isCores, (each first isFirst).2.2,
      fun block member => ⟨(each block member).1, (each block member).2.1⟩⟩
  · rintro ⟨divides, cores, isCores, someCore, fits⟩
    obtain ⟨positive, _, blocks⟩ := nodeBlocks_spec divides someSlots
    have each : ∀ block ∈ nodeBlocks threadsPerNode group.2,
        ∃ plan, builder.planBlock programs group.1 cores block = .ok plan := by
      intro block member
      obtain ⟨someSlots, subset⟩ := blocks block member
      obtain ⟨single, assigns⟩ := fits block member
      exact (exists_planBlock someSlots fun slot isSlot => loaded slot (subset isSlot)).mpr
        ⟨single, assigns, someCore⟩
    obtain ⟨plans, planned⟩ := exists_mapM_eq_ok.mpr each
    exact ⟨plans, bind_eq_ok_iff.mpr ⟨(), ensure_eq_ok.mpr divides, bind_eq_ok_iff.mpr
      ⟨(), ensure_eq_ok.mpr someThreads, bind_eq_ok_iff.mpr ⟨cores, orFail_eq_ok.mpr isCores,
        bind_eq_ok_iff.mpr ⟨(), ensure_eq_ok.mpr positive, planned⟩⟩⟩⟩⟩

theorem planNode_eq_panicked (someThreads : threadsPerNode ≠ 0) (someSlots : group.2 ≠ [])
    (loaded : ∀ slot ∈ group.2, slot.ifindex ∈ programs) :
    builder.planNode host programs threadsPerNode group = .error .panicked ↔
      NodePanics host builder threadsPerNode group := by
  constructor
  · intro panics
    rcases bind_eq_error_iff.mp panics with checks | ⟨_, divides, panics⟩
    · exact absurd checks (NoPanic.check _ _)
    have divides := ensure_eq_ok.mp divides
    obtain ⟨positive, _, blocks⟩ := nodeBlocks_spec divides someSlots
    rcases bind_eq_error_iff.mp panics with zero | ⟨_, _, panics⟩
    · exact absurd zero (NoPanic.assert someThreads _)
    rcases bind_eq_error_iff.mp panics with unread | ⟨cores, isCores, panics⟩
    · exact absurd unread (noPanic_orFail _ _)
    rcases bind_eq_error_iff.mp panics with zero | ⟨_, _, panics⟩
    · exact absurd zero (NoPanic.assert positive _)
    -- The first block already finds no CPU, so the one that stops the program is the first.
    obtain ⟨before, block, after, split, returned, panics⟩ := mapM_eq_error.mp panics
    have member : block ∈ nodeBlocks threadsPerNode group.2 := by
      rw [split]
      exact List.mem_append_right _ List.mem_cons_self
    obtain ⟨someBlock, subset⟩ := blocks block member
    obtain ⟨single, byDefault, rfl⟩ :=
      (planBlock_eq_panicked someBlock fun slot isSlot => loaded slot (subset isSlot)).mp panics
    refine ⟨divides, byDefault, orFail_eq_ok.mp isCores, ?_⟩
    cases before with
    | nil =>
      rw [split]
      rintro _ ⟨⟩
      exact single
    | cons earlier before =>
      have isEarlier : earlier ∈ nodeBlocks threadsPerNode group.2 := by
        rw [split]
        exact List.mem_cons_self
      obtain ⟨someEarlier, earlierSubset⟩ := blocks earlier isEarlier
      have fits := (exists_planBlock someEarlier fun slot isSlot =>
        loaded slot (earlierSubset isSlot)).mp (returned earlier List.mem_cons_self)
      exact absurd rfl (fits.2.2 byDefault)
  · rintro ⟨divides, byDefault, isCores, single⟩
    obtain ⟨positive, someBlocks, blocks⟩ := nodeBlocks_spec divides someSlots
    refine bind_eq_error_iff.mpr (.inr ⟨(), ensure_eq_ok.mpr divides, bind_eq_error_iff.mpr (.inr
      ⟨(), ensure_eq_ok.mpr someThreads, bind_eq_error_iff.mpr (.inr ⟨[], orFail_eq_ok.mpr isCores,
        bind_eq_error_iff.mpr (.inr ⟨(), ensure_eq_ok.mpr positive, ?_⟩)⟩)⟩)⟩)
    cases isBlocks : nodeBlocks threadsPerNode group.2 with
    | nil => exact absurd isBlocks someBlocks
    | cons first rest =>
      rw [isBlocks] at single blocks
      obtain ⟨someFirst, subset⟩ := blocks first List.mem_cons_self
      refine mapM_eq_error.mpr ⟨[], first, rest, rfl, nofun, ?_⟩
      exact (planBlock_eq_panicked someFirst fun slot isSlot => loaded slot (subset isSlot)).mpr
        ⟨single first rfl, byDefault, rfl⟩

end Node

/-! ## All nodes -/

variable {claimed : List XdpQueueSlot}

theorem exists_groupByNode :
    (∃ byNode, groupByNode host claimed = .ok byNode) ↔
      ∃ cpuNode, buildCpuNodeMap host = .ok cpuNode ∧
        ∀ slot ∈ claimed, ∃ node, queueNumaNode host cpuNode slot = .ok node := by
  have each : ∀ cpuNode groups slot,
      (∃ next, (do
        let node ← queueNumaNode host cpuNode slot
        return insertGroup node slot groups : Except (Stop FactoryError) _) = .ok next) ↔
      ∃ node, queueNumaNode host cpuNode slot = .ok node := by
    intro cpuNode groups slot
    constructor
    · rintro ⟨next, taken⟩
      obtain ⟨node, isNode, _⟩ := bind_eq_ok_iff.mp taken
      exact ⟨node, isNode⟩
    · rintro ⟨node, isNode⟩
      exact ⟨_, bind_eq_ok_iff.mpr ⟨node, isNode, rfl⟩⟩
  constructor
  · rintro ⟨byNode, grouped⟩
    obtain ⟨cpuNode, isMap, grouped⟩ := bind_eq_ok_iff.mp grouped
    exact ⟨cpuNode, isMap, (exists_foldlM_eq_ok (each cpuNode)).mp ⟨byNode, grouped⟩⟩
  · rintro ⟨cpuNode, isMap, known⟩
    obtain ⟨byNode, grouped⟩ := (exists_foldlM_eq_ok (each cpuNode)).mpr known
    exact ⟨byNode, bind_eq_ok_iff.mpr ⟨cpuNode, isMap, grouped⟩⟩

theorem failed_groupByNode_iff :
    (∃ error, groupByNode host claimed = .error (.failed error)) ↔
      ∀ cpuNode, buildCpuNodeMap host = .ok cpuNode →
        ∃ slot ∈ claimed, ∀ node, queueNumaNode host cpuNode slot ≠ .ok node := by
  rw [(noPanic_groupByNode host claimed).failed_iff, exists_groupByNode]
  simp only [not_exists, not_and, not_forall, exists_prop, ne_eq]

section Plans

variable {threads : Nat}

/-- The placement returns an error exactly when it is refused. -/
theorem failed_plans_iff (someClaimed : claimed ≠ []) (someThreads : threads ≠ 0)
    (loaded : ∀ slot ∈ claimed, slot.ifindex ∈ programs) :
    (∃ error, builder.plans host programs claimed threads = .error (.failed error)) ↔
      PlacementFails host builder claimed threads := by
  constructor
  · rintro ⟨error, fails⟩
    rcases bind_eq_error_iff.mp fails with ungrouped | ⟨byNode, isGrouped, fails⟩
    · exact .unknownNode (failed_groupByNode_iff.mp ⟨error, ungrouped⟩)
    rcases bind_eq_error_iff.mp fails with uneven | ⟨_, even, fails⟩
    · exact .unevenThreads isGrouped (ensure_eq_error.mp uneven).1
    have even := ensure_eq_ok.mp even
    obtain ⟨_, perNode, nodes⟩ := nodes_of_groupByNode someClaimed someThreads loaded isGrouped even
    rcases bind_eq_error_iff.mp fails with zero | ⟨_, _, fails⟩
    · cases (ensure_eq_error.mp zero).2
    rcases bind_eq_error_iff.mp fails with refused | ⟨_, _, ⟨⟩⟩
    obtain ⟨before, group, after, rfl, returned, refused⟩ := mapM_eq_error.mp refused
    refine .refusedNode isGrouped even ?_ ?_ ?_
    · intro earlier isEarlier
      obtain ⟨someSlots, areLoaded⟩ := nodes earlier (List.mem_append_left _ isEarlier)
      exact (exists_planNode perNode someSlots areLoaded).mp (returned earlier isEarlier)
    all_goals
      obtain ⟨someSlots, areLoaded⟩ := nodes group (List.mem_append_right _ List.mem_cons_self)
    · rw [← exists_planNode perNode someSlots areLoaded, refused]
      exact nofun
    · rw [← planNode_eq_panicked perNode someSlots areLoaded, refused]
      exact nofun
  · intro fails
    cases fails with
    | unknownNode unknown =>
      obtain ⟨error, ungrouped⟩ := failed_groupByNode_iff.mpr unknown
      exact ⟨error, bind_eq_error_iff.mpr (.inl ungrouped)⟩
    | unevenThreads isGrouped uneven =>
      exact ⟨_, bind_eq_error_iff.mpr (.inr ⟨_, isGrouped, bind_eq_error_iff.mpr
        (.inl (ensure_eq_error.mpr ⟨uneven, rfl⟩))⟩)⟩
    | @refusedNode before after group isGrouped even fits refused returns =>
      obtain ⟨someNodes, perNode, nodes⟩ :=
        nodes_of_groupByNode someClaimed someThreads loaded isGrouped even
      obtain ⟨someSlots, areLoaded⟩ := nodes group (List.mem_append_right _ List.mem_cons_self)
      have noPanic : NoPanic (builder.planNode host programs
          (threads / (before ++ group :: after).length) group) := by
        rwa [NoPanic, Ne, planNode_eq_panicked perNode someSlots areLoaded]
      obtain ⟨error, isError⟩ := noPanic.failed_iff.mpr (by
        rwa [exists_planNode perNode someSlots areLoaded])
      have returned : ∀ earlier ∈ before, ∃ plans, builder.planNode host programs
          (threads / (before ++ group :: after).length) earlier = .ok plans := by
        intro earlier isEarlier
        obtain ⟨someSlots, areLoaded⟩ := nodes earlier (List.mem_append_left _ isEarlier)
        exact (exists_planNode perNode someSlots areLoaded).mpr (fits earlier isEarlier)
      refine ⟨error, bind_eq_error_iff.mpr (.inr ⟨_, isGrouped, bind_eq_error_iff.mpr (.inr
        ⟨(), ensure_eq_ok.mpr even, bind_eq_error_iff.mpr (.inr
          ⟨(), ensure_eq_ok.mpr someNodes, bind_eq_error_iff.mpr (.inl ?_)⟩)⟩)⟩)⟩
      exact mapM_eq_error.mpr ⟨before, group, after, rfl, returned, isError⟩

end Plans

end XdpFactoryBuilder

end FastSocket.Xdp
