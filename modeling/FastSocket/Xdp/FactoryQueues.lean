import FastSocket.Xdp.FactoryBuild

/-!
# Queues of the workers

A claim of all discovered queues or of the first ones has each of them once.  An
explicit claim is taken as it is given: a position that it repeats is claimed twice,
and the factory hands the queue out twice.
-/

namespace FastSocket.Xdp

open Ebpf Packet Sorting Transition

namespace XdpFactoryBuilder

variable {host : FactoryHost} {builder : XdpFactoryBuilder} {claimed : List XdpQueueSlot}

/-- The keys of entries whose keys are distinct repeat where the entries repeat. -/
theorem nodup_map_iff_of_subset {α β : Type} {key : α → β} {all part : List α}
    (distinct : (all.map key).Nodup) (subset : part ⊆ all) :
    (part.map key).Nodup ↔ part.Nodup := by
  constructor
  · exact List.Nodup.of_map key
  · intro nodup
    refine nodup.map_on fun first isFirst second isSecond same => ?_
    exact List.inj_on_of_nodup_map distinct (subset isFirst) (subset isSecond) same

theorem claimedSlots_subset : builder.claimedSlots ⊆ builder.slots := by
  rw [claimedSlots]
  split
  · exact List.Subset.refl _
  · exact List.take_subset _ _
  · intro slot member
    obtain ⟨flat, _, found⟩ := List.mem_filterMap.mp member
    exact List.mem_of_find?_eq_some found

/-- Each position of a list without missing queues claims the slot at that position. -/
theorem map_flatIndex_claimedSlots {queues : List QueueId}
    (isClaim : builder.claim = .queues queues)
    (isClaimed : builder.claimedSlotsChecked = .ok claimed) :
    claimed.map (·.flatIndex) = queues := by
  rw [claimedSlotsChecked, isClaim] at isClaimed
  dsimp only at isClaimed
  split at isClaimed
  case isFalse => cases isClaimed
  case isTrue none =>
    cases isClaimed
    rw [claimedSlots, isClaim, List.map_filterMap]
    refine (List.filterMap_congr fun flat member => ?_).trans List.filterMap_some
    have available := List.filter_eq_nil_iff.mp (List.isEmpty_iff.mp none) flat member
    rw [Bool.not_eq_true', Bool.not_eq_false] at available
    obtain ⟨slot, found⟩ := Option.isSome_iff_exists.mp available
    rw [found]
    have same := List.find?_some found
    exact congrArg some (of_decide_eq_true same)

theorem claimedSlotsChecked_eq_ok (isClaimed : builder.claimedSlotsChecked = .ok claimed) :
    claimed = builder.claimedSlots := by
  rw [claimedSlotsChecked] at isClaimed
  split at isClaimed
  · dsimp only at isClaimed
    split at isClaimed
    · cases isClaimed
      rfl
    · cases isClaimed
  · cases isClaimed
    rfl

/-- A claim of discovered queues repeats one only by naming it twice. -/
theorem nodup_claimed_iff (flat : (builder.slots.map (·.flatIndex)).Nodup)
    (isClaimed : builder.claimedSlotsChecked = .ok claimed) :
    claimed.Nodup ↔ ∀ queues, builder.claim = .queues queues → queues.Nodup := by
  have subset : claimed ⊆ builder.slots :=
    claimedSlotsChecked_eq_ok isClaimed ▸ claimedSlots_subset
  cases isClaim : builder.claim with
  | queues queues =>
    rw [← nodup_map_iff_of_subset flat subset, map_flatIndex_claimedSlots isClaim isClaimed]
    constructor
    · rintro nodup _ ⟨⟩
      exact nodup
    · exact fun nodup => nodup queues rfl
  | all =>
    refine iff_of_true ?_ nofun
    rw [claimedSlotsChecked_eq_ok isClaimed, claimedSlots, isClaim]
    exact flat.of_map
  | first count =>
    refine iff_of_true ?_ nofun
    rw [claimedSlotsChecked_eq_ok isClaimed, claimedSlots, isClaim]
    exact flat.of_map.sublist (List.take_sublist _ _)

/-- The plans of a factory that is built share no queue, and none has a queue twice,
exactly when the claim does not name a queue twice. -/
theorem plans_share_no_queue_iff {registry : Registry} {factory : XdpFactory}
    (flat : (builder.slots.map (·.flatIndex)).Nodup)
    (distinct : (builder.slots.map fun slot => (slot.ifindex, slot.queue)).Nodup)
    (isBuilt : (builder.build host registry).1 = .ok factory) :
    (factory.plans.flatMap fun plan => plan.queues.map fun queue => (plan.ifindex, queue)).Nodup ↔
      ∀ queues, builder.claim = .queues queues → queues.Nodup := by
  have outcome := buildOutcome_build host builder registry
  generalize builder.build host registry = result at outcome isBuilt
  cases outcome with
  | built isChecked _ _ isPlan =>
    cases isBuilt
    have isClaimed := (checked_eq_ok isChecked).1
    rw [← nodup_claimed_iff flat isClaimed, (partitionsQueues_of_plans isPlan).pairs.nodup_iff]
    refine nodup_map_iff_of_subset distinct ?_
    exact claimedSlotsChecked_eq_ok isClaimed ▸ claimedSlots_subset
  | _ => cases isBuilt

/-- Claims the queues at some positions for two threads. -/
def claimsQueues (queues : List QueueId) : XdpFactoryBuilder :=
  { twoThreads with claim := .queues queues }

theorem plans_share_no_queue_four :
    ∃ factory, ((claimsQueues [3, 1, 2, 0]).build twoNodes ∅).1 = .ok factory ∧
      (factory.plans.flatMap fun plan =>
        plan.queues.map fun queue => (plan.ifindex, queue)).Nodup := by
  have builds : ((claimsQueues [3, 1, 2, 0]).build twoNodes ∅).1.toOption.isSome = true := by
    decide +kernel
  have flat : ((claimsQueues [3, 1, 2, 0]).slots.map (·.flatIndex)).Nodup := by decide
  have distinct : ((claimsQueues [3, 1, 2, 0]).slots.map fun slot =>
      (slot.ifindex, slot.queue)).Nodup := by decide
  cases isBuilt : ((claimsQueues [3, 1, 2, 0]).build twoNodes ∅).1 with
  | error stop =>
    rw [isBuilt] at builds
    cases builds
  | ok factory =>
    refine ⟨factory, rfl, (plans_share_no_queue_iff flat distinct isBuilt).mpr ?_⟩
    rintro _ ⟨⟩
    decide

/-- The same queue for two workers. -/
def sharedPlans : List XdpWorkerPlan :=
  [{ cpu := 0, numa := some 0, ifindex := 2, queues := [0], queueId := 0, portFilter := .allIp },
    { cpu := 1, numa := some 0, ifindex := 2, queues := [0], queueId := 0, portFilter := .allIp }]

/-- A queue that is claimed twice goes to two workers. -/
theorem plans_share_claimed_twice :
    ((claimsQueues [1, 1]).slots.map (·.flatIndex)).Nodup ∧
      ((claimsQueues [1, 1]).slots.map fun slot => (slot.ifindex, slot.queue)).Nodup ∧
      ((claimsQueues [1, 1]).build twoNodes ∅).1 =
        .ok { plans := sharedPlans, programs := [2] } ∧
      ¬ (sharedPlans.flatMap fun plan =>
        plan.queues.map fun queue => (plan.ifindex, queue)).Nodup := by
  decide +kernel

end XdpFactoryBuilder

end FastSocket.Xdp
