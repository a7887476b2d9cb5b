import FastSocket.Xdp.SharedOpen

/-!
# Members hold their registrations

What an open aggregate adds to a program, and what its members take away again.  At each
moment the registered queues and the port references are those of the other users with
those of the live members.
-/

namespace FastSocket.Xdp

open Ebpf Packet Transition

/-! ## Before the registration -/

variable {queues : List QueueId} {sockets : List Nat} {frameSize : Nat} {member : LiveMember}

theorem nodup_of_firstRepeated {seen : List QueueId} (distinct : seen.Nodup)
    (none : firstRepeated seen queues = none) : (seen ++ queues).Nodup := by
  induction queues generalizing seen with
  | nil => rwa [List.append_nil]
  | cons queue rest ih =>
    rw [firstRepeated] at none
    split at none
    · cases none
    next unseen =>
      have longer : (seen ++ [queue]).Nodup := by
        rw [← List.concat_eq_append]
        exact distinct.concat unseen
      rw [List.append_cons]
      exact ih longer none

theorem mapError_eq_ok_iff {ε ε' α : Type} {computation : Except ε α} {change : ε → ε'}
    {value : α} : computation.mapError change = .ok value ↔ computation = .ok value := by
  cases computation with
  | error error => exact ⟨nofun, nofun⟩
  | ok other =>
    rw [Except.mapError, Except.ok.injEq, Except.ok.injEq]

theorem length_newSockets {host : OpenHost} {index : Nat}
    (created : newSockets host index queues = .ok sockets) : sockets.length = queues.length := by
  induction queues generalizing index sockets with
  | nil =>
    cases created
    rfl
  | cons queue rest ih =>
    rw [newSockets] at created
    split at created
    · cases created
    · cases others : newSockets host (index + 1) rest with
      | error error =>
        rw [others] at created
        cases created
      | ok more =>
        rw [others] at created
        cases created
        exact congrArg Nat.succ (ih others)

/-- The checks after the registration are implied by those before it. -/
theorem exists_ofMemberSlices {frameCount : Nat} (sizePow : frameSize.isPowerOfTwo)
    (two : 2 ≤ frameCount) (countPow : frameCount.isPowerOfTwo) (activeFrames : Nat) :
    ∃ reclaim, CompletionReclaim.ofMemberSlices frameSize frameCount (frameCount / 2)
      activeFrames = .ok reclaim := by
  have halfPow : (frameCount / 2).isPowerOfTwo := by
    obtain ⟨exponent, isPow⟩ := countPow
    cases exponent with
    | zero => omega
    | succ exponent =>
      refine ⟨exponent, ?_⟩
      rw [isPow, Nat.pow_succ]
      omega
  rw [CompletionReclaim.ofMemberSlices, if_neg (not_not.mpr sizePow), if_neg, if_neg, if_neg]
  · exact ⟨_, rfl⟩
  · omega
  · exact not_or.mpr ⟨by omega, not_not.mpr halfPow⟩
  · exact not_or.mpr ⟨by omega, not_not.mpr countPow⟩

namespace SharedOpenConfig

variable {config : SharedOpenConfig} {host : OpenHost}

/-- What the steps before the registration check. -/
structure Prepared (config : SharedOpenConfig) (queues : List QueueId) (frameSize : Nat)
    (sockets : List Nat) : Prop where
  distinct : queues.Nodup
  sizePow : frameSize.isPowerOfTwo
  two : 2 ≤ config.frameCount
  countPow : config.frameCount.isPowerOfTwo
  length : sockets.length = queues.length

theorem prepared_of_newMembers
    (created : config.newMembers host queues = .ok (frameSize, sockets)) :
    config.Prepared queues frameSize sockets := by
  rw [newMembers] at created
  obtain ⟨_, _, created⟩ := bind_eq_ok_iff.mp created
  obtain ⟨_, noRepeat, created⟩ := bind_eq_ok_iff.mp created
  obtain ⟨_, _, created⟩ := bind_eq_ok_iff.mp created
  obtain ⟨_, _, created⟩ := bind_eq_ok_iff.mp created
  obtain ⟨_, isSize, created⟩ := bind_eq_ok_iff.mp created
  obtain ⟨_, frames, created⟩ := bind_eq_ok_iff.mp created
  obtain ⟨_, _, created⟩ := bind_eq_ok_iff.mp created
  obtain ⟨_, _, created⟩ := bind_eq_ok_iff.mp created
  obtain ⟨_, _, created⟩ := bind_eq_ok_iff.mp created
  obtain ⟨_, areSockets, created⟩ := bind_eq_ok_iff.mp created
  cases created
  obtain ⟨two, countPow⟩ := ensure_eq_ok.mp frames
  refine ⟨?_, ?_, two, countPow, length_newSockets (mapError_eq_ok_iff.mp areSockets)⟩
  · have checked := mapError_eq_ok_iff.mp noRepeat
    rw [checkQueues] at checked
    split at checked
    · cases checked
    next none => exact nodup_of_firstRepeated List.nodup_nil none
  · have sized := mapError_eq_ok_iff.mp isSize
    rw [umemFrameSize] at sized
    split at sized
    · cases sized
      exact ⟨_, rfl⟩
    · cases sized

end SharedOpenConfig

/-! ## What members hold -/

/-- The port references of members. -/
def heldPorts (live : List LiveMember) : List Word :=
  live.filterMap (·.boundPort)

theorem heldPorts_cons_none (queue : QueueId) (socket : Nat) (rest : List LiveMember) :
    heldPorts (⟨queue, socket, none⟩ :: rest) = heldPorts rest :=
  rfl

theorem heldPorts_cons_some (queue : QueueId) (socket : Nat) (port : Word)
    (rest : List LiveMember) :
    heldPorts (⟨queue, socket, some port⟩ :: rest) = port :: heldPorts rest :=
  rfl

theorem count_port_cons (port other : Word) (ports : List Word) :
    (port :: ports).count other = ports.count other + if other = port then 1 else 0 := by
  by_cases same : other = port
  · rw [same, List.count_cons_self, if_pos rfl]
  · rw [List.count_cons_of_ne (Ne.symm same), if_neg same, Nat.add_zero]

theorem queue_ne_of_not_mem {live : List LiveMember} {queue : QueueId}
    (unused : queue ∉ live.map (·.queue)) (isLive : member ∈ live) : member.queue ≠ queue := by
  rintro rfl
  exact unused (List.mem_map_of_mem isLive)

/-- The uses of a program are those of the others with those of the live members. -/
structure Holds (others : ProgramUses) (live : List LiveMember) (loaded : SocketProgram) :
    Prop where
  distinct : (live.map (·.queue)).Nodup
  fresh : ∀ member ∈ live, member.queue ∉ others.registeredQueues
  registeredQueues : loaded.registeredQueues =
    others.registeredQueues ∪ (live.map (·.queue)).toFinset
  own : ∀ member ∈ live, loaded.sockets member.queue = some member.socket
  refcount : ∀ port, loaded.refcount port =
    others.refcount port + (heldPorts live).count port
  boundPorts : heldPorts live ≠ [] → loaded.program.config = .boundPorts

theorem holds_nil (loaded : SocketProgram) : Holds loaded.uses [] loaded :=
  ⟨List.nodup_nil, nofun, (Finset.union_empty _).symm, nofun, fun _ => rfl,
    fun some => absurd rfl some⟩

namespace Holds

variable {others : ProgramUses} {live rest : List LiveMember} {loaded : SocketProgram}
  {queue : QueueId} {socket : Nat} {port : Word}

theorem uses_eq (holds : Holds others [] loaded) : loaded.uses = others := by
  refine ProgramUses.ext ?_ (funext holds.refcount)
  exact holds.registeredQueues.trans (Finset.union_empty _)

theorem perm {order : List LiveMember} (holds : Holds others live loaded)
    (same : live.Perm order) : Holds others order loaded := by
  have queues := same.map (·.queue)
  have ports : (heldPorts live).Perm (heldPorts order) := same.filterMap _
  refine ⟨queues.nodup_iff.mp holds.distinct, ?_, ?_, ?_, ?_, ?_⟩
  · exact fun member isLive => holds.fresh member (same.mem_iff.mpr isLive)
  · rw [← List.toFinset_eq_of_perm _ _ queues]
    exact holds.registeredQueues
  · exact fun member isLive => holds.own member (same.mem_iff.mpr isLive)
  · intro port
    rw [← ports.count_eq]
    exact holds.refcount port
  · intro some
    exact holds.boundPorts fun none => some (List.perm_nil.mp (none ▸ ports.symm))

theorem register (holds : Holds others live loaded) (unused : queue ∉ live.map (·.queue))
    (unregistered : queue ∉ others.registeredQueues) :
    Holds others (⟨queue, socket, none⟩ :: live) (loaded.registerSocket queue socket true).2 := by
  refine ⟨List.nodup_cons.mpr ⟨unused, holds.distinct⟩,
    List.forall_mem_cons.mpr ⟨unregistered, holds.fresh⟩, ?_, ?_, holds.refcount, holds.boundPorts⟩
  · rw [List.map_cons, List.toFinset_cons, Finset.union_insert, ← holds.registeredQueues]
    rfl
  · refine List.forall_mem_cons.mpr ⟨Function.update_self _ _ _, ?_⟩
    intro member isLive
    exact (Function.update_of_ne (queue_ne_of_not_mem unused isLive) _ _).trans (holds.own member isLive)

theorem unregister (holds : Holds others (⟨queue, socket, none⟩ :: rest) loaded) :
    Holds others rest (loaded.unregisterSocket queue true).2 := by
  obtain ⟨isUnused, distinct⟩ := List.nodup_cons.mp holds.distinct
  obtain ⟨unregistered, fresh⟩ := List.forall_mem_cons.mp holds.fresh
  have unused : queue ∉ rest.map (·.queue) := isUnused
  refine ⟨distinct, fresh, ?_, ?_, holds.refcount, holds.boundPorts⟩
  · have absent : queue ∉ others.registeredQueues ∪ (rest.map (·.queue)).toFinset := by
      rw [Finset.mem_union, List.mem_toFinset, not_or]
      exact ⟨unregistered, unused⟩
    change loaded.registeredQueues.erase queue = _
    rw [holds.registeredQueues, List.map_cons, List.toFinset_cons, Finset.union_insert,
      Finset.erase_insert absent]
  · intro member isLive
    exact (Function.update_of_ne (queue_ne_of_not_mem unused isLive) _ _).trans
      (holds.own member (List.mem_cons_of_mem _ isLive))

variable {writes : PortWrites}

theorem bindPort (holds : Holds others (⟨queue, socket, none⟩ :: rest) loaded)
    (succeeded : (loaded.bindPort port writes).1 = .ok ()) :
    Holds others (⟨queue, socket, some port⟩ :: rest) (loaded.bindPort port writes).2 := by
  obtain ⟨isBoundPorts, counted⟩ := SocketProgram.refcount_bindPort_of_ok succeeded
  refine ⟨holds.distinct, List.forall_mem_cons.mpr (List.forall_mem_cons.mp holds.fresh),
    holds.registeredQueues, List.forall_mem_cons.mpr (List.forall_mem_cons.mp holds.own), ?_, ?_⟩
  · intro other
    have refcount := holds.refcount other
    rw [counted, PortLedger.countCall_apply, refcount, heldPorts_cons_none, heldPorts_cons_some,
      count_port_cons, Nat.add_assoc]
  · intro _
    exact (XdpProgram.bindPort_keeps loaded.program port writes).1.trans isBoundPorts

/-- A bind that fails changes nothing of this. -/
theorem bindPort_of_error {error : ProgramError} (holds : Holds others live loaded)
    (failed : (loaded.bindPort port writes).1 = .error error) :
    Holds others live (loaded.bindPort port writes).2 := by
  refine ⟨holds.distinct, holds.fresh, holds.registeredQueues, holds.own, ?_, ?_⟩
  · rw [SocketProgram.refcount_bindPort_of_error failed]
    exact holds.refcount
  · intro some
    exact (XdpProgram.bindPort_keeps loaded.program port writes).1.trans (holds.boundPorts some)

theorem unbindPort (cleared : writes.port = true)
    (holds : Holds others (⟨queue, socket, some port⟩ :: rest) loaded) :
    Holds others (⟨queue, socket, none⟩ :: rest) (loaded.unbindPort port writes).2 := by
  have isBoundPorts := holds.boundPorts (List.cons_ne_nil _ _)
  have refcount := holds.refcount
  rw [heldPorts_cons_some] at refcount
  have used : 0 < loaded.refcount port := by
    rw [refcount, List.count_cons_self]
    exact Nat.succ_pos _
  have counted := SocketProgram.refcount_unbindPort isBoundPorts used cleared
  refine ⟨holds.distinct, List.forall_mem_cons.mpr (List.forall_mem_cons.mp holds.fresh),
    holds.registeredQueues, List.forall_mem_cons.mpr (List.forall_mem_cons.mp holds.own), ?_, ?_⟩
  · intro other
    have balance := refcount other
    rw [counted, PortLedger.countCall_apply, count_port_cons] at balance
    rw [heldPorts_cons_none]
    omega
  · intro _
    exact (SocketProgram.config_unbindPort loaded.program port writes).trans isBoundPorts

/-- A member that is dropped takes what it holds away. -/
theorem drop {writes : DropWrites} (clears : writes.Clears)
    (holds : Holds others (member :: rest) loaded) :
    Holds others rest (member.drop writes loaded) := by
  obtain ⟨queue, socket, boundPort⟩ := member
  rw [LiveMember.drop, clears.2]
  cases boundPort with
  | none => exact holds.unregister
  | some port => exact (holds.unbindPort clears.1).unregister

/-- When all members are dropped, the uses of the others are left. -/
theorem uses_dropMembers {writes : LiveMember → DropWrites}
    (clears : ∀ member, (writes member).Clears) (holds : Holds others live loaded) :
    (dropMembers writes live loaded).uses = others := by
  induction live generalizing loaded with
  | nil => exact holds.uses_eq
  | cons member rest ih => exact ih (holds.drop (clears member))

end Holds

end FastSocket.Xdp
