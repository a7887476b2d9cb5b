import FastSocket.Xdp.SharedRollback

/-!
# The port of an aggregate

The members of an aggregate can be taken apart and dropped one by one, while other
users of the program come and go.  Each member has a registration of its own, but only
the first one has a reference of the UDP port.  When it is dropped before the others, the
port is no longer redirected to them, unless another user keeps it.
-/

namespace FastSocket.Xdp

open Ebpf Packet Transition

/-- A program with the live members of an aggregate and what the other users of the
program hold. -/
structure SharedUsers where
  loaded : SocketProgram
  live : List LiveMember
  others : ProgramUses

/-- A member is dropped, or another user takes or gives back something of its own. -/
inductive SharedUse where
  | drop (queue : QueueId)
  | bindPort (port : Word)
  | unbindPort (port : Word)
  | registerSocket (queue : QueueId) (socket : Nat)
  | unregisterSocket (queue : QueueId)
deriving DecidableEq, Repr

namespace SharedUsers

/-- A step while all map writes succeed.  A queue has one socket at a time, and the others
give back only what is theirs. -/
def step (users : SharedUsers) : SharedUse → Option SharedUsers
  | .drop queue =>
    (users.live.find? (·.queue = queue)).map fun member =>
      { users with
        loaded := member.drop ⟨PortWrites.all, true⟩ users.loaded
        live := users.live.erase member }
  | .bindPort port =>
    some { users with
      loaded := (users.loaded.bindPort port PortWrites.all).2
      others := { users.others with
        refcount := PortLedger.countCall users.others.refcount port } }
  | .unbindPort port =>
    if 0 < users.others.refcount port then
      some { users with
        loaded := (users.loaded.unbindPort port PortWrites.all).2
        others := { users.others with
          refcount := Function.update users.others.refcount port
            (users.others.refcount port - 1) } }
    else
      none
  | .registerSocket queue socket =>
    if queue ∉ users.loaded.registeredQueues then
      some { users with
        loaded := (users.loaded.registerSocket queue socket true).2
        others := { users.others with
          registeredQueues := insert queue users.others.registeredQueues } }
    else
      none
  | .unregisterSocket queue =>
    if queue ∈ users.others.registeredQueues then
      some { users with
        loaded := (users.loaded.unregisterSocket queue true).2
        others := { users.others with
          registeredQueues := users.others.registeredQueues.erase queue } }
    else
      none

end SharedUsers

/-- Packets to a port that arrive on a queue are handed to a socket. -/
def Reaches (loaded : SocketProgram) (port : Word) (queue : QueueId) (socket : Nat) : Prop :=
  loaded.sockets queue = some socket ∧
    ∀ packet, packetUdpDestinationPort packet = .ok (some port) →
      (loaded.program.handle ⟨packet, queue⟩).1 = .redirect

/-- The port is in use, and every live member gets its packets on its own queue. -/
def SharedUsers.KeepPort (users : SharedUsers) (port : Word) : Prop :=
  0 < users.loaded.refcount port ∧ ∀ member ∈ users.live,
    member.queue ∈ users.loaded.registeredQueues ∧
      Reaches users.loaded port member.queue member.socket

/-! ## The other users -/

namespace Holds

variable {others : ProgramUses} {live : List LiveMember} {loaded : SocketProgram}

theorem mem_registeredQueues (holds : Holds others live loaded) {member : LiveMember}
    (isLive : member ∈ live) : member.queue ∈ loaded.registeredQueues := by
  rw [holds.registeredQueues, Finset.mem_union, List.mem_toFinset]
  exact .inr (List.mem_map_of_mem isLive)

/-- The reference counts change with those of the others. -/
theorem recount (holds : Holds others live loaded) {target : SocketProgram}
    {refcount : Word → Nat} (registered : target.registeredQueues = loaded.registeredQueues)
    (sockets : target.sockets = loaded.sockets)
    (config : target.program.config = loaded.program.config)
    (counted : ∀ port, target.refcount port = refcount port + (heldPorts live).count port) :
    Holds { others with refcount := refcount } live target := by
  refine ⟨holds.distinct, holds.fresh, registered.trans holds.registeredQueues, ?_, counted, ?_⟩
  · rw [sockets]
    exact holds.own
  · rw [config]
    exact holds.boundPorts

variable {queue : QueueId}

theorem registerOther (holds : Holds others live loaded) (socket : Nat)
    (unregistered : queue ∉ loaded.registeredQueues) :
    Holds { others with registeredQueues := insert queue others.registeredQueues } live
      (loaded.registerSocket queue socket true).2 := by
  have unused : queue ∉ live.map (·.queue) := by
    intro isLive
    obtain ⟨member, isMember, rfl⟩ := List.mem_map.mp isLive
    exact unregistered (holds.mem_registeredQueues isMember)
  refine ⟨holds.distinct, ?_, ?_, ?_, holds.refcount, holds.boundPorts⟩
  · intro member isLive
    rw [Finset.mem_insert, not_or]
    exact ⟨queue_ne_of_not_mem unused isLive, holds.fresh member isLive⟩
  · rw [Finset.insert_union, ← holds.registeredQueues]
    rfl
  · intro member isLive
    exact (Function.update_of_ne (queue_ne_of_not_mem unused isLive) _ _).trans
      (holds.own member isLive)

theorem unregisterOther (holds : Holds others live loaded)
    (registered : queue ∈ others.registeredQueues) :
    Holds { others with registeredQueues := others.registeredQueues.erase queue } live
      (loaded.unregisterSocket queue true).2 := by
  have unused : queue ∉ live.map (·.queue) := by
    intro isLive
    obtain ⟨member, isMember, rfl⟩ := List.mem_map.mp isLive
    exact holds.fresh member isMember registered
  refine ⟨holds.distinct, ?_, ?_, ?_, holds.refcount, holds.boundPorts⟩
  · exact fun member isLive isOther => holds.fresh member isLive (Finset.mem_of_mem_erase isOther)
  · change loaded.registeredQueues.erase queue = _
    rw [holds.registeredQueues, Finset.erase_union_distrib,
      Finset.erase_eq_of_notMem (mt List.mem_toFinset.mp unused)]
  · intro member isLive
    exact (Function.update_of_ne (queue_ne_of_not_mem unused isLive) _ _).trans
      (holds.own member isLive)

end Holds

/-! ## Runs -/

namespace SharedUsers

variable {users target : SharedUsers} {members : List LiveMember} {port : Word}

theorem config_drop (member : LiveMember) (writes : DropWrites) (loaded : SocketProgram) :
    (member.drop writes loaded).program.config = loaded.program.config := by
  obtain ⟨queue, socket, boundPort⟩ := member
  rw [LiveMember.drop, SocketProgram.unregisterSocket]
  cases boundPort with
  | none => split <;> rfl
  | some port => split <;> exact SocketProgram.config_unbindPort loaded.program port writes.port

/-- The members of an aggregate with a bound port are those of the program. -/
structure Inv (members : List LiveMember) (users : SharedUsers) : Prop where
  holds : Holds users.others users.live users.loaded
  boundPorts : users.loaded.program.config = .boundPorts
  members : users.live ⊆ members

theorem Inv.step (inv : Inv members users) {use : SharedUse}
    (taken : users.step use = some target) : Inv members target := by
  cases use with
  | drop queue =>
    obtain ⟨member, found, rfl⟩ := Option.map_eq_some_iff.mp taken
    have isLive := List.mem_of_find?_eq_some found
    refine ⟨(inv.holds.perm (List.perm_cons_erase isLive)).drop ⟨rfl, rfl⟩, ?_, ?_⟩
    · exact (config_drop member _ _).trans inv.boundPorts
    · exact fun other isOther => inv.members (List.mem_of_mem_erase isOther)
  | bindPort port =>
    cases taken
    have bound : (users.loaded.bindPort port PortWrites.all).1 = .ok () :=
      (XdpProgram.bindPort_eq_ok_iff inv.boundPorts port _).mpr (.inr ⟨rfl, rfl⟩)
    have config : (users.loaded.program.bindPort port PortWrites.all).2.config = _ :=
      (XdpProgram.bindPort_keeps _ _ _).1
    refine ⟨inv.holds.recount rfl rfl config ?_, config.trans inv.boundPorts, inv.members⟩
    intro other
    rw [(SocketProgram.refcount_bindPort_of_ok bound).2, PortLedger.countCall_apply,
      PortLedger.countCall_apply, inv.holds.refcount, Nat.add_right_comm]
  | unbindPort port =>
    obtain ⟨used, ⟨⟩⟩ := Option.ite_none_right_eq_some.mp taken
    have config := SocketProgram.config_unbindPort users.loaded.program port PortWrites.all
    have inUse : 0 < users.loaded.refcount port := by
      rw [inv.holds.refcount]
      exact Nat.add_pos_left used _
    have counted : users.loaded.refcount =
        PortLedger.countCall (users.loaded.unbindPort port PortWrites.all).2.refcount port :=
      SocketProgram.refcount_unbindPort inv.boundPorts inUse rfl
    refine ⟨inv.holds.recount rfl rfl config ?_, config.trans inv.boundPorts, inv.members⟩
    intro other
    have balance := inv.holds.refcount other
    rw [counted, PortLedger.countCall_apply] at balance
    change (users.loaded.unbindPort port PortWrites.all).2.refcount other = _
    rw [Function.update_apply]
    split at balance
    next same =>
      subst same
      rw [if_pos rfl]
      omega
    next differs =>
      rw [if_neg differs]
      exact balance
  | registerSocket queue socket =>
    obtain ⟨unregistered, ⟨⟩⟩ := Option.ite_none_right_eq_some.mp taken
    exact ⟨inv.holds.registerOther socket unregistered, inv.boundPorts, inv.members⟩
  | unregisterSocket queue =>
    obtain ⟨registered, ⟨⟩⟩ := Option.ite_none_right_eq_some.mp taken
    exact ⟨inv.holds.unregisterOther registered, inv.boundPorts, inv.members⟩

/-- A live member gets its packets exactly as long as its port is in use. -/
theorem Inv.keepPort_iff (inv : Inv members users) (port : Word) :
    users.KeepPort port ↔ 0 < users.loaded.refcount port := by
  refine ⟨And.left, fun used => ⟨used, fun member isLive => ?_⟩⟩
  have own := inv.holds.own member isLive
  refine ⟨inv.holds.mem_registeredQueues isLive, own, fun packet found => ?_⟩
  have accepts : users.loaded.program.Accepts port := by
    rw [XdpProgram.Accepts, inv.boundPorts]
    exact (XdpProgram.refcount_pos_iff users.loaded.wellFormed port).mp used
  have registered : users.loaded.program.maps.xskmap member.queue = true := by
    rw [users.loaded.synced, own]
    rfl
  rw [@XdpProgram.WellFormed.redirects port _ users.loaded.wellFormed ⟨packet, member.queue⟩ found
    accepts, redirectToXskmap, registered]
  rfl

end SharedUsers

namespace SharedOpenConfig

variable {config : SharedOpenConfig} {host : OpenHost} {queues : List QueueId}
  {loaded target : SocketProgram} {opened : CompletionReclaim × List LiveMember} {port : Word}

theorem mem_heldPorts_iff {first : LiveMember} {rest : List (QueueId × Nat)}
    (isPort : first.boundPort = some port) {live : List LiveMember}
    (members : live ⊆ first :: plainMembers rest) : port ∈ heldPorts live ↔ first ∈ live := by
  rw [heldPorts, List.mem_filterMap]
  constructor
  · rintro ⟨member, isLive, holdsPort⟩
    rcases List.mem_cons.mp (members isLive) with rfl | isPlain
    · exact isLive
    · obtain ⟨pair, _, rfl⟩ := List.mem_map.mp isPlain
      cases holdsPort
  · exact fun isLive => ⟨first, isLive, isPort⟩

/-- While a member of an aggregate with a bound port is alive, the port is in use and
every live member gets its packets on its own queue, exactly when the first member is
alive or another user of the program has bound the port. -/
theorem live_members_keep_port_iff (cleansUp : host.CleansUp)
    (fresh : ∀ queue ∈ queues, queue ∉ loaded.registeredQueues)
    (isPort : config.bindUdpPort = some port)
    (isOpen : config.openSharedMembers host queues loaded = (.ok opened, target))
    {uses : List SharedUse} {users : SharedUsers}
    (reached : run SharedUsers.step ⟨target, opened.2, loaded.uses⟩ uses = some users) :
    (users.live ≠ [] → users.KeepPort port) ↔
      users.live = [] ∨ (∃ first ∈ opened.2.head?, first ∈ users.live) ∨
        0 < users.others.refcount port := by
  have someQueues : queues ≠ [] := by
    rintro rfl
    cases isOpen
  obtain ⟨_, _, failed, _⟩ | ⟨reclaim, sockets, _, length, opens, holds⟩ :=
    @openSharedMembers_cases config host queues loaded someQueues cleansUp fresh
  · cases failed.symm.trans isOpen
  cases opens.symm.trans isOpen
  obtain ⟨queue, restQueues, rfl⟩ := List.exists_cons_of_ne_nil someQueues
  obtain ⟨socket, restSockets, rfl⟩ := List.exists_cons_of_length_eq_add_one length
  rw [liveMembers_cons, isPort] at holds reached ⊢
  have boundPorts : target.program.config = .boundPorts :=
    holds.boundPorts (List.cons_ne_nil _ _)
  have inv : SharedUsers.Inv _ users :=
    run_invariant_of_step (fun _ _ _ inv taken => inv.step taken)
      ⟨holds, boundPorts, List.Subset.refl _⟩ reached
  have used : 0 < users.loaded.refcount port ↔
      ⟨queue, socket, some port⟩ ∈ users.live ∨ 0 < users.others.refcount port := by
    rw [inv.holds.refcount, Nat.add_pos_iff_pos_or_pos, List.count_pos_iff,
      mem_heldPorts_iff rfl inv.members, or_comm]
  rw [inv.keepPort_iff, used, List.head?_cons]
  simp [imp_iff_not_or]

/-- The users of a program on which an aggregate of two members has been opened. -/
def sampleUsers : SharedUsers :=
  let opened := sampleOpen.openSharedMembers (sampleOpenHost fun _ => true) [3, 5] unusedProgram
  ⟨opened.2, opened.1.toOption.elim [] Prod.snd, unusedProgram.uses⟩

/-- The second of two members is dropped. -/
theorem live_members_keep_port_two :
    ∃ users, run SharedUsers.step sampleUsers [.drop 5] = some users ∧
      users.live ≠ [] ∧ users.KeepPort 5001#16 := by
  have opens : (sampleOpen.openSharedMembers (sampleOpenHost fun _ => true) [3, 5]
      unusedProgram).1.toOption.any
        (·.2.head? = some ⟨3, 10, some 5001#16⟩) = true := by decide +kernel
  have drops : (run SharedUsers.step sampleUsers [.drop 5]).any
      (·.live = [⟨3, 10, some 5001#16⟩]) = true := by decide +kernel
  obtain ⟨users, reached, isLive⟩ := (Option.any_eq_true _ _).mp drops
  have isLive : users.live = [⟨3, 10, some 5001#16⟩] := of_decide_eq_true isLive
  have someLive : users.live ≠ [] := isLive ▸ List.cons_ne_nil _ _
  refine ⟨users, reached, someLive, ?_⟩
  rw [sampleUsers] at reached
  rcases isOpen : sampleOpen.openSharedMembers (sampleOpenHost fun _ => true) [3, 5]
    unusedProgram with ⟨stop | opened, target⟩
  · rw [isOpen] at opens
    cases opens
  · rw [isOpen] at opens reached
    have first : opened.2.head? = some ⟨3, 10, some 5001#16⟩ := of_decide_eq_true opens
    refine (live_members_keep_port_iff (fun _ => rfl) (fun _ _ => Finset.notMem_empty _) rfl isOpen
      reached).mpr (.inr (.inl ⟨_, first, ?_⟩)) someLive
    rw [isLive]
    exact List.mem_cons_self

/-- The first of two members is dropped: the port is not redirected any more, while the
second one is alive. -/
theorem live_member_loses_port :
    ∃ users, run SharedUsers.step sampleUsers [.drop 3] = some users ∧
      users.live = [⟨5, 11, none⟩] ∧ users.loaded.refcount 5001#16 = 0 := by
  have drops : (run SharedUsers.step sampleUsers [.drop 3]).any (fun users =>
      users.live = [⟨5, 11, none⟩] ∧ users.loaded.refcount 5001#16 = 0) = true := by
    decide +kernel
  obtain ⟨users, reached, after⟩ := (Option.any_eq_true _ _).mp drops
  exact ⟨users, reached, of_decide_eq_true after⟩

end SharedOpenConfig

end FastSocket.Xdp
