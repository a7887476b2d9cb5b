import FastSocket.Xdp.SharedMembers

/-!
# Opening is all or nothing

An aggregate that cannot be opened leaves the program as it was: every failing step
before the registration touches nothing, the registration takes itself back, and nothing
fails behind it.  An open aggregate is undone by the drops of its members, in any order.
-/

namespace FastSocket.Xdp

open Ebpf Packet Transition

/-- The map writes that take registrations back succeed. -/
def OpenHost.CleansUp (host : OpenHost) : Prop :=
  ∀ queue, host.unregisters queue = true

/-- Members without a port. -/
def plainMembers (pairs : List (QueueId × Nat)) : List LiveMember :=
  pairs.map fun pair => ⟨pair.1, pair.2, none⟩

theorem map_queue_plainMembers (pairs : List (QueueId × Nat)) :
    (plainMembers pairs).map (·.queue) = pairs.map Prod.fst := by
  rw [plainMembers, List.map_map]
  rfl

section Registration

variable {others : ProgramUses} {loaded : SocketProgram} {host : OpenHost}
  {pairs : List (QueueId × Nat)} (cleansUp : host.CleansUp)

include cleansUp

theorem uses_unregisterAll (holds : Holds others (plainMembers pairs) loaded) :
    (unregisterAll host (pairs.map Prod.fst) loaded).uses = others := by
  induction pairs generalizing loaded with
  | nil => exact holds.uses_eq
  | cons pair rest ih =>
    have removed := holds.unregister
    rw [← cleansUp pair.1] at removed
    exact ih removed

/-- Either all of the sockets are registered or none. -/
theorem registerAll_cases {done : List (QueueId × Nat)} (index : Nat)
    (holds : Holds others (plainMembers done) loaded)
    (distinct : ((done ++ pairs).map Prod.fst).Nodup)
    (fresh : ∀ pair ∈ pairs, pair.1 ∉ others.registeredQueues) :
    (∃ error target, registerAll host index pairs (done.map Prod.fst) loaded =
        (.error error, target) ∧ target.uses = others) ∨
      ∃ target, registerAll host index pairs (done.map Prod.fst) loaded =
        (.ok ((done ++ pairs).map Prod.fst), target) ∧
          Holds others (plainMembers (done ++ pairs)) target := by
  induction pairs generalizing done index loaded with
  | nil =>
    rw [List.append_nil]
    exact .inr ⟨loaded, rfl, holds⟩
  | cons pair rest ih =>
    obtain ⟨queue, socket⟩ := pair
    rw [registerAll]
    cases host.registers index with
    | false =>
      exact .inl ⟨_, _, rfl, uses_unregisterAll cleansUp holds⟩
    | true =>
      obtain ⟨unregistered, freshRest⟩ := List.forall_mem_cons.mp fresh
      have unused : queue ∉ (plainMembers done).map (·.queue) := by
        rw [map_queue_plainMembers]
        rw [List.map_append] at distinct
        exact fun isDone =>
          (List.nodup_append.mp distinct).2.2 queue isDone queue List.mem_cons_self rfl
      have added : Holds others (plainMembers (done ++ [(queue, socket)]))
          (loaded.registerSocket queue socket true).2 := by
        refine (holds.register unused unregistered).perm ?_
        rw [plainMembers, plainMembers, List.map_append]
        exact List.perm_append_singleton _ _ |>.symm
      rw [List.append_cons] at distinct
      have goesOn := ih (index + 1) added distinct freshRest
      rw [List.map_append, ← List.append_cons] at goesOn
      exact goesOn

end Registration

/-! ## The whole call -/

namespace SharedOpenConfig

variable {config : SharedOpenConfig} {host : OpenHost} {queues : List QueueId}
  {loaded : SocketProgram}

theorem liveMembers_cons (queue : QueueId) (socket : Nat) (restQueues : List QueueId)
    (restSockets : List Nat) :
    config.liveMembers (queue :: restQueues) (socket :: restSockets) =
      ⟨queue, socket, config.bindUdpPort⟩ :: plainMembers (restQueues.zip restSockets) := by
  rw [liveMembers, List.zip_cons_cons, List.mapIdx_cons]
  refine congrArg (_ :: ·) (List.ext_getElem ?_ ?_)
  · rw [List.length_mapIdx, plainMembers, List.length_map]
  · intro index _ _
    rw [List.getElem_mapIdx]
    simp only [plainMembers, List.getElem_map, if_neg (Nat.succ_ne_zero index)]

theorem liveMembers_of_none (none : config.bindUdpPort = none) (queues : List QueueId)
    (sockets : List Nat) :
    config.liveMembers queues sockets = plainMembers (queues.zip sockets) := by
  rw [liveMembers, none]
  refine List.ext_getElem ?_ ?_
  · rw [List.length_mapIdx, plainMembers, List.length_map]
  · intro index _ _
    rw [List.getElem_mapIdx]
    simp only [plainMembers, List.getElem_map, ite_self]

variable {sockets : List Nat}

/-- The registration adds what the members hold, or nothing. -/
theorem registerMembers_cases (cleansUp : host.CleansUp) (distinct : queues.Nodup)
    (length : sockets.length = queues.length) (someQueues : queues ≠ [])
    (fresh : ∀ queue ∈ queues, queue ∉ loaded.registeredQueues) :
    (∃ error target, config.registerMembers host queues sockets loaded = (.error error, target) ∧
      target.uses = loaded.uses) ∨
    ∃ target, config.registerMembers host queues sockets loaded = (.ok (), target) ∧
      Holds loaded.uses (config.liveMembers queues sockets) target := by
  have areQueues : (queues.zip sockets).map Prod.fst = queues :=
    List.map_fst_zip length.ge
  have freshPairs : ∀ pair ∈ queues.zip sockets, pair.1 ∉ loaded.registeredQueues :=
    fun pair isPair => fresh pair.1 (areQueues ▸ List.mem_map_of_mem isPair)
  have registration := @registerAll_cases loaded.uses loaded host (queues.zip sockets) cleansUp [] 0
    (holds_nil loaded) (areQueues.symm ▸ distinct) freshPairs
  rw [registerMembers]
  rcases registration with ⟨error, target, failed, same⟩ | ⟨registered, succeeded, holds⟩
  · left
    rw [List.map_nil] at failed
    rw [failed]
    exact ⟨error, target, rfl, same⟩
  · rw [List.map_nil] at succeeded
    rw [succeeded]
    dsimp only
    cases isPort : config.bindUdpPort with
    | none => exact .inr ⟨registered, rfl, liveMembers_of_none isPort queues sockets ▸ holds⟩
    | some port =>
      dsimp only
      cases bound : registered.bindPort port host.binds with
      | mk result target =>
        cases result with
        | error error =>
          have kept := holds.bindPort_of_error (congrArg Prod.fst bound)
          rw [bound] at kept
          exact .inl ⟨error, _, rfl, uses_unregisterAll cleansUp kept⟩
        | ok _ =>
          refine .inr ⟨target, rfl, ?_⟩
          cases queues with
          | nil => exact absurd rfl someQueues
          | cons queue restQueues =>
            cases sockets with
            | nil => cases length
            | cons socket restSockets =>
              have taken := holds.bindPort (congrArg Prod.fst bound)
              rw [bound] at taken
              rw [liveMembers_cons, isPort]
              exact taken

/-- Nothing fails behind the registration. -/
theorem openSharedMembers_of_registered {frameSize : Nat} {registered : SocketProgram}
    (created : config.newMembers host queues = .ok (frameSize, sockets))
    (isRegistered : config.registerMembers host queues sockets loaded = (.ok (), registered)) :
    ∃ reclaim, config.openSharedMembers host queues loaded =
      (.ok (reclaim, config.liveMembers queues sockets), registered) := by
  have prepared := prepared_of_newMembers created
  obtain ⟨reclaim, isReclaim⟩ := exists_ofMemberSlices prepared.sizePow prepared.two
    prepared.countPow (config.totalFrames queues)
  refine ⟨reclaim, ?_⟩
  rw [openSharedMembers, created]
  dsimp only
  rw [isRegistered]
  dsimp only
  rw [rxFrames, isReclaim]

/-- The ways opening can go: it changes nothing, or its members hold what they add. -/
theorem openSharedMembers_cases (someQueues : queues ≠ []) (cleansUp : host.CleansUp)
    (fresh : ∀ queue ∈ queues, queue ∉ loaded.registeredQueues) :
    (∃ stop target, config.openSharedMembers host queues loaded = (.error stop, target) ∧
      target.uses = loaded.uses) ∨
    ∃ reclaim sockets target, sockets.length = queues.length ∧
      config.openSharedMembers host queues loaded =
        (.ok (reclaim, config.liveMembers queues sockets), target) ∧
      Holds loaded.uses (config.liveMembers queues sockets) target := by
  cases created : config.newMembers host queues with
  | error stop =>
    left
    rw [openSharedMembers, created]
    exact ⟨stop, loaded, rfl, rfl⟩
  | ok prepared =>
    obtain ⟨frameSize, sockets⟩ := prepared
    have prepared := prepared_of_newMembers created
    rcases registerMembers_cases cleansUp prepared.distinct prepared.length someQueues fresh with
      ⟨error, target, failed, same⟩ | ⟨target, succeeded, holds⟩
    · left
      rw [openSharedMembers, created]
      dsimp only
      rw [failed]
      exact ⟨_, target, rfl, same⟩
    · obtain ⟨reclaim, opened⟩ := openSharedMembers_of_registered created succeeded
      exact .inr ⟨reclaim, sockets, target, prepared.length, opened, holds⟩

/-- Opening an aggregate is all or nothing.  When it fails, the registered queues and the
references of ports are those before the call; nothing fails behind the registration; and
dropping the members of an open aggregate, in any order, gives back what was there
before. -/
theorem openSharedMembers_all_or_nothing (someQueues : queues ≠ []) (cleansUp : host.CleansUp)
    (fresh : ∀ queue ∈ queues, queue ∉ loaded.registeredQueues) :
    (∀ stop target, config.openSharedMembers host queues loaded = (.error stop, target) →
      target.uses = loaded.uses) ∧
    (∀ frameSize sockets registered,
      config.newMembers host queues = .ok (frameSize, sockets) →
      config.registerMembers host queues sockets loaded = (.ok (), registered) →
      ∃ opened, config.openSharedMembers host queues loaded = (.ok opened, registered)) ∧
    ∀ opened target, config.openSharedMembers host queues loaded = (.ok opened, target) →
      ∀ order, order.Perm opened.2 → ∀ writes : LiveMember → DropWrites,
        (∀ member, (writes member).Clears) →
        (dropMembers writes order target).uses = loaded.uses := by
  refine ⟨?_, ?_, ?_⟩
  · intro stop target failed
    rcases openSharedMembers_cases someQueues cleansUp fresh with
      ⟨_, _, isFailed, same⟩ | ⟨_, _, _, _, succeeded, _⟩
    · cases isFailed.symm.trans failed
      exact same
    · cases succeeded.symm.trans failed
  · intro frameSize sockets registered created isRegistered
    obtain ⟨reclaim, opened⟩ := openSharedMembers_of_registered created isRegistered
    exact ⟨_, opened⟩
  · intro opened target succeeded order isOrder writes clears
    rcases openSharedMembers_cases someQueues cleansUp fresh with
      ⟨_, _, failed, _⟩ | ⟨_, _, _, _, isOpened, holds⟩
    · cases failed.symm.trans succeeded
    · cases isOpened.symm.trans succeeded
      exact (holds.perm isOrder.symm).uses_dropMembers clears

/-- A bound-ports program without users. -/
def unusedProgram : SocketProgram :=
  { program := ⟨.boundPorts, .zeroed, ∅⟩
    wellFormed := @XdpProgram.wellFormed_loadAndAttach .boundPorts _ rfl
    sockets := fun _ => none
    synced := fun _ => rfl
    registeredQueues := ∅ }

/-- Members with a port of their own. -/
def sampleOpen : SharedOpenConfig :=
  { ifindex := 2, attachedProgram := some 2, rxChunkSize := 2048, txChunkSize := 2000
    rxL2Headroom := 14, frameCount := 4, bindUdpPort := some 5001#16 }

/-- A host that answers all calls, apart from registrations. -/
def sampleOpenHost (registers : Nat → Bool) : OpenHost :=
  { numaNode := true
    loads := true
    mapsUmem := true
    socket := fun index => some (10 + index)
    registers := registers
    binds := .all
    unregisters := fun _ => true }

/-- The second of two sockets cannot be registered, or both can and are dropped. -/
theorem openSharedMembers_all_or_nothing_two :
    (∃ stop target, sampleOpen.openSharedMembers (sampleOpenHost (· = 0)) [3, 5] unusedProgram =
      (.error stop, target) ∧ target.uses = unusedProgram.uses) ∧
    ∃ opened target, sampleOpen.openSharedMembers (sampleOpenHost fun _ => true) [3, 5]
        unusedProgram = (.ok opened, target) ∧
      (dropMembers (fun _ => ⟨.all, true⟩) opened.2 target).uses =
        unusedProgram.uses := by
  have fresh : ∀ queue ∈ [3, 5], queue ∉ unusedProgram.registeredQueues :=
    fun _ _ => Finset.notMem_empty _
  have fails : (sampleOpen.openSharedMembers (sampleOpenHost (· = 0)) [3, 5]
      unusedProgram).1.toOption.isNone = true := by decide +kernel
  have opens : (sampleOpen.openSharedMembers (sampleOpenHost fun _ => true) [3, 5]
      unusedProgram).1.toOption.isSome = true := by decide +kernel
  constructor
  · rcases isFailed : sampleOpen.openSharedMembers (sampleOpenHost (· = 0)) [3, 5]
      unusedProgram with ⟨stop | opened, target⟩
    · exact ⟨stop, target, rfl, (openSharedMembers_all_or_nothing (by decide) (fun _ => rfl)
        fresh).1 stop target isFailed⟩
    · rw [isFailed] at fails
      cases fails
  · rcases isOpened : sampleOpen.openSharedMembers (sampleOpenHost fun _ => true) [3, 5]
      unusedProgram with ⟨stop | opened, target⟩
    · rw [isOpened] at opens
      cases opens
    · exact ⟨opened, target, rfl, (openSharedMembers_all_or_nothing (by decide) (fun _ => rfl)
        fresh).2.2 opened target isOpened opened.2 (.refl _) _ fun _ => ⟨rfl, rfl⟩⟩

end SharedOpenConfig

end FastSocket.Xdp
