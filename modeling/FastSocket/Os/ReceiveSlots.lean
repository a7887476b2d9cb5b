import FastSocket.Os.Receive

/-!
# The slots of a receive call

A call takes buffers from the pool only for slots that have none, and every posted slot has
a buffer.  Each message arrives in the buffer of its own slot, since no two slots share a
buffer.
-/

namespace FastSocket.Os

open Packet Buffer Transition

/-! ## Prepared buffers -/

/-- The buffer that a slot keeps. -/
def RecvSlot.vector? (slot : RecvSlot) : Option Buffer :=
  slot.buffer.map RxBuffer.vector

/-- The buffers that the slots keep. -/
def prepared (slots : List RecvSlot) : List Buffer :=
  slots.filterMap RecvSlot.vector?

theorem prepared_append (front back : List RecvSlot) :
    prepared (front ++ back) = prepared front ++ prepared back :=
  List.filterMap_append

theorem prepared_cons (slot : RecvSlot) (rest : List RecvSlot) :
    prepared (slot :: rest) = slot.vector?.toList ++ prepared rest := by
  rw [prepared, List.filterMap_cons]
  cases slot.vector? with
  | none => rfl
  | some vector => rfl

variable {slot : RecvSlot} {buffer : RxBuffer} {vector : Buffer} {slots : List RecvSlot}
  {write : Iovec × List Byte} {writes : List (Iovec × List Byte)}

theorem prepared_cons_of_none (empty : slot.buffer = none) (rest : List RecvSlot) :
    prepared (slot :: rest) = prepared rest := by
  rw [prepared_cons, RecvSlot.vector?, empty]
  rfl

theorem prepared_cons_of_some (kept : slot.buffer = some buffer) (rest : List RecvSlot) :
    prepared (slot :: rest) = buffer.vector :: prepared rest := by
  rw [prepared_cons, RecvSlot.vector?, kept]
  rfl

/-- A buffer of a slot has the memory of the layout, and the slot has its address
storage. -/
structure RecvSlot.Sized (layout : BufferLayout) (slot : RecvSlot) : Prop where
  name : slot.name.length = sockaddrStorageLen
  buffer : ∀ buffer ∈ slot.buffer, buffer.packet.layout = layout ∧
    PacketStorage.capacity buffer.packet.storage = layout.chunkSize

theorem RecvSlot.sized_new (layout : BufferLayout) : RecvSlot.new.Sized layout where
  name := List.length_replicate
  buffer := nofun

/-! ## Filling -/

/-- What filling slots does to the pool and the slots. -/
structure Fills (layout : BufferLayout) (maxBuffers : Nat) (pool : OsPool)
    (slots : List RecvSlot) (filled : Filled) : Prop where
  conserved : filled.pool.Conserved maxBuffers
  same : OsPool.SameUsers pool filled.pool
  /-- What the pool has lent more, the slots have more. -/
  lent : ∃ fresh, filled.pool.inFlight = fresh ++ pool.inFlight ∧
    (prepared filled.slots).Perm (fresh ++ prepared slots)
  length : filled.slots.length = slots.length
  ready : ∀ slot ∈ filled.slots.take filled.count, slot.buffer.isSome
  sized : (∀ slot ∈ slots, slot.Sized layout) → ∀ slot ∈ filled.slots, slot.Sized layout

section Fill

variable {layout : BufferLayout} {contents : Buffer → List Byte} {maxBuffers : Nat} {pool : OsPool}
  {rest : List RecvSlot} {filled : Filled}

theorem fills_refl (conserved : pool.Conserved maxBuffers) (slots : List RecvSlot) :
    Fills layout maxBuffers pool slots { count := 0, pool := pool, slots := slots } :=
  ⟨conserved, .refl, ⟨[], rfl, .refl _⟩, rfl, nofun, id⟩

theorem sized_allocate (vector : Buffer) (slot : RecvSlot) (sized : slot.Sized layout) :
    RecvSlot.Sized layout { slot with
      buffer := some ⟨vector, OsBufferPool.allocate layout (contents vector)⟩ } where
  name := sized.name
  buffer := by
    rintro _ ⟨⟩
    exact ⟨rfl, OsPacketBufMut.capacity_allocate layout _⟩

/-- A slot that keeps its buffer stays in front of the filled ones. -/
theorem Fills.cons_of_some (kept : slot.buffer = some buffer)
    (fills : Fills layout maxBuffers pool rest filled) :
    Fills layout maxBuffers pool (slot :: rest)
      { filled with count := filled.count + 1, slots := slot :: filled.slots } where
  conserved := fills.conserved
  same := fills.same
  lent := by
    obtain ⟨fresh, inFlight, slots⟩ := fills.lent
    refine ⟨fresh, inFlight, ?_⟩
    rw [prepared_cons_of_some kept, prepared_cons_of_some kept]
    exact (slots.cons _).trans List.perm_middle.symm
  length := congrArg (· + 1) fills.length
  ready := List.forall_mem_cons.mpr ⟨Option.isSome_of_mem kept, fills.ready⟩
  sized := by
    intro sized
    obtain ⟨first, others⟩ := List.forall_mem_cons.mp sized
    exact List.forall_mem_cons.mpr ⟨first, fills.sized others⟩

/-- A slot gets a buffer that the pool lends. -/
theorem Fills.cons_of_none {next : OsPool} (empty : slot.buffer = none)
    (same : OsPool.SameUsers pool next) (inFlight : next.inFlight = vector :: pool.inFlight)
    (fills : Fills layout maxBuffers next rest filled) :
    Fills layout maxBuffers pool (slot :: rest) { filled with
      count := filled.count + 1
      slots := { slot with
        buffer := some ⟨vector, OsBufferPool.allocate layout (contents vector)⟩ } ::
          filled.slots } where
  conserved := fills.conserved
  same := same.trans fills.same
  lent := by
    obtain ⟨fresh, more, slots⟩ := fills.lent
    refine ⟨fresh ++ [vector], ?_, ?_⟩
    · rw [more, inFlight, List.append_assoc]
      rfl
    · rw [prepared_cons_of_none empty, prepared_cons_of_some rfl, List.append_assoc]
      exact (slots.cons _).trans List.perm_middle.symm
  length := congrArg (· + 1) fills.length
  ready := List.forall_mem_cons.mpr ⟨rfl, fills.ready⟩
  sized := by
    intro sized
    obtain ⟨first, others⟩ := List.forall_mem_cons.mp sized
    exact List.forall_mem_cons.mpr ⟨sized_allocate vector slot first, fills.sized others⟩

/-- The slots of a call are filled as long as the pool has buffers. -/
theorem fills_fillSlots (count : Nat) (slots : List RecvSlot)
    (conserved : pool.Conserved maxBuffers) (idle : pool.owner = .idle) :
    Fills layout maxBuffers pool slots (fillSlots layout contents count pool slots) := by
  fun_induction fillSlots layout contents count pool slots with
  | case1 => exact fills_refl conserved _
  | case2 => exact fills_refl conserved _
  | case3 left pool slot rest buffer kept filled ih => exact (ih conserved idle).cons_of_some kept
  | case4 left pool slot rest empty next failed =>
    have after := conserved.allocate idle
    obtain ⟨same, ⟨_, some, _⟩ | ⟨_, inFlight, _⟩⟩ := OsPool.allocate_cases conserved.counted
    · rw [failed] at some
      cases some
    · rw [failed] at after same inFlight
      exact ⟨after, same, ⟨[], inFlight, .refl _⟩, rfl, nofun, id⟩
  | case5 left pool slot rest empty vector next allocated packet slot' filled ih =>
    have after := conserved.allocate idle
    obtain ⟨same, ⟨_, some, inFlight⟩ | ⟨none, _⟩⟩ := OsPool.allocate_cases conserved.counted
    · rw [allocated] at after same some inFlight
      cases some
      exact (ih after (same.owner.trans idle)).cons_of_none empty same inFlight
    · rw [allocated] at none
      cases none

theorem count_fillSlots_le (count : Nat) (pool : OsPool) (slots : List RecvSlot) :
    (fillSlots layout contents count pool slots).count ≤ min count slots.length := by
  fun_induction fillSlots layout contents count pool slots with
  | case1 => exact Nat.zero_le _
  | case2 => exact Nat.zero_le _
  | case3 left pool slot rest buffer kept filled ih =>
    rw [List.length_cons, Nat.succ_eq_add_one, Nat.add_min_add_right]
    exact Nat.succ_le_succ ih
  | case4 => exact Nat.zero_le _
  | case5 left pool slot rest empty vector next allocated packet slot' filled ih =>
    rw [List.length_cons, Nat.succ_eq_add_one, Nat.add_min_add_right]
    exact Nat.succ_le_succ ih

/-- No slot is filled when the first one is empty and the pool has no buffer for it. -/
theorem count_fillSlots_eq_zero_iff (count : Nat) (pool : OsPool) (slot : RecvSlot)
    (rest : List RecvSlot) :
    (fillSlots layout contents (count + 1) pool (slot :: rest)).count = 0 ↔
      slot.buffer = none ∧ pool.allocate.1 = none := by
  rw [fillSlots]
  cases kept : slot.buffer with
  | some buffer => exact iff_of_false (Nat.succ_ne_zero _) nofun
  | none =>
    cases allocated : pool.allocate with
    | mk result next =>
      cases result with
      | none => exact iff_of_true rfl ⟨rfl, rfl⟩
      | some vector => exact iff_of_false (Nat.succ_ne_zero _) nofun

end Fill

/-! ## Posting -/

/-- A slot is posted with its own buffer. -/
structure RecvSlot.Posted (layout : BufferLayout) (slot : RecvSlot) : Prop where
  ready : slot.buffer.isSome
  base : slot.iov.base = slot.vector?
  len : slot.iov.len = layout.payloadCapacity

section Post

variable {layout : BufferLayout}

theorem RecvSlot.post_eq_ok {posted : RecvSlot} (done : slot.post = .ok posted)
    (sized : slot.Sized layout) :
    posted.buffer = slot.buffer ∧ posted.Sized layout ∧ posted.Posted layout := by
  rw [post] at done
  cases kept : slot.buffer with
  | none =>
    rw [kept] at done
    cases done
  | some buffer =>
    rw [kept] at done
    cases done
    have isLayout := (sized.buffer buffer kept).1
    refine ⟨rfl, ⟨sized.name, ?_⟩, rfl, rfl, congrArg BufferLayout.payloadCapacity isLayout⟩
    intro other isOther
    exact sized.buffer other (kept.trans isOther)

/-- Slots that have buffers can be posted, and keep them. -/
theorem exists_posted (ready : ∀ slot ∈ slots, slot.buffer.isSome)
    (sized : ∀ slot ∈ slots, slot.Sized layout) :
    ∃ posted, slots.mapM RecvSlot.post = .ok posted ∧
      posted.map RecvSlot.buffer = slots.map RecvSlot.buffer ∧
      ∀ slot ∈ posted, slot.Sized layout ∧ slot.Posted layout := by
  have each : ∀ slot ∈ slots, ∃ posted, slot.post = .ok posted := by
    intro slot member
    obtain ⟨buffer, kept⟩ := Option.isSome_iff_exists.mp (ready slot member)
    rw [RecvSlot.post, kept]
    exact ⟨_, rfl⟩
  obtain ⟨posted, done⟩ := exists_mapM_eq_ok.mpr each
  refine ⟨posted, done, ?_⟩
  have pairs := mapM_eq_ok done
  clear done each ready
  induction pairs with
  | nil => exact ⟨rfl, nofun⟩
  | cons first _ ih =>
    obtain ⟨sizedFirst, sizedRest⟩ := List.forall_mem_cons.mp sized
    obtain ⟨kept, facts⟩ := RecvSlot.post_eq_ok first sizedFirst
    obtain ⟨keptRest, factsRest⟩ := ih sizedRest
    rw [List.map_cons, List.map_cons, kept, keptRest]
    exact ⟨rfl, List.forall_mem_cons.mpr ⟨facts, factsRest⟩⟩

theorem prepared_eq_of_buffers {others : List RecvSlot}
    (same : slots.map RecvSlot.buffer = others.map RecvSlot.buffer) :
    prepared slots = prepared others := by
  have vectors : ∀ list : List RecvSlot,
      prepared list = (list.map RecvSlot.buffer).filterMap (Option.map RxBuffer.vector) := by
    intro list
    rw [List.filterMap_map]
    rfl
  rw [vectors, vectors, same]

end Post

/-! ## Messages -/

/-- A slot after its message has arrived. -/
def RecvSlot.received (slot : RecvSlot) (message : KernelMessage) : RecvSlot :=
  { slot.answer message with buffer := slot.buffer.map (·.copyData message.data) }

theorem RxBuffer.written_cons_of_ne (elsewhere : write.1.base ≠ some buffer.vector)
    (writes : List (Iovec × List Byte)) :
    buffer.written (write :: writes) = buffer.written writes := by
  rw [written, List.foldl_cons, if_neg elsewhere]
  rfl

theorem RxBuffer.written_cons_of_eq (here : write.1.base = some buffer.vector)
    (writes : List (Iovec × List Byte)) :
    buffer.written (write :: writes) = (buffer.copyData write.2).written writes := by
  rw [written, List.foldl_cons, if_pos here]
  rfl

theorem RxBuffer.written_of_forall_ne
    (elsewhere : ∀ write ∈ writes, write.1.base ≠ some buffer.vector) :
    buffer.written writes = buffer := by
  induction writes with
  | nil => rfl
  | cons write rest ih =>
    obtain ⟨first, others⟩ := List.forall_mem_cons.mp elsewhere
    rw [written_cons_of_ne first, ih others]

theorem RecvSlot.store_nil (slot : RecvSlot) : slot.store [] = slot := by
  obtain ⟨buffer, _, _, _⟩ := slot
  cases buffer <;> rfl

theorem RecvSlot.store_cons_of_ne
    (elsewhere : ∀ buffer ∈ slot.buffer, write.1.base ≠ some buffer.vector)
    (writes : List (Iovec × List Byte)) : slot.store (write :: writes) = slot.store writes := by
  rw [store, store]
  cases kept : slot.buffer with
  | none => rfl
  | some buffer =>
    have same := RxBuffer.written_cons_of_ne (elsewhere buffer kept) writes
    rw [Option.map_some, Option.map_some, same]

/-- One write goes to a slot's buffer, and the later ones do not. -/
theorem RecvSlot.store_cons_of_eq (kept : slot.buffer = some buffer)
    (here : write.1.base = some buffer.vector)
    (elsewhere : ∀ later ∈ writes, later.1.base ≠ some buffer.vector) :
    slot.store (write :: writes) =
      { slot with buffer := slot.buffer.map (·.copyData write.2) } := by
  have copied := @RxBuffer.written_of_forall_ne (buffer.copyData write.2) writes elsewhere
  rw [store, kept, Option.map_some, Option.map_some, RxBuffer.written_cons_of_eq here, copied]

section Messages

variable {layout : BufferLayout}

/-- A write goes to the buffer of a posted slot. -/
theorem mem_prepared_of_write {messages : List KernelMessage}
    (posted : ∀ slot ∈ slots, slot.Posted layout) (member : write ∈ writesOf slots messages)
    (here : write.1.base = some vector) : vector ∈ prepared slots := by
  obtain ⟨⟨slot, message⟩, paired, rfl⟩ := List.mem_map.mp member
  have isSlot := (List.of_mem_zip paired).1
  rw [(posted slot isSlot).base] at here
  exact List.mem_filterMap.mpr ⟨slot, isSlot, here⟩

theorem buffers_answer (slots : List RecvSlot) (messages : List KernelMessage) :
    (List.zipWith RecvSlot.answer slots messages ++ slots.drop messages.length).map
      RecvSlot.buffer = slots.map RecvSlot.buffer := by
  induction slots generalizing messages with
  | nil =>
    rw [List.zipWith_nil_left, List.drop_nil]
    rfl
  | cons slot rest ih =>
    cases messages with
    | nil => rfl
    | cons message later => exact congrArg (List.cons slot.buffer) (ih later)

/-- Each message arrives in the buffer of its slot, and the other slots stay as they
are. -/
theorem recvmmsg_eq (messages : List KernelMessage) (posted : ∀ slot ∈ slots, slot.Posted layout)
    (distinct : (prepared slots).Nodup) :
    recvmmsg slots messages =
      List.zipWith RecvSlot.received slots messages ++ slots.drop messages.length := by
  rw [recvmmsg]
  induction slots generalizing messages with
  | nil =>
    rw [List.zipWith_nil_left, List.zipWith_nil_left, List.drop_nil]
    rfl
  | cons slot rest ih =>
    cases messages with
    | nil =>
      have kept : RecvSlot.store (writesOf (slot :: rest) []) = id := funext RecvSlot.store_nil
      rw [kept, List.map_id]
      rfl
    | cons message later =>
      obtain ⟨first, others⟩ := List.forall_mem_cons.mp posted
      obtain ⟨buffer, kept⟩ := Option.isSome_iff_exists.mp first.ready
      have base : slot.iov.base = some buffer.vector := by
        rw [first.base, RecvSlot.vector?, kept]
        rfl
      rw [prepared_cons_of_some kept, List.nodup_cons] at distinct
      have isWrites : writesOf (slot :: rest) (message :: later) =
          (slot.iov, message.data) :: writesOf rest later := rfl
      rw [List.zipWith_cons_cons, List.zipWith_cons_cons, List.length_cons,
        List.drop_succ_cons, List.cons_append, List.cons_append, List.map_cons, isWrites,
        ← ih later others distinct.2]
      congr 1
      · refine @RecvSlot.store_cons_of_eq (slot.answer message) buffer
          (slot.iov, message.data) _ kept base ?_
        intro write member here
        exact distinct.1 (mem_prepared_of_write others member here)
      · apply List.map_congr_left
        intro answered member
        apply RecvSlot.store_cons_of_ne
        intro other isOther here
        have isPrepared : other.vector ∈ prepared rest := by
          rw [← prepared_eq_of_buffers (buffers_answer rest later)]
          refine List.mem_filterMap.mpr ⟨answered, member, ?_⟩
          rw [RecvSlot.vector?, isOther]
          rfl
        rw [← Option.some.inj (base.symm.trans here)] at isPrepared
        exact distinct.1 isPrepared

end Messages

end FastSocket.Os
