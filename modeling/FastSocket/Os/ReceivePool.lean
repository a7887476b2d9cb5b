import FastSocket.Os.ReceiveBatch

/-!
# Receive calls and the buffer pool

The buffers that the pool has lent are those that the slots keep and those that the
application holds.  A receive call moves buffers from the pool to the slots and from the
slots to the application.  Buffers that slots keep count against the limit of the pool,
and a call uses the slots from the first one on, so that a gap in front of kept buffers can
make a call return without asking the kernel.
-/

namespace FastSocket.Os

open Packet Buffer Transition Mpsc

theorem OsPool.Conserved.nodup_inFlight {pool : OsPool} {maxBuffers : Nat}
    (conserved : pool.Conserved maxBuffers) : pool.inFlight.Nodup := by
  have all : (List.range pool.allocated).Nodup := List.nodup_range
  rw [← Multiset.coe_nodup, ← conserved.places, OsPool.lent] at all
  exact Multiset.coe_nodup.mp (Multiset.nodup_add.mp (Multiset.nodup_add.mp all).2.1).2.1

namespace OsUdpSocket

/-- The slots and the application, which holds some buffers, have what the pool has
lent. -/
structure Accounted (maxBuffers : Nat) (held : List Buffer) (socket : OsUdpSocket) : Prop where
  conserved : socket.rxPool.Conserved maxBuffers
  idle : socket.rxPool.owner = .idle
  length : socket.slots.length = socket.maxBatch
  sized : ∀ slot ∈ socket.slots, slot.Sized socket.layout
  lent : socket.rxPool.inFlight.Perm (prepared socket.slots ++ held)

/-- Slots at the front of a socket are posted. -/
structure Posting (maxBuffers : Nat) (held : List Buffer) (socket : OsUdpSocket)
    (posted : List RecvSlot) : Prop where
  accounted : socket.Accounted maxBuffers held
  length_le : posted.length ≤ socket.slots.length
  buffers : posted.map RecvSlot.buffer =
    (socket.slots.take posted.length).map RecvSlot.buffer
  posted : ∀ slot ∈ posted, slot.Sized socket.layout ∧ slot.Posted socket.layout

variable {maxBuffers : Nat} {held : List Buffer} {socket : OsUdpSocket} {posted : List RecvSlot}

theorem accounted_new (layout : BufferLayout) (localPort : Word) (maxBatch maxBuffers : Nat) :
    (new layout localPort maxBatch maxBuffers).Accounted maxBuffers [] where
  conserved := OsPool.conserved_withMaxBuffers maxBuffers
  idle := rfl
  length := List.length_replicate
  sized := by
    intro slot member
    rw [List.eq_of_mem_replicate member]
    exact RecvSlot.sized_new layout
  lent := by
    have nothing : prepared (List.replicate maxBatch RecvSlot.new) = [] := by
      apply List.filterMap_eq_nil_iff.mpr
      intro slot member
      rw [List.eq_of_mem_replicate member]
      rfl
    rw [new, nothing]
    exact .refl _

theorem Accounted.nodup_prepared (accounted : socket.Accounted maxBuffers held) :
    (prepared socket.slots).Nodup :=
  (accounted.lent.nodup_iff.mp accounted.conserved.nodup_inFlight).of_append_left

theorem Posting.prepared_eq (posting : socket.Posting maxBuffers held posted) :
    prepared posted = prepared (socket.slots.take posted.length) :=
  prepared_eq_of_buffers posting.buffers

theorem Posting.nodup_prepared (posting : socket.Posting maxBuffers held posted) :
    (prepared posted).Nodup := by
  have distinct := posting.accounted.nodup_prepared
  rw [← List.take_append_drop posted.length socket.slots, prepared_append] at distinct
  rw [posting.prepared_eq]
  exact distinct.of_append_left

/-- Filling the slots moves buffers from the pool to the slots. -/
theorem Accounted.fill (accounted : socket.Accounted maxBuffers held)
    (contents : Buffer → List Byte) (count : Nat) :
    let filled := fillSlots socket.layout contents count socket.rxPool socket.slots
    { socket with rxPool := filled.pool, slots := filled.slots }.Accounted maxBuffers held := by
  have fills := @fills_fillSlots socket.layout contents maxBuffers _ count socket.slots
    accounted.conserved accounted.idle
  obtain ⟨fresh, inFlight, slots⟩ := fills.lent
  refine ⟨fills.conserved, fills.same.owner.trans accounted.idle,
    fills.length.trans accounted.length, fills.sized accounted.sized, ?_⟩
  change (fillSlots socket.layout contents count socket.rxPool socket.slots).pool.inFlight.Perm _
  rw [inFlight]
  exact ((accounted.lent.append_left fresh).trans
    (List.append_assoc fresh _ _ ▸ .refl _)).trans (slots.symm.append_right held)

/-- The filled slots of a call can be posted. -/
theorem Accounted.exists_posting (accounted : socket.Accounted maxBuffers held)
    (contents : Buffer → List Byte) (count : Nat) :
    let filled := fillSlots socket.layout contents count socket.rxPool socket.slots
    ∃ posted, (filled.slots.take filled.count).mapM RecvSlot.post = .ok posted ∧
      posted.length = filled.count ∧
      { socket with rxPool := filled.pool, slots := filled.slots }.Posting maxBuffers held
        posted := by
  have fills := @fills_fillSlots socket.layout contents maxBuffers _ count socket.slots
    accounted.conserved accounted.idle
  have after := accounted.fill contents count
  have short := @count_fillSlots_le socket.layout contents count socket.rxPool socket.slots
  have length := fills.length
  dsimp only at after ⊢
  generalize fillSlots socket.layout contents count socket.rxPool socket.slots = filled
    at fills after short length
  obtain ⟨posted, done, buffers, facts⟩ := exists_posted fills.ready
    fun slot member => after.sized slot (List.mem_of_mem_take member)
  have lengths := congrArg List.length buffers
  rw [List.length_map, List.length_map, List.length_take_of_le (by omega)] at lengths
  refine ⟨posted, done, lengths, after, ?_, ?_, facts⟩
  · change posted.length ≤ filled.slots.length
    omega
  · rw [lengths]
    exact buffers

/-- What no receive call changes. -/
structure SameConfig (source target : OsUdpSocket) : Prop where
  layout : target.layout = source.layout
  localPort : target.localPort = source.localPort
  maxBatch : target.maxBatch = source.maxBatch

/-- The number of slots that a call can post. -/
def postable (socket : OsUdpSocket) (contents : Buffer → List Byte) (remaining : Nat) : Nat :=
  (fillSlots socket.layout contents (min remaining socket.maxBatch) socket.rxPool
    socket.slots).count

/-- How the posted part of a call ends. -/
inductive Answered (calls : List RecvResult) (socket : OsUdpSocket) (posted : List RecvSlot) :
    RecvOutcome → Prop
  | failed {kind : IoErrorKind} (answered : retryRecv calls = some (.error kind)) :
      Answered calls socket posted {
        result := if isTransient kind then .ok 0 else .error (.failed (ioErrorToCore kind))
        packets := []
        requested := some posted.length
        socket := { socket with slots := posted ++ socket.slots.drop posted.length } }
  | messages {messages : List KernelMessage} (answered : retryRecv calls = some (.ok messages))
      (few : messages.length ≤ posted.length)
      (arrive : ∀ pair ∈ posted.zip messages, Arrives socket.layout pair) :
      Answered calls socket posted (socket.afterMessages posted messages)

/-- What a call does: it returns without asking the kernel, or it posts slots and the kernel
answers. -/
inductive Receives (maxBuffers : Nat) (held : List Buffer) (socket : OsUdpSocket)
    (contents : Buffer → List Byte) (calls : List RecvResult) (remaining : Nat) :
    RecvOutcome → Prop
  | without {next : OsUdpSocket} (same : SameConfig socket next)
      (accounted : next.Accounted maxBuffers held)
      (nothing : socket.postable contents remaining = 0) :
      Receives maxBuffers held socket contents calls remaining (next.withoutCall (.ok 0))
  | called {next : OsUdpSocket} {posted : List RecvSlot} {outcome : RecvOutcome}
      (same : SameConfig socket next) (posting : next.Posting maxBuffers held posted)
      (length : posted.length = socket.postable contents remaining) (some : 0 < posted.length)
      (room : posted.length ≤ remaining) (answered : Answered calls next posted outcome) :
      Receives maxBuffers held socket contents calls remaining outcome

variable {calls : List RecvResult} {remaining : Nat} {outcome : RecvOutcome}
  {contents : Buffer → List Byte} {layout : BufferLayout}

theorem Posting.answered (posting : socket.Posting maxBuffers held posted)
    (room : posted.length ≤ remaining)
    (returned : socket.receivePosted calls remaining posted = some outcome) :
    Answered calls socket posted outcome := by
  cases answered : retryRecv calls with
  | none =>
    rw [receivePosted, answered] at returned
    cases returned
  | some result =>
    cases result with
    | error kind =>
      rw [receivePosted, answered] at returned
      cases returned
      exact .failed answered
    | ok messages =>
      have fits : messages.length ≤ posted.length ∧
          ∀ pair ∈ posted.zip messages, pair.2.Fits pair.1 := by
        rw [receivePosted, answered] at returned
        simp only [Option.ite_none_right_eq_some] at returned
        exact returned.1
      have arrive : ∀ pair ∈ posted.zip messages, Arrives socket.layout pair := by
        intro pair member
        obtain ⟨sized, isPosted⟩ := posting.posted pair.1 (List.of_mem_zip member).1
        exact ⟨sized, isPosted, fits.2 pair member⟩
      rw [receivePosted_of_messages answered fits.1 arrive
        (fun slot member => (posting.posted slot member).2) posting.nodup_prepared room]
        at returned
      cases returned
      exact .messages answered fits.1 arrive

theorem Accounted.receives (accounted : socket.Accounted maxBuffers held)
    (returned : socket.recvImpl contents calls remaining = some outcome) :
    Receives maxBuffers held socket contents calls remaining outcome := by
  rw [recvImpl] at returned
  obtain ⟨posted, done, length, posting⟩ :=
    accounted.exists_posting contents (min remaining socket.maxBatch)
  have short := @count_fillSlots_le socket.layout contents (min remaining socket.maxBatch)
    socket.rxPool socket.slots
  have same : SameConfig socket { socket with
      rxPool := (fillSlots socket.layout contents (min remaining socket.maxBatch) socket.rxPool
        socket.slots).pool
      slots := (fillSlots socket.layout contents (min remaining socket.maxBatch) socket.rxPool
        socket.slots).slots } := ⟨rfl, rfl, rfl⟩
  simp only at returned
  split at returned
  case isTrue zero =>
    cases returned
    refine .without ⟨rfl, rfl, rfl⟩ accounted ?_
    rw [postable]
    omega
  case isFalse =>
    split at returned
    case isTrue nothing =>
      cases returned
      exact .without same posting.accounted nothing
    case isFalse some =>
      rw [done] at returned
      have room : posted.length ≤ remaining := by omega
      exact .called same posting length (by omega) room (posting.answered room returned)

/-- A call asks the kernel exactly when it can post a slot. -/
theorem Accounted.requested_eq (accounted : socket.Accounted maxBuffers held)
    (returned : socket.recvImpl contents calls remaining = some outcome) :
    outcome.requested = if socket.postable contents remaining = 0 then none
      else some (socket.postable contents remaining) := by
  cases accounted.receives returned with
  | without _ _ nothing =>
    rw [if_pos nothing]
    rfl
  | called _ _ length some _ answered =>
    rw [← length, if_neg (Nat.ne_of_gt some)]
    cases answered with
    | failed _ => rfl
    | messages _ _ _ => rfl

/-! ## The buffers after a call -/

/-- The buffers of packets. -/
def vectors (packets : List UdpReceive) : List Buffer :=
  packets.map fun receive => receive.packet.vector

theorem vector?_received (slot : RecvSlot) (message : KernelMessage) :
    (slot.received message).vector? = slot.vector? := by
  rw [RecvSlot.vector?, RecvSlot.vector?, RecvSlot.received]
  cases slot.buffer with
  | none => rfl
  | some buffer => rfl

/-- A message leaves its buffer in the slot or takes it along. -/
theorem perm_afterMessage (localPort : Word) (pairs : List (RecvSlot × KernelMessage)) :
    (prepared (pairs.map afterMessage) ++
      vectors (pairs.filterMap (deliver? localPort))).Perm (prepared (pairs.map Prod.fst)) := by
  induction pairs with
  | nil => exact .refl _
  | cons pair rest ih =>
    obtain ⟨slot, message⟩ := pair
    rw [List.map_cons, List.map_cons]
    cases accepted : message.accepted with
    | none =>
      rw [afterMessage_of_none accepted, List.filterMap_cons_none (deliver?_of_none accepted),
        prepared_cons, prepared_cons, vector?_received, List.append_assoc]
      exact ih.append_left _
    | some source =>
      have emptied : (afterMessage (slot, message)).buffer = none := by
        rw [afterMessage, accepted]
      rw [prepared_cons_of_none emptied]
      cases kept : slot.buffer with
      | none =>
        have nothing : deliver? localPort (slot, message) = none := by
          rw [deliver?, accepted, kept]
          rfl
        rw [List.filterMap_cons_none nothing, prepared_cons_of_none kept]
        exact ih
      | some buffer =>
        have delivered : deliver? localPort (slot, message) = some
            ⟨buffer.received message.data, message.info localPort source⟩ := by
          rw [deliver?, accepted, kept]
          rfl
        rw [List.filterMap_cons_some delivered, prepared_cons_of_some kept]
        exact List.perm_middle.trans (ih.cons _)

theorem sized_received {slot : RecvSlot} {message : KernelMessage} (wellFormed : layout.WellFormed)
    (arrives : Arrives layout (slot, message)) :
    (slot.received message).Sized layout where
  name := by
    rw [← arrives.sized.name]
    apply length_copyAt
    rw [Nat.zero_add, arrives.sized.name]
    exact arrives.fits.2
  buffer := by
    intro buffer isBuffer
    obtain ⟨old, kept, rfl⟩ := Option.map_eq_some_iff.mp isBuffer
    obtain ⟨isLayout, capacity⟩ := arrives.sized.buffer old kept
    refine ⟨isLayout, ?_⟩
    rw [← capacity]
    apply length_copyAt
    have bound := wellFormed.fits
    have short := arrives.length_le
    change old.packet.storage.vec.length = _ at capacity
    dsimp only at short
    rw [isLayout, capacity]
    omega

theorem sized_afterMessage {pair : RecvSlot × KernelMessage} (wellFormed : layout.WellFormed)
    (arrives : Arrives layout pair) : (afterMessage pair).Sized layout := by
  have received := sized_received wellFormed arrives
  rw [afterMessage]
  split
  · exact received
  · exact ⟨received.name, by rintro _ ⟨⟩⟩

theorem Posting.sized_drop (posting : socket.Posting maxBuffers held posted) :
    ∀ slot ∈ socket.slots.drop posted.length, slot.Sized socket.layout :=
  fun slot member => posting.accounted.sized slot (List.mem_of_mem_drop member)

/-- Posted slots keep the buffers of the slots. -/
theorem Posting.perm_inFlight (posting : socket.Posting maxBuffers held posted) :
    socket.rxPool.inFlight.Perm
      (prepared posted ++ prepared (socket.slots.drop posted.length) ++ held) := by
  rw [posting.prepared_eq, ← prepared_append, List.take_append_drop]
  exact posting.accounted.lent

/-- The application holds the packets of an answered call. -/
theorem Posting.accounted_of_answered (posting : socket.Posting maxBuffers held posted)
    (wellFormed : socket.layout.WellFormed) (answered : Answered calls socket posted outcome) :
    outcome.socket.Accounted maxBuffers (vectors outcome.packets ++ held) := by
  have length := posting.length_le
  cases answered with
  | failed _ =>
    refine ⟨posting.accounted.conserved, posting.accounted.idle, ?_, ?_, ?_⟩
    · change (posted ++ socket.slots.drop posted.length).length = socket.maxBatch
      rw [← posting.accounted.length, List.length_append, List.length_drop]
      omega
    · exact List.forall_mem_append.mpr
        ⟨fun slot member => (posting.posted slot member).1, posting.sized_drop⟩
    · change socket.rxPool.inFlight.Perm (prepared (posted ++ _) ++ held)
      rw [prepared_append]
      exact posting.perm_inFlight
  | @messages messages _ few arrive =>
    have first : (posted.zip messages).map Prod.fst = posted.take messages.length := by
      rw [List.zip_eq_zip_take_min, Nat.min_eq_right few, List.take_length]
      apply List.map_fst_zip
      rw [List.length_take]
      exact Nat.min_le_left _ _
    have moved := perm_afterMessage socket.localPort (posted.zip messages)
    rw [first] at moved
    refine ⟨posting.accounted.conserved, posting.accounted.idle, ?_, ?_, ?_⟩
    · change ((posted.zip messages).map afterMessage ++ posted.drop messages.length ++
        socket.slots.drop posted.length).length = socket.maxBatch
      rw [← posting.accounted.length, List.length_append, List.length_append, List.length_map,
        List.length_zip, List.length_drop, List.length_drop]
      omega
    · refine List.forall_mem_append.mpr ⟨List.forall_mem_append.mpr ⟨?_, ?_⟩, posting.sized_drop⟩
      · rintro slot isAfter
        obtain ⟨pair, member, rfl⟩ := List.mem_map.mp isAfter
        exact sized_afterMessage wellFormed (arrive pair member)
      · exact fun slot member => (posting.posted slot (List.mem_of_mem_drop member)).1
    · refine posting.perm_inFlight.trans ?_
      change (prepared posted ++ _ ++ held).Perm (prepared (_ ++ _ ++ _) ++
        (vectors ((posted.zip messages).filterMap (deliver? socket.localPort)) ++ held))
      have split := prepared_append (posted.take messages.length) (posted.drop messages.length)
      rw [List.take_append_drop] at split
      rw [prepared_append, prepared_append, split, ← Multiset.coe_eq_coe]
      have balance := Multiset.coe_eq_coe.mpr moved
      simp only [← Multiset.coe_add] at balance ⊢
      rw [← balance]
      abel

/-- A call hands its packets to the application and loses no buffer. -/
theorem Accounted.recvImpl (accounted : socket.Accounted maxBuffers held)
    (wellFormed : socket.layout.WellFormed)
    (returned : socket.recvImpl contents calls remaining = some outcome) :
    outcome.socket.Accounted maxBuffers (vectors outcome.packets ++ held) ∧
      SameConfig socket outcome.socket := by
  cases accounted.receives returned with
  | without same accounted _ => exact ⟨accounted, same⟩
  | called same posting _ _ _ answered =>
    rw [← same.layout] at wellFormed
    refine ⟨posting.accounted_of_answered wellFormed answered, ?_⟩
    cases answered with
    | failed _ => exact ⟨same.layout, same.localPort, same.maxBatch⟩
    | messages _ _ _ => exact ⟨same.layout, same.localPort, same.maxBatch⟩

end OsUdpSocket

end FastSocket.Os
