import FastSocket.Os.ReceiveStall

/-!
# What a receive call delivers

The messages of a call go to the batch exactly when they are whole and have a source that
can be read, in their order.  Their buffers leave the slots with them, and every other slot
keeps its buffer for the next call, whatever gaps earlier calls have left.
-/

namespace FastSocket.Os

open Packet Buffer Transition

/-- What a receive call does with the messages of the kernel. -/
structure DeliversExactly (socket : OsUdpSocket) (messages : List KernelMessage)
    (outcome : RecvOutcome) : Prop where
  packets : outcome.packets.map UdpReceive.content =
    (messages.filterMap KernelMessage.content).map (Prod.map .ok id)
  lengths : outcome.packets.map (·.info.len) =
    (messages.filterMap KernelMessage.content).map (·.1.length)
  /-- Each slot that was posted had a buffer, which is that from before the call if there was
  one.  It has gone with a delivered message and is there otherwise. -/
  slots : ∃ posted : List (Option Buffer),
    (∀ (index : Nat) (slot : RecvSlot), socket.slots[index]? = some slot →
      ∀ vector ∈ slot.vector?, posted[index]? = some (some vector)) ∧
    (∀ index : Nat, index < messages.length → ∃ vector, posted[index]? = some (some vector)) ∧
    ∀ index : Nat, outcome.socket.slots[index]?.map RecvSlot.vector? = posted[index]?.map fun vector =>
      if (messages[index]?.bind KernelMessage.accepted).isSome then none else vector
  result : outcome.result = receivedResult outcome.packets messages

variable {messages : List KernelMessage} {posted : List RecvSlot}

theorem DeliversExactly.of_kept {socket next : OsUdpSocket} {outcome : RecvOutcome}
    (delivers : DeliversExactly next messages outcome)
    (kept : ∀ (index : Nat) (slot : RecvSlot), socket.slots[index]? = some slot →
      ∀ vector ∈ slot.vector?, next.slots[index]? = some slot) :
    DeliversExactly socket messages outcome := by
  obtain ⟨posted, before, ready, after⟩ := delivers.slots
  refine ⟨delivers.packets, delivers.lengths, ⟨posted, ?_, ready, after⟩, delivers.result⟩
  intro index slot isSlot vector isVector
  exact before index slot (kept index slot isSlot vector isVector) vector isVector

section Slots

variable {layout : BufferLayout} {contents : Buffer → List Byte}

/-- Slots that have a buffer keep it when the others are filled. -/
theorem fillSlots_keeps (count : Nat) (pool : OsPool) (slots : List RecvSlot) :
    ∀ (index : Nat) (slot : RecvSlot), slots[index]? = some slot → ∀ vector ∈ slot.vector?,
      (fillSlots layout contents count pool slots).slots[index]? = some slot := by
  fun_induction fillSlots layout contents count pool slots with
  | case1 => exact fun _ _ isSlot _ _ => isSlot
  | case2 => exact fun _ _ isSlot _ _ => isSlot
  | case3 left pool slot rest buffer kept filled ih =>
    intro index
    cases index with
    | zero => exact fun _ isSlot _ _ => isSlot
    | succ index => exact ih index
  | case4 => exact fun _ _ isSlot _ _ => isSlot
  | case5 left pool slot rest empty vector next allocated packet slot' filled ih =>
    intro index
    cases index with
    | zero =>
      rintro _ ⟨⟩ vector isVector
      rw [RecvSlot.vector?, empty] at isVector
      cases isVector
    | succ index => exact ih index

theorem vector?_afterMessage (pair : RecvSlot × KernelMessage) :
    (afterMessage pair).vector? = if pair.2.accepted.isSome then none else pair.1.vector? := by
  obtain ⟨slot, message⟩ := pair
  rw [afterMessage]
  cases message.accepted with
  | none => exact OsUdpSocket.vector?_received slot message
  | some source => rfl

/-- Each posted slot has lost its buffer to its message or has kept it. -/
theorem vectors_afterMessages (few : messages.length ≤ posted.length) (rest : List RecvSlot)
    (index : Nat) :
    ((posted.zip messages).map afterMessage ++ posted.drop messages.length ++
      rest)[index]?.map RecvSlot.vector? =
        ((posted ++ rest).map RecvSlot.vector?)[index]?.map fun vector =>
          if (messages[index]?.bind KernelMessage.accepted).isSome then none else vector := by
  induction messages generalizing posted index with
  | nil =>
    rw [List.getElem?_map, Option.map_map]
    simp [Function.comp_def]
  | cons message later ih =>
    cases posted with
    | nil => cases few
    | cons slot posted =>
      cases index with
      | zero => exact congrArg some (vector?_afterMessage (slot, message))
      | succ index => exact ih (Nat.le_of_succ_le_succ few) index

theorem map_len_deliver? (localPort : Word) {pairs : List (RecvSlot × KernelMessage)}
    (posted : ∀ pair ∈ pairs, pair.1.Posted layout) :
    (pairs.filterMap (deliver? localPort)).map (·.info.len) =
      ((pairs.map Prod.snd).filterMap KernelMessage.content).map (·.1.length) := by
  rw [List.map_filterMap, List.map_filterMap, List.filterMap_map]
  apply List.filterMap_congr
  intro pair member
  obtain ⟨buffer, kept⟩ := Option.isSome_iff_exists.mp (posted pair member).ready
  rw [deliver?, Function.comp_apply, KernelMessage.content, kept]
  cases pair.2.accepted with
  | none => rfl
  | some source => rfl

end Slots

namespace OsUdpSocket

variable {maxBuffers : Nat} {held : List Buffer} {socket : OsUdpSocket}

theorem delivers_withoutCall (socket : OsUdpSocket) :
    DeliversExactly socket [] (socket.withoutCall (.ok 0)) where
  packets := rfl
  lengths := rfl
  slots := by
    refine ⟨socket.slots.map RecvSlot.vector?, ?_, nofun, fun index => ?_⟩
    · intro index slot isSlot vector isVector
      rw [List.getElem?_map, isSlot, Option.map_some, isVector]
    · rw [List.getElem?_map]
      simp [withoutCall, Function.comp_def]
  result := rfl

theorem Posting.delivers (posting : socket.Posting maxBuffers held posted)
    (wellFormed : socket.layout.WellFormed) (few : messages.length ≤ posted.length)
    (arrive : ∀ pair ∈ posted.zip messages, Arrives socket.layout pair) :
    DeliversExactly socket messages (socket.afterMessages posted messages) where
  packets := by
    have packets := map_content_deliver? socket.localPort wellFormed arrive
    rwa [List.map_snd_zip few] at packets
  lengths := by
    have lengths := map_len_deliver? socket.localPort fun pair member => (arrive pair member).posted
    rwa [List.map_snd_zip few] at lengths
  slots := by
    have same : (posted ++ socket.slots.drop posted.length).map RecvSlot.vector? =
        socket.slots.map RecvSlot.vector? := by
      have vectors := congrArg (List.map (Option.map RxBuffer.vector)) posting.buffers
      rw [List.map_map, List.map_map] at vectors
      rw [List.map_append, show posted.map RecvSlot.vector? = _ from vectors]
      exact (List.map_append.symm.trans (congrArg _ (List.take_append_drop _ _)))
    refine ⟨_, ?_, ?_, vectors_afterMessages few _⟩
    · intro index slot isSlot vector isVector
      rw [same, List.getElem?_map, isSlot, Option.map_some, isVector]
    · intro index inside
      have bound := Nat.lt_of_lt_of_le inside few
      have isSlot : (posted ++ socket.slots.drop posted.length)[index]? = some posted[index] := by
        rw [List.getElem?_append_left bound, List.getElem?_eq_getElem bound]
      obtain ⟨buffer, kept⟩ := Option.isSome_iff_exists.mp
        (posting.posted _ (List.getElem_mem bound)).2.ready
      refine ⟨buffer.vector, ?_⟩
      rw [List.getElem?_map, isSlot, Option.map_some, RecvSlot.vector?, kept, Option.map_some]
  result := rfl

/-- A call that the kernel answers with messages returns, and delivers them. -/
theorem Accounted.exists_delivers (accounted : socket.Accounted maxBuffers held)
    (wellFormed : socket.layout.WellFormed) (contents : Buffer → List Byte) (remaining : Nat)
    {calls : List RecvResult} (answered : retryRecv calls = some (.ok messages))
    (few : messages.length ≤ socket.postable contents remaining)
    (fits : ∀ message ∈ messages, message.data.length ≤ socket.layout.payloadCapacity ∧
      message.name.length ≤ sockaddrStorageLen) :
    ∃ outcome, socket.recvImpl contents calls remaining = some outcome ∧
      DeliversExactly socket messages outcome := by
  obtain ⟨posted, done, length, posting⟩ :=
    accounted.exists_posting contents (min remaining socket.maxBatch)
  have short := @count_fillSlots_le socket.layout contents (min remaining socket.maxBatch)
    socket.rxPool socket.slots
  have kept := @fillSlots_keeps socket.layout contents (min remaining socket.maxBatch)
    socket.rxPool socket.slots
  rw [postable] at few
  rw [OsUdpSocket.recvImpl]
  simp only
  split
  case isTrue zero =>
    have none : messages = [] := List.length_eq_zero_iff.mp (by omega)
    exact ⟨_, rfl, none ▸ delivers_withoutCall socket⟩
  case isFalse =>
    split
    case isTrue nothing =>
      have none : messages = [] := List.length_eq_zero_iff.mp (by omega)
      exact ⟨_, rfl, none ▸ (delivers_withoutCall _).of_kept kept⟩
    case isFalse =>
      rw [done]
      have enough : messages.length ≤ posted.length := length ▸ few
      have arrive : ∀ pair ∈ posted.zip messages, Arrives socket.layout pair := by
        intro pair member
        obtain ⟨isSlot, isMessage⟩ := List.of_mem_zip member
        obtain ⟨sized, isPosted⟩ := posting.posted pair.1 isSlot
        refine ⟨sized, isPosted, ?_, (fits pair.2 isMessage).2⟩
        rw [isPosted.len]
        exact (fits pair.2 isMessage).1
      refine ⟨_, receivePosted_of_messages answered enough arrive
        (fun slot member => (posting.posted slot member).2) posting.nodup_prepared (by omega), ?_⟩
      exact (posting.delivers wellFormed enough arrive).of_kept kept

end OsUdpSocket

/-- In every state that receive calls and drops lead to, a call that the kernel answers
with messages for the posted slots delivers exactly the messages that are whole and have a
source, in order, each with its bytes, its length and its source.  A slot loses its buffer
exactly to a delivered message, no delivered buffer stays in a slot, and the slots and the
application have all buffers that the pool has lent.  The call stops at no assertion and
returns an error only if it delivers nothing. -/
theorem recv_delivers_exactly {layout : BufferLayout} (constructed : layout.Constructed)
    (localPort : Word) {maxBatch rxPoolMaxBuffers : Nat} {actions : List ReceiveAction}
    {system : ReceiveSystem}
    (reached : run ReceiveSystem.step (.new layout localPort maxBatch rxPoolMaxBuffers) actions =
      some system)
    (contents : Buffer → List Byte) (remaining : Nat) {calls : List RecvResult}
    {messages : List KernelMessage} (answered : retryRecv calls = some (.ok messages))
    (few : messages.length ≤ system.socket.postable contents remaining)
    (fits : ∀ message ∈ messages, message.data.length ≤ layout.payloadCapacity ∧
      message.name.length ≤ sockaddrStorageLen) :
    ∃ outcome, system.socket.recvImpl contents calls remaining = some outcome ∧
      DeliversExactly system.socket messages outcome ∧
      (OsUdpSocket.vectors outcome.packets).Disjoint (prepared outcome.socket.slots) ∧
      outcome.socket.Accounted rxPoolMaxBuffers
        (OsUdpSocket.vectors outcome.packets ++ system.held) := by
  have keeps := ReceiveSystem.keeps_run constructed.wellFormed reached
  have wellFormed : system.socket.layout.WellFormed := keeps.layout ▸ constructed.wellFormed
  rw [← keeps.layout] at fits
  obtain ⟨outcome, returned, delivers⟩ :=
    keeps.accounted.exists_delivers wellFormed contents remaining answered few fits
  have accounted := (keeps.accounted.recvImpl wellFormed returned).1
  have distinct := accounted.lent.nodup_iff.mp accounted.conserved.nodup_inFlight
  refine ⟨outcome, returned, delivers, ?_, accounted⟩
  intro vector isDelivered isKept
  exact List.disjoint_of_nodup_append distinct isKept (List.mem_append_left _ isDelivered)

/-- A truncated message, one without a source and one that is delivered. -/
def mixedMessages : List KernelMessage :=
  [{ sampleMessage with truncated := true }, { sampleMessage with name := [] }, sampleMessage]

theorem recv_delivers_exactly_mixed :
    ∃ outcome, (OsUdpSocket.new sampleRxLayout 4433#16 3 3).recvImpl (fun _ => [])
        [.error .interrupted, .ok mixedMessages] 3 = some outcome ∧
      DeliversExactly (OsUdpSocket.new sampleRxLayout 4433#16 3 3) mixedMessages outcome := by
  have constructed : sampleRxLayout.Constructed := @BufferLayout.Constructed.new 4 _ rfl
  obtain ⟨outcome, returned, delivers, _⟩ := @recv_delivers_exactly sampleRxLayout constructed
    4433#16 3 3 [] _ rfl (fun _ => []) 3 [.error .interrupted, .ok mixedMessages] mixedMessages rfl
    (by decide) (by decide)
  exact ⟨outcome, returned, delivers⟩

end FastSocket.Os
