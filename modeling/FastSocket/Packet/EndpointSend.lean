import FastSocket.Packet.Endpoint
import Mathlib.Data.List.TakeWhile

/-!
# A generic endpoint keeps the slots of its caller

Whatever a socket accepts of the batch that a generic endpoint makes for it, the caller's
batch ends up as if its own slots had been sent: the accepted ones are taken, and every
other packet is back in the slot that it came from.
-/

namespace FastSocket.Packet

variable {σ α β : Type}

/-- The contract of a send call: it accepts leading slots of its batch, and leaves the
others as they are. -/
def ObeysPrefix (send : SendCall σ α) : Prop :=
  ∀ batch state, ∃ result after,
    (send batch).run state = some ((result, takeSlots (acceptedCount result) batch), after) ∧
      acceptedCount result ≤ batch.length

/-- The error of a send, if there is one. -/
def errorKind : Except SendError Nat → Option Error
  | .ok _ => none
  | .error failure => some failure.kind

theorem errorKind_sendResult (accepted : Nat) (deferred : Option Error) :
    errorKind (sendResult accepted (deferredResult deferred)) = deferred := by
  cases deferred <;> rfl

variable {accepted : Nat}

section Slots

variable (len : β → Nat) (info : UdpEndpointInfo) (spec : UdpEndpointSpec)

/-- What is wrong with a slot. -/
def slotError : TxSlot (UdpEndpointTransmit β) → Option Error
  | .taken => some .invalidBatch
  | .ready tx =>
    match validateUdpEndpointPacket info (len tx.packet) with
    | .error kind => some kind
    | .ok _ => none

/-- The longest valid part at the front of a batch. -/
def validSlots (batch : List (TxSlot (UdpEndpointTransmit β))) :
    List (TxSlot (UdpEndpointTransmit β)) :=
  batch.takeWhile fun slot => (slotError len info slot).isNone

/-- The error of the first slot that is not valid. -/
def firstError (batch : List (TxSlot (UdpEndpointTransmit β))) : Option Error :=
  batch[(validSlots len info batch).length]?.bind (slotError len info)

/-- The slot that the socket gets for a slot of the endpoint. -/
def transmitSlot : TxSlot (UdpEndpointTransmit β) → TxSlot (UdpTransmit β) :=
  TxSlot.map fun tx => spec.toTransmit tx.packet

variable {len info} {slot : TxSlot (UdpEndpointTransmit β)}
  {batch : List (TxSlot (UdpEndpointTransmit β))} {γ : Type}

theorem validSlots_cons_of_valid (valid : slotError len info slot = none)
    (rest : List (TxSlot (UdpEndpointTransmit β))) :
    validSlots len info (slot :: rest) = slot :: validSlots len info rest := by
  apply List.takeWhile_cons_of_pos
  rw [valid]
  rfl

theorem validSlots_cons_of_error {kind : Error} (invalid : slotError len info slot = some kind)
    (rest : List (TxSlot (UdpEndpointTransmit β))) : validSlots len info (slot :: rest) = [] := by
  apply List.takeWhile_cons_of_neg
  rw [invalid]
  exact Bool.false_ne_true

/-- The scan finds the valid slots and the error behind them. -/
theorem readyPrefix_eq (batch : List (TxSlot (UdpEndpointTransmit β))) :
    readyPrefix len info batch =
      ((validSlots len info batch).length, firstError len info batch) := by
  rw [firstError]
  induction batch with
  | nil => rfl
  | cons slot rest ih =>
    cases slot with
    | taken => rfl
    | ready tx =>
      rw [readyPrefix]
      cases valid : validateUdpEndpointPacket info (len tx.packet) with
      | error kind =>
        have invalid : slotError len info (.ready tx) = some kind := by
          rw [slotError, valid]
        rw [validSlots_cons_of_error invalid]
        exact congrArg (Prod.mk 0) invalid.symm
      | ok _ =>
        have noError : slotError len info (.ready tx) = none := by
          rw [slotError, valid]
        simp only
        rw [ih, validSlots_cons_of_valid noError]
        rfl

/-- The slot behind the valid ones has an error. -/
theorem firstError_ne_none (next : batch[(validSlots len info batch).length]? = some slot) :
    firstError len info batch ≠ none := by
  rw [firstError, next, Option.bind_some]
  induction batch with
  | nil => cases next
  | cons first rest ih =>
    cases valid : slotError len info first with
    | none =>
      rw [validSlots_cons_of_valid valid] at next
      exact ih next
    | some kind =>
      rw [validSlots_cons_of_error valid] at next
      cases next
      rw [valid]
      rintro ⟨⟩

theorem validSlots_eq_take (len : β → Nat) (info : UdpEndpointInfo)
    (batch : List (TxSlot (UdpEndpointTransmit β))) :
    validSlots len info batch = batch.take (validSlots len info batch).length :=
  List.prefix_iff_eq_take.mp (List.takeWhile_prefix _)

theorem take_map_validSlots (change : TxSlot (UdpEndpointTransmit β) → γ) {count : Nat}
    (few : count ≤ (validSlots len info batch).length) :
    ((validSlots len info batch).map change).take count = (batch.take count).map change := by
  rw [← List.map_take, validSlots_eq_take, List.take_take, Nat.min_eq_left few]

theorem getElem?_map_validSlots (change : TxSlot (UdpEndpointTransmit β) → γ) {index : Nat}
    (inside : index < (validSlots len info batch).length) (isSlot : batch[index]? = some slot) :
    ((validSlots len info batch).map change)[index]? = some (change slot) := by
  rw [List.getElem?_map, validSlots_eq_take, List.getElem?_take_of_lt inside, isSlot]
  rfl

/-- No valid slot is taken. -/
theorem ready_of_valid (valid : slotError len info slot = none) : ∃ tx, slot = .ready tx := by
  cases slot with
  | taken => cases valid
  | ready tx => exact ⟨tx, rfl⟩

/-- The packets of the valid slots can be taken out of them. -/
theorem convertSlots_validSlots (batch : List (TxSlot (UdpEndpointTransmit β))) :
    convertSlots spec (validSlots len info batch).length batch =
      some ((validSlots len info batch).map (transmitSlot spec),
        takeSlots (validSlots len info batch).length batch) := by
  induction batch with
  | nil => rfl
  | cons slot rest ih =>
    cases valid : slotError len info slot with
    | some kind =>
      rw [validSlots_cons_of_error valid]
      rfl
    | none =>
      obtain ⟨tx, rfl⟩ := ready_of_valid valid
      rw [validSlots_cons_of_valid valid, List.length_cons, convertSlots, ih]
      rfl

/-- Packets that were taken out of slots fit back into them. -/
theorem restoreSlots_takeSlots {valid : List (TxSlot (UdpEndpointTransmit β))}
    (ready : ∀ slot ∈ valid, ∃ tx, slot = .ready tx)
    (rest : List (TxSlot (UdpEndpointTransmit β))) :
    restoreSlots (List.replicate valid.length .taken ++ rest) (valid.map (transmitSlot spec)) =
      valid ++ rest := by
  induction valid with
  | nil => cases rest <;> rfl
  | cons slot others ih =>
    obtain ⟨⟨tx, rfl⟩, readyOthers⟩ := List.forall_mem_cons.mp ready
    exact congrArg (TxSlot.ready tx :: ·) (ih readyOthers)

theorem takeSlots_append (before after : List (TxSlot α)) :
    takeSlots before.length (before ++ after) = List.replicate before.length .taken ++ after := by
  rw [takeSlots, List.drop_left]

/-- Restoring what was not accepted leaves the accepted slots taken and the others as
they were. -/
theorem restore_unaccepted (few : accepted ≤ (validSlots len info batch).length) :
    restoreUnacceptedEndpointSlots (takeSlots (validSlots len info batch).length batch)
        (takeSlots accepted ((validSlots len info batch).map (transmitSlot spec))) accepted =
      takeSlots accepted batch := by
  obtain ⟨rest, split⟩ : validSlots len info batch <+: batch := List.takeWhile_prefix _
  have ready : ∀ slot ∈ validSlots len info batch, ∃ tx, slot = .ready tx := by
    intro slot member
    have valid := List.mem_takeWhile_imp member
    exact ready_of_valid (Option.isNone_iff_eq_none.mp valid)
  generalize validSlots len info batch = valid at few split ready
  subst split
  obtain ⟨sent, kept, rfl, rfl⟩ : ∃ sent kept, valid = sent ++ kept ∧ accepted = sent.length :=
    ⟨valid.take accepted, valid.drop accepted, (List.take_append_drop _ _).symm,
      (List.length_take_of_le few).symm⟩
  have readyKept : ∀ slot ∈ kept, ∃ tx, slot = .ready tx :=
    fun slot member => ready slot (List.mem_append_right _ member)
  have left : takeSlots (sent ++ kept).length (sent ++ kept ++ rest) =
      List.replicate sent.length .taken ++ (List.replicate kept.length .taken ++ rest) := by
    rw [takeSlots_append, List.length_append, ← List.replicate_append_replicate,
      List.append_assoc]
  have unsent : takeSlots sent.length ((sent ++ kept).map (transmitSlot spec)) =
      List.replicate sent.length .taken ++ kept.map (transmitSlot spec) := by
    have converted := takeSlots_append (sent.map (transmitSlot spec))
      (kept.map (transmitSlot spec))
    rwa [List.length_map, ← List.map_append] at converted
  rw [restoreUnacceptedEndpointSlots, left, unsent, List.take_left' List.length_replicate,
    List.drop_left' List.length_replicate, List.drop_left' List.length_replicate,
    restoreSlots_takeSlots spec readyKept, List.append_assoc sent, takeSlots_append]

end Slots

section Send

variable {send : SendCall σ (UdpTransmit β)} {len : β → Nat} {endpoint : GenericUdpEndpoint}
  {batch : List (TxSlot (UdpEndpointTransmit β))}

/-- Without a valid slot the socket is not called. -/
theorem run_sendGenericUdpEndpoint_of_nil (none : validSlots len endpoint.info batch = [])
    (state : σ) :
    (sendGenericUdpEndpoint len send endpoint batch).run state =
      some ((sendResult 0 (deferredResult (firstError len endpoint.info batch)), batch), state) := by
  simp only [sendGenericUdpEndpoint, readyPrefix_eq, none, List.length_nil, if_true]
  rfl

/-- What the socket accepts of the valid slots is what the endpoint accepts. -/
theorem run_sendGenericUdpEndpoint_of_sent {state after : σ} {socketResult : Except SendError Nat}
    (count : acceptedCount socketResult = accepted)
    (nonempty : validSlots len endpoint.info batch ≠ [])
    (sent : (send ((validSlots len endpoint.info batch).map (transmitSlot endpoint.spec))).run
      state = some ((socketResult, takeSlots accepted
        ((validSlots len endpoint.info batch).map (transmitSlot endpoint.spec))), after))
    (few : accepted ≤ (validSlots len endpoint.info batch).length) :
    ∃ result,
      (sendGenericUdpEndpoint len send endpoint batch).run state =
        some ((result, takeSlots accepted batch), after) ∧
      acceptedCount result = accepted ∧
      errorKind result = (errorKind socketResult).or
        (if accepted = (validSlots len endpoint.info batch).length then
          firstError len endpoint.info batch
        else none) := by
  have positive := mt List.length_eq_zero_iff.mp nonempty
  have restores : ∀ result : Except SendError Nat,
      some ((result, restoreUnacceptedEndpointSlots
          (takeSlots (validSlots len endpoint.info batch).length batch)
          (takeSlots accepted
            ((validSlots len endpoint.info batch).map (transmitSlot endpoint.spec)))
          accepted), after) =
        some ((result, takeSlots accepted batch), after) := by
    intro result
    rw [restore_unaccepted endpoint.spec few]
  simp only [sendGenericUdpEndpoint, readyPrefix_eq, if_neg positive,
    convertSlots_validSlots endpoint.spec batch, StateT.run_bind, StateT.run_lift,
    Option.bind_eq_bind, Option.bind_some, sent, pure]
  cases socketResult with
  | error failure =>
    cases count
    exact ⟨.error failure, restores _, rfl, rfl⟩
  | ok accepted' =>
    cases count
    by_cases short : accepted' < (validSlots len endpoint.info batch).length
    · refine ⟨.ok accepted', ?_, rfl, ?_⟩
      · simp only [if_pos short]
        exact restores _
      · exact (if_neg (Nat.ne_of_lt short)).symm
    · have all : accepted' = (validSlots len endpoint.info batch).length :=
        Nat.le_antisymm few (Nat.le_of_not_lt short)
      refine ⟨sendResult (validSlots len endpoint.info batch).length
        (deferredResult (firstError len endpoint.info batch)), ?_,
        (acceptedCount_sendResult _ _).trans all.symm, ?_⟩
      · simp only [if_neg short]
        exact restores _
      · rw [errorKind_sendResult]
        exact (if_pos all).symm

/-- A send through a generic endpoint takes the accepted slots and leaves the others.  The
socket gets the valid slots at the front of the batch, with the endpoint's metadata, unless
there is none.  An error is the one of the socket, or else the one of the first slot that is
not valid, if everything in front of it was accepted. -/
theorem sendGenericUdpEndpoint_keeps_slots (obeys : ObeysPrefix send) (len : β → Nat)
    (endpoint : GenericUdpEndpoint) (batch : List (TxSlot (UdpEndpointTransmit β))) (state : σ) :
    let valid := validSlots len endpoint.info batch
    let refused := firstError len endpoint.info batch
    ∃ result after,
      (sendGenericUdpEndpoint len send endpoint batch).run state =
        some ((result, takeSlots (acceptedCount result) batch), after) ∧
      acceptedCount result ≤ valid.length ∧
      ((valid = [] ∧ after = state ∧ acceptedCount result = 0 ∧ errorKind result = refused) ∨
        valid ≠ [] ∧ ∃ socketResult left,
          (send (valid.map (transmitSlot endpoint.spec))).run state =
            some ((socketResult, left), after) ∧
          acceptedCount result = acceptedCount socketResult ∧
          errorKind result = (errorKind socketResult).or
            (if acceptedCount socketResult = valid.length then refused else none)) := by
  intro valid refused
  by_cases none : valid = []
  · refine ⟨_, state, ?_, ?_, .inl ⟨none, rfl, acceptedCount_sendResult _ _,
      errorKind_sendResult 0 refused⟩⟩
    · rw [run_sendGenericUdpEndpoint_of_nil none, acceptedCount_sendResult]
      rfl
    · rw [acceptedCount_sendResult]
      exact Nat.zero_le _
  · obtain ⟨socketResult, after, sent, few⟩ :=
      obeys (valid.map (transmitSlot endpoint.spec)) state
    rw [List.length_map] at few
    obtain ⟨result, run, accepted, error⟩ := run_sendGenericUdpEndpoint_of_sent rfl none sent few
    refine ⟨result, after, ?_, ?_, .inr ⟨none, socketResult, _, sent, accepted, error⟩⟩
    · rw [run, accepted]
    · rw [accepted]
      exact few

end Send

/-- A socket that accepts one slot of each batch. -/
def acceptOne : SendCall Nat (UdpTransmit (List Byte)) :=
  fun batch calls =>
    some ((.ok (min 1 batch.length), takeSlots (min 1 batch.length) batch), calls + 1)

theorem obeysPrefix_acceptOne : ObeysPrefix acceptOne :=
  fun batch calls => ⟨.ok (min 1 batch.length), calls + 1, rfl, Nat.min_le_right _ _⟩

/-- Slots with packets of one, two and four bytes; the endpoint takes up to three. -/
def sampleEndpointBatch : List (TxSlot (UdpEndpointTransmit (List Byte))) :=
  [.ready ⟨[1#8]⟩, .ready ⟨[1#8, 2#8]⟩, .ready ⟨[1#8, 2#8, 3#8, 4#8]⟩]

def sampleGenericEndpoint : GenericUdpEndpoint where
  spec :=
    { destination := .v4 { ip := 0xc6336414#32, port := 4433#16 }
      sourceIp := none
      sourcePort := some 9#16
      ecn := some .ect0
      gsoSegmentSize := none
      payloadLen := none }
  info := { mtu := 3, payloadLen := none, gsoSegmentSize := none }

/-- Of two valid slots one is accepted: the other one is restored, and the error of the
third is not reported. -/
theorem sendGenericUdpEndpoint_keeps_slots_acceptOne :
    ∃ result, (sendGenericUdpEndpoint List.length acceptOne sampleGenericEndpoint
        sampleEndpointBatch).run 0 = some ((result, .taken :: sampleEndpointBatch.drop 1), 1) ∧
      acceptedCount result = 1 ∧ errorKind result = none := by
  obtain ⟨result, after, run, _, outcome⟩ := sendGenericUdpEndpoint_keeps_slots
    obeysPrefix_acceptOne List.length sampleGenericEndpoint sampleEndpointBatch 0
  rcases outcome with ⟨none, _⟩ | ⟨_, socketResult, left, sent, accepted, error⟩
  · cases none
  · cases sent
    refine ⟨result, ?_, accepted, error⟩
    rw [run, accepted]
    rfl

end FastSocket.Packet
