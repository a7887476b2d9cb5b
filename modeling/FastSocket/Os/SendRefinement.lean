import FastSocket.Os.Deliver
import Mathlib.Data.List.TakeWhile

/-!
# Sending in chunks refines sending one by one

The Linux implementation delivers the same leading part of a batch as sending one by
one, whatever calls are interrupted and however many messages a `sendmmsg` sends.
-/

namespace FastSocket.Os

open Packet

/-! ## Chunks -/

/-- A chunk that has started goes on to the first invalid slot. -/
theorem scanChunk_started (mtu : Nat) (slots : List Slot) (max : Nat) {chunkLen : Nat}
    (started : 0 < chunkLen) :
    ∃ (before after : List Slot) (messages : List Datagram), slots = before ++ after ∧
      before.map (validate mtu) = messages.map .ok ∧
      scanChunk mtu slots max chunkLen = .ok (chunkLen + before.length) := by
  induction slots generalizing max chunkLen with
  | nil =>
    cases max with
    | zero => exact ⟨[], [], [], rfl, rfl, rfl⟩
    | succ max => exact ⟨[], [], [], rfl, rfl, rfl⟩
  | cons slot rest ih =>
    cases max with
    | zero => exact ⟨[], slot :: rest, [], rfl, rfl, rfl⟩
    | succ max =>
      rw [scanChunk]
      cases valid : validate mtu slot with
      | error kind => exact ⟨[], slot :: rest, [], rfl, rfl, if_neg started.ne'⟩
      | ok message =>
        obtain ⟨before, after, messages, rfl, validRest, scanned⟩ :=
          ih max (Nat.succ_pos chunkLen)
        refine ⟨slot :: before, after, message :: messages, rfl, ?_, ?_⟩
        · rw [List.map_cons, List.map_cons, valid, validRest]
        · simp only
          rw [scanned, List.length_cons]
          congr 1
          omega

variable {chunk slots : List Slot} {messages : List Datagram} {kernel : Kernel} {fuel : Nat}
  {delivery : Delivery} {message : Datagram}

theorem chunkMessages_eq {mtu : Nat} (valid : chunk.map (validate mtu) = messages.map .ok) :
    chunkMessages mtu chunk = messages := by
  have converted : chunkMessages mtu chunk =
      (chunk.map (validate mtu)).filterMap Except.toOption := by
    rw [List.filterMap_map]
    rfl
  rw [converted, valid, List.filterMap_map]
  exact List.filterMap_some

/-! ## Interrupted calls -/

section Retry

variable {α : Type} {call : Kernel → Except IoErrorKind α × Kernel}
  (never : ∀ kernel, (call kernel).1 ≠ .error .interrupted)

include never

theorem retry_answered {state : Kernel} (answered : Kernel.interruptible call kernel = call state)
    (fuel : Nat) : retry (Kernel.interruptible call) (fuel + 1) kernel = some (call state) := by
  rw [retry, answered]
  split
  case h_1 failed => exact absurd (congrArg Prod.fst failed) (never state)
  case h_2 => rfl

/-- A call that is repeated while it is interrupted ends as it does without
interruptions. -/
theorem retry_interruptible (enough : kernel.interruptions.length < fuel) :
    ∃ later, later.length ≤ kernel.interruptions.length ∧
      retry (Kernel.interruptible call) fuel kernel =
        some (call { kernel with interruptions := later }) := by
  induction fuel generalizing kernel with
  | zero => omega
  | succ fuel ih =>
    rcases kernel with ⟨_ | ⟨_ | _, later⟩, sent⟩
    · exact ⟨[], Nat.le_refl _, retry_answered never rfl fuel⟩
    · exact ⟨later, Nat.le_succ _, retry_answered never rfl fuel⟩
    · obtain ⟨rest, shorter, ended⟩ := @ih ⟨later, sent⟩ (Nat.lt_of_succ_lt_succ enough)
      exact ⟨rest, Nat.le_succ_of_le shorter, ended⟩

end Retry

theorem sendable_nonempty (limit : 0 < delivery.limit) (sends : delivery.failure message = none)
    (more : List Datagram) : 0 < (Kernel.sendable delivery (message :: more)).length := by
  rw [Kernel.sendable, List.takeWhile_cons_of_pos (by rw [sends]; rfl), List.length_take,
    List.length_cons]
  omega

theorem sendable_append (delivery : Delivery) (messages : List Datagram) :
    ∃ unsent, messages = Kernel.sendable delivery messages ++ unsent := by
  obtain ⟨rest, isRest⟩ := (List.take_prefix delivery.limit _).trans
    (List.takeWhile_prefix fun message => (delivery.failure message).isNone)
  exact ⟨rest, isRest.symm⟩

theorem failure_of_mem_sendable (member : message ∈ Kernel.sendable delivery messages) :
    delivery.failure message = none := by
  have sends := List.mem_takeWhile_imp (List.mem_of_mem_take member)
  exact Option.isNone_iff_eq_none.mp sends

/-! ## The loop -/

theorem takeSlots_replicate {count : Nat} (inside : count ≤ slots.length) (accepted : Nat) :
    takeSlots (List.replicate accepted .taken ++ slots) accepted count =
      List.replicate (accepted + count) .taken ++ slots.drop count := by
  have length : (List.replicate accepted (TxSlot.taken : Slot)).length = accepted :=
    List.length_replicate
  have taken : (slots.take count).map (fun _ => (TxSlot.taken : Slot)) =
      List.replicate count .taken := by
    rw [List.map_const', List.length_take, Nat.min_eq_left inside]
  rw [takeSlots, List.take_left' length, List.drop_left' length, taken,
    List.replicate_append_replicate]
  nth_rewrite 2 [← length]
  rw [List.drop_length_add_append]

/-- An outcome delivers the slots behind those that were accepted already. -/
def Finishes (delivery : Delivery) (mtu accepted : Nat) (slots : List Slot)
    (sent : List Datagram) (outcome : Option SendOutcome) : Prop :=
  ∃ later, outcome = some
    (sendResult (accepted + (deliver delivery mtu slots).1.length) (deliver delivery mtu slots).2,
      List.replicate accepted .taken ++ delivered delivery mtu slots,
      ⟨later, sent ++ (deliver delivery mtu slots).1⟩)

variable {mtu accepted : Nat} {sent : List Datagram} {outcome : Option SendOutcome}

theorem Finishes.stop {reason : Except Error Unit} {later : List Bool}
    (stops : deliver delivery mtu slots = ([], reason))
    (ended : outcome = some (sendResult accepted reason,
      List.replicate accepted .taken ++ slots, ⟨later, sent⟩)) :
    Finishes delivery mtu accepted slots sent outcome := by
  refine ⟨later, ?_⟩
  rw [ended, delivered, stops, List.append_nil]
  rfl

theorem Finishes.append {before after : List Slot}
    (valid : before.map (validate mtu) = messages.map .ok)
    (sends : ∀ message ∈ messages, delivery.failure message = none)
    (finishes : Finishes delivery mtu (accepted + messages.length) after (sent ++ messages)
      outcome) : Finishes delivery mtu accepted (before ++ after) sent outcome := by
  have sameLength : before.length = messages.length := by
    have lengths := congrArg List.length valid
    rwa [List.length_map, List.length_map] at lengths
  obtain ⟨later, ended⟩ := finishes
  refine ⟨later, ?_⟩
  rw [ended, delivered, delivered, deliver_append valid sends, List.length_append,
    Nat.add_assoc, List.append_assoc]
  congr 3
  rw [← List.replicate_append_replicate, ← List.replicate_append_replicate,
    ← sameLength, List.drop_length_add_append, List.append_assoc, List.append_assoc]

section Loop

variable (never : ∀ message, delivery.failure message ≠ some .interrupted)

include never

theorem retry_sendmsg (enough : kernel.interruptions.length < fuel) (message : Datagram) :
    ∃ later, later.length ≤ kernel.interruptions.length ∧
      retry (Kernel.sendmsg delivery message) fuel kernel = some
        (match delivery.failure message with
          | some kind => (.error kind, ⟨later, kernel.sent⟩)
          | none => (.ok (), ⟨later, kernel.sent ++ [message]⟩)) := by
  apply retry_interruptible _ enough
  intro state
  cases fails : delivery.failure message with
  | none => rintro ⟨⟩
  | some kind =>
    rintro ⟨⟩
    exact never message fails

theorem retry_sendmmsg (enough : kernel.interruptions.length < fuel) (message : Datagram)
    (more : List Datagram) :
    ∃ later, later.length ≤ kernel.interruptions.length ∧
      retry (Kernel.sendmmsg delivery (message :: more)) fuel kernel = some
        (match delivery.failure message with
          | some kind => (.error kind, ⟨later, kernel.sent⟩)
          | none => (.ok (Kernel.sendable delivery (message :: more)).length,
              ⟨later, kernel.sent ++ Kernel.sendable delivery (message :: more)⟩)) := by
  apply retry_interruptible _ enough
  intro state
  rw [List.head?_cons, Option.bind_some]
  cases fails : delivery.failure message with
  | none => rintro ⟨⟩
  | some kind =>
    rintro ⟨⟩
    exact never message fails

/-- A chunk is sent up to some message; then the send returns because the next one
fails, or it continues behind what was sent. -/
theorem sendChunk_spec (limit : 0 < delivery.limit) (enough : kernel.interruptions.length < fuel)
    (message : Datagram) (more : List Datagram) (fits : (message :: more).length ≤ slots.length)
    (accepted : Nat) :
    ∃ now unsent later, message :: more = now ++ unsent ∧
      (∀ message ∈ now, delivery.failure message = none) ∧
      later.length ≤ kernel.interruptions.length ∧
      ((∃ next kind rest, unsent = next :: rest ∧ delivery.failure next = some kind ∧
          sendChunk delivery (message :: more) fuel accepted
              (List.replicate accepted .taken ++ slots) kernel =
            some (.returns (stopAt (accepted + now.length) kind,
              List.replicate (accepted + now.length) .taken ++ slots.drop now.length,
              ⟨later, kernel.sent ++ now⟩))) ∨
        (0 < now.length ∧
          sendChunk delivery (message :: more) fuel accepted
              (List.replicate accepted .taken ++ slots) kernel =
            some (.continues (accepted + now.length)
              (List.replicate (accepted + now.length) .taken ++ slots.drop now.length)
              ⟨later, kernel.sent ++ now⟩))) := by
  obtain ⟨later, shorter, answered⟩ := retry_sendmmsg never enough message more
  rw [sendChunk, answered]
  cases fails : delivery.failure message with
  | some kind =>
    refine ⟨[], message :: more, later, rfl, by simp, shorter, .inl ⟨message, kind, more, rfl,
      fails, ?_⟩⟩
    rw [List.append_nil]
    rfl
  | none =>
    obtain ⟨unsent, split⟩ := sendable_append delivery (message :: more)
    have positive := sendable_nonempty limit fails more
    have sends : ∀ other ∈ Kernel.sendable delivery (message :: more),
        delivery.failure other = none := fun _ => failure_of_mem_sendable
    generalize Kernel.sendable delivery (message :: more) = now at split positive sends
    have inside : now.length ≤ slots.length := by
      rw [split, List.length_append] at fits
      omega
    simp only [takeSlots_replicate inside]
    cases unsent with
    | nil =>
      have noNext : (message :: more)[now.length]? = none := by
        rw [split, List.append_nil, List.getElem?_length]
      rw [noNext]
      exact ⟨now, [], later, split, sends, shorter, .inr ⟨positive, rfl⟩⟩
    | cons next rest =>
      have isNext : (message :: more)[now.length]? = some next := by
        rw [split, List.getElem?_append_right (Nat.le_refl _), Nat.sub_self]
        rfl
      have enoughNow : later.length < fuel := by omega
      obtain ⟨last, shorterLast, answeredNext⟩ :=
        @retry_sendmsg ⟨later, kernel.sent ++ now⟩ fuel _ never enoughNow next
      have shortest : last.length ≤ kernel.interruptions.length :=
        Nat.le_trans shorterLast shorter
      rw [isNext]
      simp only [answeredNext]
      cases failsNext : delivery.failure next with
      | some kind =>
        exact ⟨now, next :: rest, last, split, sends, shortest,
          .inl ⟨next, kind, rest, rfl, failsNext, rfl⟩⟩
      | none =>
        refine ⟨now ++ [next], rest, last, ?_, ?_, shortest, .inr ⟨?_, ?_⟩⟩
        · rw [split, List.append_assoc]
          rfl
        · intro other member
          rcases List.mem_append.mp member with old | new
          · exact sends other old
          · rw [List.mem_singleton.mp new]
            exact failsNext
        · rw [List.length_append]
          omega
        · have one : 1 ≤ (slots.drop now.length).length := by
            rw [split, List.length_append, List.length_cons] at fits
            rw [List.length_drop]
            omega
          simp only [takeSlots_replicate one, List.length_append, List.length_singleton,
            List.drop_drop, List.append_assoc, Nat.add_assoc]

/-- After a chunk, the loop finishes if it does behind what was sent. -/
theorem finishes_chunk (limit : 0 < delivery.limit) (enough : kernel.interruptions.length < fuel)
    (valid : chunk.map (validate mtu) = (message :: messages).map .ok) (after : List Slot)
    {next : Nat → List Slot → Kernel → Option SendOutcome}
    (finishes : ∀ count rest later sent, 0 < count → rest.length + count = (chunk ++ after).length →
      later.length ≤ kernel.interruptions.length →
      Finishes delivery mtu (accepted + count) rest sent
        (next (accepted + count) (List.replicate (accepted + count) .taken ++ rest)
          ⟨later, sent⟩)) :
    Finishes delivery mtu accepted (chunk ++ after) kernel.sent
      (match sendChunk delivery (message :: messages) fuel accepted
          (List.replicate accepted .taken ++ (chunk ++ after)) kernel with
        | none => none
        | some (.returns outcome) => some outcome
        | some (.continues accepted batch kernel) => next accepted batch kernel) := by
  have sameLength : chunk.length = (message :: messages).length := by
    have lengths := congrArg List.length valid
    rwa [List.length_map, List.length_map] at lengths
  have fits : (message :: messages).length ≤ (chunk ++ after).length := by
    rw [List.length_append]
    omega
  obtain ⟨now, unsent, later, split, sends, shorter, ended⟩ :=
    sendChunk_spec never limit enough message messages fits accepted
  rw [split, List.map_append] at valid
  obtain ⟨nowSlots, unsentSlots, rfl, validNow, validUnsent⟩ := List.map_eq_append_iff.mp valid
  have nowLength : nowSlots.length = now.length := by
    have lengths := congrArg List.length validNow
    rwa [List.length_map, List.length_map] at lengths
  have behind : (nowSlots ++ unsentSlots ++ after).drop now.length = unsentSlots ++ after := by
    rw [List.append_assoc, List.drop_left' nowLength]
  rw [behind] at ended
  rcases ended with ⟨failed, kind, rest, rfl, fails, returned⟩ | ⟨positive, continued⟩
  · rw [returned, List.append_assoc]
    apply Finishes.append validNow sends
    cases unsentSlots with
    | nil => cases validUnsent
    | cons slot others =>
      rw [List.map_cons, List.map_cons, List.cons.injEq] at validUnsent
      exact .stop (deliver_of_failure validUnsent.1 fails _) (by rw [stopAt_eq])
  · rw [continued, List.append_assoc]
    apply Finishes.append validNow sends
    apply finishes now.length (unsentSlots ++ after) later _ positive _ shorter
    rw [List.length_append, List.length_append, List.length_append]
    omega

/-- The loop of the Linux implementation delivers what is left of the batch. -/
theorem finishes_sendChunks (limit : 0 < delivery.limit) {maxBatch : Nat} (positive : 0 < maxBatch)
    (enough : slots.length + kernel.interruptions.length < fuel) (accepted : Nat) :
    Finishes delivery mtu accepted slots kernel.sent
      (sendChunks delivery mtu maxBatch fuel accepted
        (List.replicate accepted .taken ++ slots) kernel) := by
  induction fuel generalizing slots kernel accepted with
  | zero => omega
  | succ fuel ih =>
    have length : (List.replicate accepted (TxSlot.taken : Slot) ++ slots).length =
        accepted + slots.length := by
      rw [List.length_append, List.length_replicate]
    have behind : (List.replicate accepted (TxSlot.taken : Slot) ++ slots).drop accepted =
        slots := List.drop_left' List.length_replicate
    rw [sendChunks, length, behind]
    cases slots with
    | nil =>
      rw [if_neg (by simp)]
      exact .stop rfl rfl
    | cons slot rest =>
      obtain ⟨max, isMax⟩ : ∃ max,
          min (accepted + (slot :: rest).length - accepted) maxBatch = max + 1 := by
        rw [List.length_cons]
        exact ⟨min (accepted + (rest.length + 1) - accepted) maxBatch - 1, by omega⟩
      rw [if_pos (by simp)]
      simp only [isMax]
      cases valid : validate mtu slot with
      | error kind =>
        have scanned : scanChunk mtu (slot :: rest) (max + 1) 0 = .error kind := by
          rw [scanChunk, valid]
          rfl
        rw [scanned]
        exact .stop (deliver_of_invalid valid rest) rfl
      | ok message =>
        obtain ⟨before, after, messages, rfl, validRest, started⟩ :=
          scanChunk_started mtu rest max Nat.one_pos
        have scanned : scanChunk mtu (slot :: (before ++ after)) (max + 1) 0 =
            .ok (1 + before.length) := by
          rw [scanChunk, valid]
          exact started
        have chunk : (slot :: (before ++ after)).take (1 + before.length) =
            slot :: before := by
          rw [Nat.add_comm, List.take_succ_cons, List.take_left]
        have validChunk : (slot :: before).map (validate mtu) =
            (message :: messages).map .ok := by
          rw [List.map_cons, List.map_cons, valid, validRest]
        rw [scanned]
        simp only [chunk, chunkMessages_eq validChunk]
        apply finishes_chunk never limit (by omega) validChunk after
        intro count rest later sent nonempty fewer shorter
        apply @ih rest ⟨later, sent⟩
        rw [List.cons_append] at fewer
        change rest.length + later.length < fuel
        omega

end Loop

/-- On Linux, a send ends after finitely many calls, whichever of them are
interrupted.  It returns what sending one by one returns without interruptions and
leaves the same batch; the datagrams sent are those of the accepted slots, in
order. -/
theorem sendImplLinux_eq_perPacket {delivery : Delivery}
    (never : ∀ message, delivery.failure message ≠ some .interrupted)
    (limit : 0 < delivery.limit) (mtu : Nat) {maxBatch : Nat} (positive : 0 < maxBatch)
    (batch : List Slot) (kernel : Kernel) {fuel : Nat}
    (enough : batch.length + kernel.interruptions.length < fuel) :
    let reference := sendImplPerPacket delivery mtu batch ⟨[], kernel.sent⟩
    let accepted := acceptedCount reference.1
    (∃ later, sendImplLinux delivery mtu maxBatch fuel batch kernel =
      some (reference.1, reference.2.1, ⟨later, reference.2.2.sent⟩)) ∧
      reference.2.1 = List.replicate accepted .taken ++ batch.drop accepted ∧
      ∃ datagrams, (batch.take accepted).map (validate mtu) = datagrams.map .ok ∧
        reference.2.2.sent = kernel.sent ++ datagrams := by
  intro reference accepted
  have isReference : reference = _ := sendEach_eq delivery mtu 0 batch kernel.sent
  have isAccepted : accepted = (deliver delivery mtu batch).1.length := by
    change acceptedCount reference.1 = _
    rw [isReference, acceptedCount_sendResult, Nat.zero_add]
  rw [isReference, isAccepted]
  refine ⟨?_, rfl, (deliver delivery mtu batch).1, deliver_slots batch, rfl⟩
  exact finishes_sendChunks never limit positive enough 0

/-- A kernel that sends everything. -/
def reliable : Delivery :=
  { failure := fun _ => none, limit := 1024 }

def sampleSlot : Slot :=
  .ready {
    packet := [1#8]
    destination := .v4 ⟨1#32, 9#16⟩
    sourceIp := none
    sourcePort := none
    ecn := none
    gsoSegmentSize := none }

/-- An interrupted send of one datagram. -/
theorem sendImplLinux_eq_perPacket_sample :
    ∃ later, sendImplLinux reliable 1500 64 3 [sampleSlot] ⟨[true], []⟩ =
      some (.ok 1, [.taken], ⟨later, [⟨.v4 ⟨1#32, 9#16⟩, [1#8]⟩]⟩) :=
  (sendImplLinux_eq_perPacket (by rintro message ⟨⟩) (by decide : 0 < reliable.limit) 1500
    (by decide : 0 < 64) [sampleSlot] ⟨[true], []⟩ (by decide : _ < 3)).1

/-- Sending one by one does not repeat an interrupted call. -/
theorem sendImplPerPacket_interrupted :
    sendImplLinux reliable 1500 64 3 [sampleSlot] ⟨[true], []⟩ =
        some (.ok 1, [.taken], ⟨[], [⟨.v4 ⟨1#32, 9#16⟩, [1#8]⟩]⟩) ∧
      sendImplPerPacket reliable 1500 [sampleSlot] ⟨[true], []⟩ =
        (.ok 0, [sampleSlot], ⟨[], []⟩) :=
  ⟨rfl, rfl⟩

end FastSocket.Os
