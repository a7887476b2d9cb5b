import FastSocket.Os.SendRefinement
import FastSocket.Packet.EndpointSend

/-!
# Sending on any system

What the two implementations of sending have in common, interrupted or not: a send delivers
the datagrams of leading slots in order, leaves the other slots as they are, and reports the
error of an invalid slot that it gets to.
-/

namespace FastSocket.Os

open Packet

/-- The systems with different implementations of sending. -/
inductive System where
  | linux
  | other
deriving DecidableEq, Repr

/-- What sending reads of a socket.  No socket is built for empty batches. -/
structure Sender where
  localPort : Word
  mtu : Nat
  maxBatch : Nat
  positive : 0 < maxBatch

/-- The outcome of a send as that of a call with a state. -/
def regrouped (outcome : SendOutcome) : Option ((Except SendError Nat × List Slot) × Kernel) :=
  some ((outcome.1, outcome.2.1), outcome.2.2)

/-- Sends a batch with as much fuel as the interruptions of the kernel need. -/
def Sender.send (sender : Sender) (system : System) (delivery : Delivery) :
    SendCall Kernel (UdpTransmit (List Byte)) :=
  fun batch kernel =>
    match system with
    | .linux =>
      (sendImplLinux delivery sender.mtu sender.maxBatch
        (batch.length + kernel.interruptions.length + 1) batch kernel).bind regrouped
    | .other => regrouped (sendImplPerPacket delivery sender.mtu batch kernel)

def Sender.sendToUdpEndpoint (sender : Sender) (system : System) (endpoint : GenericUdpEndpoint)
    (delivery : Delivery) : SendCall Kernel (UdpEndpointTransmit (List Byte)) :=
  sendGenericUdpEndpoint List.length (sender.send system delivery) endpoint

/-- A kernel that answers: no datagram is interrupted for ever, and a `sendmmsg` sends
something. -/
structure Delivery.Answers (delivery : Delivery) : Prop where
  never : ∀ message, delivery.failure message ≠ some .interrupted
  limit : 0 < delivery.limit

/-- The checks of a send pass a slot. -/
def passes (mtu : Nat) (slot : Slot) : Bool :=
  (validate mtu slot).isOk

/-! ## What a send delivers -/

/-- Messages are those of the leading slots, and a send that stops at an invalid slot says
why. -/
structure Delivers (mtu : Nat) (batch : List Slot) (messages : List Datagram)
    (stop : Except Error Unit) : Prop where
  valid : (batch.take messages.length).map (validate mtu) = messages.map .ok
  stops : ∀ slot kind, batch[messages.length]? = some slot → validate mtu slot = .error kind →
    stop = .error kind

section Delivers

variable {delivery : Delivery} {mtu : Nat} {slot : Slot} {rest batch : List Slot}
  {message : Datagram} {messages : List Datagram} {stop : Except Error Unit}

theorem Delivers.nil (mtu : Nat) : Delivers mtu [] [] (.ok ()) where
  valid := rfl
  stops := by rintro slot kind ⟨⟩

theorem Delivers.of_invalid {kind : Error} (invalid : validate mtu slot = .error kind)
    (rest : List Slot) : Delivers mtu (slot :: rest) [] (.error kind) where
  valid := rfl
  stops := by
    rintro _ other ⟨⟩ stopped
    rw [invalid] at stopped
    cases stopped
    rfl

theorem Delivers.of_failure (valid : validate mtu slot = .ok message) (rest : List Slot)
    (stop : Except Error Unit) : Delivers mtu (slot :: rest) [] stop where
  valid := rfl
  stops := by
    rintro _ other ⟨⟩ stopped
    rw [valid] at stopped
    cases stopped

theorem Delivers.cons (valid : validate mtu slot = .ok message)
    (delivers : Delivers mtu rest messages stop) :
    Delivers mtu (slot :: rest) (message :: messages) stop where
  valid := by
    rw [List.length_cons, List.take_succ_cons, List.map_cons, List.map_cons, valid,
      delivers.valid]
  stops := delivers.stops

theorem Delivers.length_le (delivers : Delivers mtu batch messages stop) :
    messages.length ≤ batch.length := by
  have lengths := congrArg List.length delivers.valid
  rw [List.length_map, List.length_map, List.length_take] at lengths
  omega

theorem delivers_deliver (delivery : Delivery) (mtu : Nat) (batch : List Slot) :
    Delivers mtu batch (deliver delivery mtu batch).1 (deliver delivery mtu batch).2 := by
  induction batch with
  | nil => exact .nil mtu
  | cons slot rest ih =>
    cases valid : validate mtu slot with
    | error kind =>
      rw [deliver_of_invalid valid]
      exact .of_invalid valid rest
    | ok message =>
      cases fails : delivery.failure message with
      | none =>
        rw [deliver_of_sent valid fails]
        exact ih.cons valid
      | some kind =>
        rw [deliver_of_failure valid fails]
        exact .of_failure valid rest _

theorem sendmsg_cases (delivery : Delivery) (message : Datagram) (kernel : Kernel) :
    ∃ later, Kernel.sendmsg delivery message kernel =
        (.ok (), ⟨later, kernel.sent ++ [message]⟩) ∨
      ∃ kind, Kernel.sendmsg delivery message kernel = (.error kind, ⟨later, kernel.sent⟩) := by
  rcases kernel with ⟨_ | ⟨_ | _, later⟩, sent⟩
  · cases fails : delivery.failure message with
    | none => exact ⟨[], .inl (by simp [Kernel.sendmsg, Kernel.interruptible, fails])⟩
    | some kind => exact ⟨[], .inr ⟨kind, by simp [Kernel.sendmsg, Kernel.interruptible, fails]⟩⟩
  · cases fails : delivery.failure message with
    | none => exact ⟨later, .inl (by simp [Kernel.sendmsg, Kernel.interruptible, fails])⟩
    | some kind =>
      exact ⟨later, .inr ⟨kind, by simp [Kernel.sendmsg, Kernel.interruptible, fails]⟩⟩
  · exact ⟨later, .inr ⟨.interrupted, rfl⟩⟩

/-- Sending one by one delivers, whatever is interrupted. -/
theorem delivers_sendEach (delivery : Delivery) (mtu accepted : Nat) (slots : List Slot)
    (kernel : Kernel) :
    ∃ messages stop later, Delivers mtu slots messages stop ∧
      sendEach delivery mtu accepted slots kernel =
        (sendResult (accepted + messages.length) stop, Packet.takeSlots messages.length slots,
          ⟨later, kernel.sent ++ messages⟩) := by
  induction slots generalizing accepted kernel with
  | nil =>
    refine ⟨[], .ok (), kernel.interruptions, .nil mtu, ?_⟩
    rw [List.append_nil]
    rfl
  | cons slot rest ih =>
    rw [sendEach]
    cases valid : validate mtu slot with
    | error kind =>
      refine ⟨[], .error kind, kernel.interruptions, .of_invalid valid rest, ?_⟩
      rw [List.append_nil]
      rfl
    | ok message =>
      obtain ⟨later, sent | ⟨kind, failed⟩⟩ := sendmsg_cases delivery message kernel
      · obtain ⟨messages, stop, last, delivers, run⟩ :=
          ih (accepted + 1) ⟨later, kernel.sent ++ [message]⟩
        refine ⟨message :: messages, stop, last, delivers.cons valid, ?_⟩
        simp only [sent, run, Packet.takeSlots, List.length_cons, List.replicate_succ,
          List.cons_append, List.drop_succ_cons, List.append_assoc, List.nil_append,
          Nat.add_assoc, Nat.add_comm 1]
      · refine ⟨[], stopReason kind, later, .of_failure valid rest _, ?_⟩
        simp only [failed, stopAt_eq, List.append_nil]
        rfl

theorem takeWhile_of_sends (sends : ∀ message, delivery.failure message = none)
    (batch : List Slot) :
    (deliver delivery mtu batch).1.length = (batch.takeWhile (passes mtu)).length := by
  induction batch with
  | nil => rfl
  | cons slot rest ih =>
    cases valid : validate mtu slot with
    | error kind =>
      have fails : ¬passes mtu slot := by simp [passes, valid, Except.isOk, Except.toBool]
      rw [deliver_of_invalid valid, List.takeWhile_cons_of_neg fails]
      rfl
    | ok message =>
      have succeeds : passes mtu slot := by simp [passes, valid, Except.isOk, Except.toBool]
      rw [deliver_of_sent valid (sends message), List.takeWhile_cons_of_pos succeeds,
        List.length_cons, List.length_cons, ih]

/-- A send delivers, on any system. -/
theorem Sender.run_send (sender : Sender) (system : System) (answers : delivery.Answers)
    (batch : List Slot) (kernel : Kernel) :
    ∃ messages stop later, Delivers sender.mtu batch messages stop ∧
      (sender.send system delivery batch).run kernel =
        some ((sendResult messages.length stop, Packet.takeSlots messages.length batch),
          ⟨later, kernel.sent ++ messages⟩) := by
  cases system with
  | linux =>
    obtain ⟨later, run⟩ := @finishes_sendChunks batch kernel
      (batch.length + kernel.interruptions.length + 1) delivery sender.mtu answers.never
      answers.limit sender.maxBatch sender.positive (Nat.lt_succ_self _) 0
    refine ⟨_, _, later, delivers_deliver delivery sender.mtu batch, ?_⟩
    rw [Nat.zero_add] at run
    exact congrArg (Option.bind · regrouped) run
  | other =>
    obtain ⟨messages, stop, later, delivers, run⟩ :=
      delivers_sendEach delivery sender.mtu 0 batch kernel
    refine ⟨messages, stop, later, delivers, ?_⟩
    rw [Nat.zero_add] at run
    exact congrArg regrouped run

/-- A kernel that neither fails nor interrupts sends every leading slot that passes the
checks. -/
theorem Sender.run_send_of_sends (sender : Sender) (system : System)
    (answers : delivery.Answers) (sends : ∀ message, delivery.failure message = none)
    (batch : List Slot) :
    ∃ messages stop later,
      messages.length = (batch.takeWhile (passes sender.mtu)).length ∧
      (sender.send system delivery batch).run ⟨[], []⟩ =
        some ((sendResult messages.length stop, Packet.takeSlots messages.length batch),
          ⟨later, messages⟩) := by
  refine ⟨(deliver delivery sender.mtu batch).1, (deliver delivery sender.mtu batch).2, ?_⟩
  cases system with
  | linux =>
    obtain ⟨later, run⟩ := @finishes_sendChunks batch ⟨[], []⟩ (batch.length + 0 + 1)
      delivery sender.mtu answers.never answers.limit sender.maxBatch sender.positive
      (Nat.lt_succ_self _) 0
    refine ⟨later, takeWhile_of_sends sends batch, ?_⟩
    rw [Nat.zero_add] at run
    exact congrArg (Option.bind · regrouped) run
  | other =>
    refine ⟨[], takeWhile_of_sends sends batch, ?_⟩
    have run := sendEach_eq delivery sender.mtu 0 batch []
    rw [Nat.zero_add] at run
    exact congrArg regrouped run

end Delivers

end FastSocket.Os
