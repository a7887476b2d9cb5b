import FastSocket.Os.Send

/-!
# What a send delivers

A send delivers a leading part of its batch: up to the first slot that is invalid or
whose datagram the kernel does not send.  Sending one by one does so when no call is
interrupted.
-/

namespace FastSocket.Os

open Packet

/-! ## The delivered part -/

section Deliver

variable (delivery : Delivery) (mtu : Nat)

/-- How a send stops at an I/O error. -/
def stopReason (kind : IoErrorKind) : Except Error Unit :=
  if isTransient kind then .ok () else .error (ioErrorToCore kind)

/-- The datagrams that are sent of a batch, and why the send stops. -/
def deliver : List Slot → List Datagram × Except Error Unit
  | [] => ([], .ok ())
  | slot :: rest =>
    match validate mtu slot with
    | .error kind => ([], .error kind)
    | .ok message =>
      match delivery.failure message with
      | none => (message :: (deliver rest).1, (deliver rest).2)
      | some kind => ([], stopReason kind)

/-- The batch that a send leaves. -/
def delivered (slots : List Slot) : List Slot :=
  List.replicate (deliver delivery mtu slots).1.length .taken ++
    slots.drop (deliver delivery mtu slots).1.length

variable {delivery mtu}

theorem stopAt_eq (accepted : Nat) (kind : IoErrorKind) :
    stopAt accepted kind = sendResult accepted (stopReason kind) := by
  rw [stopAt, stopReason]
  split
  · rfl
  · rfl

variable {slot : Slot} {message : Datagram}

theorem deliver_of_invalid {kind : Error} (invalid : validate mtu slot = .error kind)
    (rest : List Slot) : deliver delivery mtu (slot :: rest) = ([], .error kind) := by
  rw [deliver, invalid]

theorem deliver_of_failure {kind : IoErrorKind} (valid : validate mtu slot = .ok message)
    (fails : delivery.failure message = some kind) (rest : List Slot) :
    deliver delivery mtu (slot :: rest) = ([], stopReason kind) := by
  rw [deliver, valid]
  simp only [fails]

theorem deliver_of_sent (valid : validate mtu slot = .ok message)
    (sends : delivery.failure message = none) (rest : List Slot) :
    deliver delivery mtu (slot :: rest) =
      (message :: (deliver delivery mtu rest).1, (deliver delivery mtu rest).2) := by
  rw [deliver, valid]
  simp only [sends]

/-- The delivered datagrams are those of the first slots, in order. -/
theorem deliver_slots (slots : List Slot) :
    (slots.take (deliver delivery mtu slots).1.length).map (validate mtu) =
      (deliver delivery mtu slots).1.map .ok := by
  induction slots with
  | nil => rfl
  | cons slot rest ih =>
    cases valid : validate mtu slot with
    | error kind =>
      rw [deliver_of_invalid valid]
      rfl
    | ok message =>
      cases fails : delivery.failure message with
      | none =>
        rw [deliver_of_sent valid fails, List.length_cons, List.take_succ_cons,
          List.map_cons, List.map_cons, ih, valid]
      | some kind =>
        rw [deliver_of_failure valid fails]
        rfl

/-- A leading part that is sent is delivered before the rest. -/
theorem deliver_append {before : List Slot} {messages : List Datagram}
    (valid : before.map (validate mtu) = messages.map .ok)
    (sends : ∀ message ∈ messages, delivery.failure message = none) (after : List Slot) :
    deliver delivery mtu (before ++ after) =
      (messages ++ (deliver delivery mtu after).1, (deliver delivery mtu after).2) := by
  induction before generalizing messages with
  | nil =>
    rw [List.map_nil, eq_comm, List.map_eq_nil_iff] at valid
    rw [valid]
    rfl
  | cons slot rest ih =>
    cases messages with
    | nil => cases valid
    | cons message later =>
      rw [List.map_cons, List.map_cons, List.cons.injEq] at valid
      rw [List.forall_mem_cons] at sends
      rw [List.cons_append, deliver_of_sent valid.1 sends.1, ih valid.2 sends.2]
      rfl

end Deliver

/-! ## One by one -/

theorem sendmsg_uninterrupted (delivery : Delivery) (message : Datagram) (sent : List Datagram) :
    Kernel.sendmsg delivery message ⟨[], sent⟩ =
      match delivery.failure message with
      | some kind => (.error kind, ⟨[], sent⟩)
      | none => (.ok (), ⟨[], sent ++ [message]⟩) :=
  rfl

/-- Without interruptions, sending one by one delivers. -/
theorem sendEach_eq (delivery : Delivery) (mtu accepted : Nat) (slots : List Slot)
    (sent : List Datagram) :
    sendEach delivery mtu accepted slots ⟨[], sent⟩ =
      (sendResult (accepted + (deliver delivery mtu slots).1.length)
          (deliver delivery mtu slots).2,
        delivered delivery mtu slots, ⟨[], sent ++ (deliver delivery mtu slots).1⟩) := by
  induction slots generalizing accepted sent with
  | nil =>
    rw [sendEach, delivered, deliver, List.append_nil]
    rfl
  | cons slot rest ih =>
    rw [sendEach, delivered]
    cases valid : validate mtu slot with
    | error kind =>
      rw [deliver_of_invalid valid, List.append_nil]
      rfl
    | ok message =>
      simp only
      rw [sendmsg_uninterrupted]
      cases fails : delivery.failure message with
      | none =>
        simp only
        rw [ih, deliver_of_sent valid fails, delivered]
        simp only [List.length_cons, List.replicate_succ, List.cons_append,
          List.drop_succ_cons, List.append_assoc, List.nil_append, Nat.add_assoc,
          Nat.add_comm 1]
      | some kind =>
        simp only
        rw [deliver_of_failure valid fails, stopAt_eq, List.append_nil]
        rfl

end FastSocket.Os
