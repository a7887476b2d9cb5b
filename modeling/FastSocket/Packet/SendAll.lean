import FastSocket.Packet.EndpointSend

/-!
# Sending a whole batch

The sends to completion call the send of a socket on what is left of the batch, and drain
transmit completions when nothing was accepted.  Whatever the socket accepts in each call,
the slots are sent once and in order, and the result counts them.
-/

namespace FastSocket.Packet

variable {σ α : Type}

/-- The call that drains transmit completions. -/
abbrev DrainCall (σ : Type) :=
  StateT σ Option (Except Error Nat)

/-- The loop behind `total` accepted slots.  It has not returned when the fuel ends. -/
def sendAllLoop (send : SendCall σ α) (drain : DrainCall σ) : (fuel total : Nat) → SendCall σ α
  | 0, _, _ => failure
  | fuel + 1, total, batch =>
    if total < batch.length then do
      let (result, rest) ← send (batch.drop total)
      let batch := batch.take total ++ rest
      match result with
      | .ok 0 =>
        match ← drain with
        | .error kind => return (.error { accepted := total, kind := kind }, batch)
        | .ok _ => sendAllLoop send drain fuel total batch
      | .ok accepted => sendAllLoop send drain fuel (total + accepted) batch
      | .error failed =>
        return (.error { accepted := total + failed.accepted, kind := failed.kind }, batch)
    else
      return (.ok total, batch)

/-- The sends to completion of datagrams, of packets through an endpoint and of IP
packets. -/
def sendAll (send : SendCall σ α) (drain : DrainCall σ) (fuel : Nat) : SendCall σ α :=
  sendAllLoop send drain fuel 0

/-- A socket that accepts leading slots and sends what it accepts.  Draining sends nothing.
At most `stalls` calls in a row accept nothing, and no more than `bound` after a call that
accepts a slot. -/
structure Progresses (send : SendCall σ α) (drain : DrainCall σ) (sent : σ → List (TxSlot α))
    (stalls : σ → Nat) (bound : Nat) : Prop where
  obeys : ObeysPrefix send
  sends : ∀ {batch state result left after},
    (send batch).run state = some ((result, left), after) →
      sent after = sent state ++ batch.take (acceptedCount result) ∧
        (acceptedCount result ≠ 0 → stalls after ≤ bound)
  drains : ∀ state, ∃ result after, drain.run state = some (result, after) ∧
    sent after = sent state
  recovers : ∀ {batch state left middle count after}, batch ≠ [] →
    (send batch).run state = some ((.ok 0, left), middle) →
      drain.run middle = some (.ok count, after) → stalls after < stalls state

/-- A send that returned has sent the slots that it counts, from a log `before` on, and has
sent all of them unless it failed. -/
def SentPrefix (sent : σ → List (TxSlot α)) (before batch : List (TxSlot α))
    (outcome : Option ((Except SendError Nat × List (TxSlot α)) × σ)) : Prop :=
  ∃ result after, outcome = some ((result, takeSlots (acceptedCount result) batch), after) ∧
    acceptedCount result ≤ batch.length ∧
    sent after = before ++ batch.take (acceptedCount result) ∧
    (errorKind result = none → acceptedCount result = batch.length)

variable {total accepted : Nat} {batch : List (TxSlot α)}

theorem drop_takeSlots : (takeSlots total batch).drop total = batch.drop total :=
  List.drop_left' List.length_replicate

theorem length_takeSlots (le : total ≤ batch.length) :
    (takeSlots total batch).length = batch.length := by
  rw [takeSlots, List.length_append, List.length_replicate, List.length_drop]
  omega

/-- Taking more slots of what is left. -/
theorem takeSlots_add :
    (takeSlots total batch).take total ++ takeSlots accepted (batch.drop total) =
      takeSlots (total + accepted) batch := by
  rw [takeSlots, List.take_left' List.length_replicate, takeSlots, takeSlots, List.drop_drop,
    ← List.append_assoc, List.replicate_append_replicate]

variable {send : SendCall σ α} {drain : DrainCall σ} {sent : σ → List (TxSlot α)}
  {stalls : σ → Nat} {bound : Nat}

/-- Enough fuel for the slots that are left and for the calls that accept none. -/
theorem sentPrefix_sendAllLoop (progresses : Progresses send drain sent stalls bound)
    {fuel : Nat} {state : σ} {before : List (TxSlot α)} (le : total ≤ batch.length)
    (logged : sent state = before ++ batch.take total)
    (enough : (batch.length - total) * (bound + 1) + stalls state < fuel) :
    SentPrefix sent before batch
      ((sendAllLoop send drain fuel total (takeSlots total batch)).run state) := by
  induction fuel generalizing total state with
  | zero => exact absurd enough (Nat.not_lt_zero _)
  | succ fuel ih =>
    rw [sendAllLoop, length_takeSlots le]
    by_cases more : total < batch.length
    · obtain ⟨result, after, run, few⟩ := progresses.obeys (batch.drop total) state
      obtain ⟨sends, stalled⟩ := progresses.sends run
      rw [List.length_drop] at few
      have counted : sent after = before ++ batch.take (total + acceptedCount result) := by
        rw [sends, logged, List.append_assoc, ← List.take_add]
      simp only [if_pos more, drop_takeSlots, StateT.run_bind, run, Option.bind_eq_bind,
        Option.bind_some, takeSlots_add]
      cases result with
      | error failed =>
        exact ⟨_, after, rfl, Nat.add_le_of_le_sub' le few, counted, by rintro ⟨⟩⟩
      | ok accepted =>
        cases accepted with
        | zero =>
          obtain ⟨drained, next, drains, same⟩ := progresses.drains after
          simp only [StateT.run_bind, drains]
          cases drained with
          | error kind => exact ⟨_, next, rfl, le, same.trans counted, by rintro ⟨⟩⟩
          | ok count =>
            have nonempty : batch.drop total ≠ [] := mt List.drop_eq_nil_iff.mp (by omega)
            have fewer := progresses.recovers nonempty run drains
            refine ih le (same.trans counted) ?_
            change _ + stalls next < fuel
            omega
        | succ accepted =>
          change accepted + 1 ≤ batch.length - total at few
          have fewer : (batch.length - (total + (accepted + 1)) + 1) * (bound + 1) ≤
              (batch.length - total) * (bound + 1) := Nat.mul_le_mul_right _ (by omega)
          have few_stalls : stalls after ≤ bound := stalled (Nat.succ_ne_zero accepted)
          rw [Nat.succ_mul] at fewer
          exact ih (Nat.add_le_of_le_sub' le few) counted (by omega)
    · have all : total = batch.length := Nat.le_antisymm le (Nat.le_of_not_lt more)
      rw [if_neg more]
      exact ⟨.ok total, state, rfl, le, logged, fun _ => all⟩

/-- A send to completion returns.  It has sent the slots that it counts, each of them once
and in order, and has sent all of them unless it failed. -/
theorem sendAll_sends_prefix (progresses : Progresses send drain sent stalls bound)
    (batch : List (TxSlot α)) (state : σ) {fuel : Nat}
    (enough : batch.length * (bound + 1) + stalls state < fuel) :
    SentPrefix sent (sent state) batch ((sendAll send drain fuel batch).run state) :=
  sentPrefix_sendAllLoop progresses (Nat.zero_le _) (List.append_nil _).symm enough

/-- A socket that accepts one slot after each drain, with what it has sent. -/
def sendOne : SendCall (Bool × List (TxSlot Nat)) Nat
  | slot :: rest, (true, log) => some ((.ok 1, .taken :: rest), (false, log ++ [slot]))
  | batch, (_, log) => some ((.ok 0, batch), (false, log))

def drainOne : DrainCall (Bool × List (TxSlot Nat)) :=
  fun state => some (.ok 1, (true, state.2))

theorem progresses_sendOne :
    Progresses sendOne drainOne Prod.snd (fun state => (!state.1).toNat) 1 where
  obeys := by
    rintro (_ | ⟨slot, rest⟩) ⟨_ | _, log⟩ <;> exact ⟨_, _, rfl, by simp [acceptedCount]⟩
  sends {batch state _ _ _} run := by
    rcases batch with _ | ⟨slot, rest⟩ <;> rcases state with ⟨_ | _, log⟩ <;> cases run <;>
      exact ⟨by simp [acceptedCount], fun _ => Nat.le_refl 1⟩
  drains _ := ⟨_, _, rfl, rfl⟩
  recovers {batch state _ _ _ _} nonempty run drain := by
    rcases state with ⟨_ | _, log⟩
    · cases drain
      exact Nat.one_pos
    · rcases batch with _ | ⟨slot, rest⟩
      · exact absurd rfl nonempty
      · cases run

theorem sendAll_sends_prefix_one :
    SentPrefix Prod.snd [] [.ready 1, .ready 2]
      ((sendAll sendOne drainOne 6 [.ready 1, .ready 2]).run (false, [])) :=
  sendAll_sends_prefix progresses_sendOne [.ready 1, .ready 2] (false, []) (by decide)

end FastSocket.Packet
