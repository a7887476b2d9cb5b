import FastSocket.Transition.Simulation
import FastSocket.Xdp.RingQueue

/-!
# The ring functions of a raw socket

A raw socket fills, submits and drains its four rings in batches.  From an empty ring on,
whatever the order of these calls and of the kernel's steps, they return what the
operations of a queue return, and the ring implements the queue.
-/

namespace FastSocket.Xdp

open Spsc Transition

variable {α : Type} {k : Nat} {start : BitVec 32}

/-- A number of descriptors as the ring functions ask for it. -/
def wantedU32 (count : Nat) : BitVec 32 :=
  BitVec.ofNat 32 (min count 0xffffffff)

theorem min_lt_word (count : Nat) : min count 0xffffffff < 2 ^ 32 := by
  omega

/-! ## FILL and TX -/

namespace ProducerRing

/-- Reserves slots for leading entries, writes them and commits. -/
def enqueueBatch (entries : List α) : StateT (ProducerRing α) Option Nat := do
  perform step (.produceMany (wantedU32 entries.length))
  let range := (← get).pending
  if range.isEmpty then
    return 0
  else
    perform step (.copySlice (entries.take range.count.toNat))
    perform step .commit
    return range.count.toNat

def replenishFillBatch (addrs : List α) : StateT (ProducerRing α) Option Nat := do
  perform step .sync
  enqueueBatch addrs

/-- Descriptors are committed right after they are enqueued. -/
def enqueueTxBatch (descs : List α) : StateT (ProducerRing α) Option Nat :=
  enqueueBatch descs

def txAvailable : StateT (ProducerRing α) Option Nat := do
  perform step .sync
  return (← get).cursor.available.toNat

/-- A call on a FILL or TX ring, or consumption by the kernel. -/
inductive Call (α : Type) where
  | replenishFillBatch (addrs : List α)
  | enqueueTxBatch (descs : List α)
  | txAvailable
  | consume (count : Nat)

def call : Call α → StateT (ProducerRing α) Option Nat
  | .replenishFillBatch addrs => replenishFillBatch addrs
  | .enqueueTxBatch descs => enqueueTxBatch descs
  | .txAvailable => txAvailable
  | .consume count => do
    perform step (.consume count)
    return count

/-- The call as an operation of a queue. -/
def queueCall : Call α → StateT (ProducerQueue α) Option Nat
  | .replenishFillBatch addrs => fun queue => some (queue.sync.enqueueBatch addrs)
  | .enqueueTxBatch descs => fun queue => some (queue.enqueueBatch descs)
  | .txAvailable => fun queue => some (queue.sync.available, queue.sync)
  | .consume count => fun queue =>
    if count ≤ queue.entries.length then some (count, queue.consume count) else none

/-- A batch takes the slots that the queue says are free. -/
theorem simulates_enqueueBatch (entries : List α) :
    Simulates (Implements k start · · 0) (enqueueBatch entries)
      fun queue => some (queue.enqueueBatch entries) := by
  intro ring queue implements
  have half := implements.inv.cursor.size.le_half
  have small : queue.capacity < 0xffffffff := by
    rw [implements.capacity]
    omega
  obtain ⟨claimed, taken, held⟩ := implements.produceMany (min_lt_word entries.length)
  rw [queue.produceMany_min small] at held
  have fits := queue.produceMany_snd_le entries.length
  have most := queue.length_take_produceMany entries
  rw [enqueueBatch, wantedU32, run_perform_bind taken, StateT.run_bind, StateT.run_get]
  by_cases full : (queue.produceMany entries.length).2 = 0
  · rw [full] at held
    change SameOutcome _ (StateT.run (if _ then _ else _) claimed) (some (_, _))
    rw [if_pos held.isEmpty, full, List.take_zero, ProducerQueue.publish_nil]
    exact .some ⟨rfl, held⟩
  · have nonempty : claimed.pending.count ≠ 0#32 := fun empty =>
      full (held.pending.symm.trans (congrArg BitVec.toNat empty))
    rw [← most] at held
    obtain ⟨copied, next, copies, commits, published⟩ := held.publish
      (List.ne_nil_of_length_pos (by omega)) (by omega)
    change SameOutcome _ (StateT.run (if _ then _ else _) claimed) _
    rw [if_neg (mt (RingRange.isEmpty_iff _).mp nonempty), held.pending, most,
      run_perform_bind copies, run_perform_bind commits]
    exact .some ⟨rfl, published⟩

theorem simulates_sync_bind {β : Type} {rest : StateT (ProducerRing α) Option β}
    {queueRest : StateT (ProducerQueue α) Option β}
    (rests : Simulates (Implements k start · · 0) rest queueRest) :
    Simulates (Implements k start · · 0)
      (do perform step .sync; rest) fun queue => queueRest.run queue.sync := by
  intro ring queue implements
  obtain ⟨next, taken, synced⟩ := implements.sync
  rw [run_perform_bind taken]
  exact rests next queue.sync synced

/-- Every call on a ring is the operation of the queue. -/
theorem simulates_call (call : Call α) :
    Simulates (Implements k start · · 0) (ProducerRing.call call) (queueCall call) := by
  cases call with
  | replenishFillBatch addrs => exact simulates_sync_bind (simulates_enqueueBatch addrs)
  | enqueueTxBatch descs => exact simulates_enqueueBatch descs
  | txAvailable =>
    refine @simulates_sync_bind _ _ _ _ _ (fun queue => some (queue.available, queue)) ?_
    intro ring queue implements
    exact .some ⟨implements.available, implements⟩
  | consume count =>
    intro ring queue implements
    change SameOutcome _ _ (ite _ _ _)
    by_cases published : count ≤ queue.entries.length
    · obtain ⟨next, taken, consumed⟩ := implements.consume published
      rw [if_pos published, ProducerRing.call, run_perform_bind taken]
      exact .some ⟨rfl, consumed⟩
    · have refused : ring.step (.consume count) = none := by
        apply if_neg
        rw [implements.inv.toNat_published, ← implements.committed, ← implements.consumed,
          ← queue.length_entries]
        exact published
      rw [if_neg published, ProducerRing.call, run_perform_bind_of_none refused]
      exact .none

/-- Whatever is called on an empty FILL or TX ring, and whatever the kernel consumes in
between, the calls return what the operations of an empty queue return, and the ring
implements the queue. -/
theorem calls_refine_queue (k : Nat) (le : k ≤ 31) (start : BitVec 32) (desc : List α)
    (sized : desc.length = 2 ^ k) (calls : List (Call α)) :
    SameOutcome (Implements k start · · 0)
      ((calls.mapM call).run (empty (BitVec.ofNat 32 (2 ^ k)) start desc))
      ((calls.mapM queueCall).run (.empty (2 ^ k))) :=
  Simulates.mapM simulates_call calls _ _ ⟨inv_empty ⟨le, rfl⟩ sized, rfl, rfl, rfl, rfl, rfl⟩

/-- Three descriptors for a ring of two slots whose indexes wrap. -/
def sampleCalls : List (Call Nat) :=
  [.enqueueTxBatch [10, 11, 12], .consume 1, .replenishFillBatch [12, 13], .txAvailable]

theorem calls_refine_queue_sample :
    ((sampleCalls.mapM call).run (empty 2#32 0xffffffff#32 [0, 0])).map Prod.fst =
        some [2, 1, 1, 0] ∧
      SameOutcome (Implements 1 0xffffffff#32 · · 0)
        ((sampleCalls.mapM call).run (empty 2#32 0xffffffff#32 [0, 0]))
        ((sampleCalls.mapM queueCall).run (.empty 2)) :=
  ⟨by decide +kernel, calls_refine_queue 1 (by decide) 0xffffffff#32 [0, 0] rfl sampleCalls⟩

end ProducerRing

/-! ## RX and COMPLETION -/

namespace ConsumerRing

/-- Claims up to `wanted` descriptors, copies them out of the ring and releases their
slots. -/
def drainBatch (wanted : Nat) : StateT (ConsumerRing α) Option (List α) := do
  perform step .sync
  perform step (.consumeMany (wantedU32 wanted))
  let claimed ← get
  if claimed.pending.isEmpty then
    return []
  else
    perform step .copyRing
    let copied ← get
    perform step .release
    return copied.delivered.drop claimed.delivered.length

/-- The output limits what is drained by its spare capacity. -/
def drainRx (spare max : Nat) : StateT (ConsumerRing α) Option (List α) :=
  drainBatch (min max spare)

def drainCompletion (spare : Nat) : StateT (ConsumerRing α) Option (List α) :=
  drainBatch spare

/-- A call on an RX or COMPLETION ring, or a descriptor of the kernel. -/
inductive Call (α : Type) where
  | drainRx (spare max : Nat)
  | drainCompletion (spare : Nat)
  | publish (entry : α)

def call : Call α → StateT (ConsumerRing α) Option (List α)
  | .drainRx spare max => drainRx spare max
  | .drainCompletion spare => drainCompletion spare
  | .publish entry => do
    perform step (.write entry)
    perform step .publish
    return []

/-- The call as an operation of a queue. -/
def queueCall : Call α → StateT (ConsumerQueue α) Option (List α)
  | .drainRx spare max => fun queue => some (queue.sync.consumeMany (min max spare)).swap
  | .drainCompletion spare => fun queue => some (queue.sync.consumeMany spare).swap
  | .publish entry => fun queue => (queue.publish entry).map (Prod.mk [])

/-- A drain takes what the refreshed queue holds. -/
theorem simulates_drainBatch (wanted : Nat) :
    Simulates (Implements k start · · 0) (drainBatch wanted)
      fun queue : ConsumerQueue α => some (queue.sync.consumeMany wanted).swap := by
  intro ring queue implements
  have half := implements.inv.size.le_half
  have small : queue.capacity < 0xffffffff := by
    rw [implements.capacity]
    omega
  obtain ⟨synced, syncs, fresh, _⟩ := implements.sync
  obtain ⟨claimed, claims, held, unread⟩ := fresh.consumeMany (min_lt_word wanted)
  rw [queue.sync.consumeMany_min small] at held
  rw [drainBatch, wantedU32, run_perform_bind syncs, run_perform_bind claims, StateT.run_bind,
    StateT.run_get]
  change SameOutcome _ (StateT.run (if _ then _ else _) claimed)
    (some (queue.sync.consumeMany wanted).swap)
  by_cases none : (queue.sync.consumeMany wanted).2 = []
  · rw [none] at held
    rw [if_pos held.isEmpty]
    exact .some ⟨none.symm, held⟩
  · have nonempty : claimed.pending.count ≠ 0#32 := fun empty =>
      none (List.length_eq_zero_iff.mp (held.pending.symm.trans (congrArg BitVec.toNat empty)))
    obtain ⟨copied, next, copies, releases, drained, delivered⟩ := held.drain nonempty
    rw [if_neg (mt (RingRange.isEmpty_iff _).mp nonempty), run_perform_bind copies,
      StateT.run_bind, StateT.run_get, pure_bind, run_perform_bind releases]
    refine .some ⟨?_, drained⟩
    change copied.delivered.drop claimed.delivered.length = (queue.sync.consumeMany wanted).2
    have append := queue.sync.consumeMany_append wanted
    rw [delivered, List.drop_left, ConsumerQueue.published_consumeMany, unread,
      fresh.length_delivered]
    change (queue.sync.entries.take _) = _
    rw [← append, List.take_left]

/-- Every call on a ring is the operation of the queue. -/
theorem simulates_call (call : Call α) :
    Simulates (Implements k start · · 0) (ConsumerRing.call call) (queueCall call) := by
  cases call with
  | drainRx spare max => exact simulates_drainBatch (min max spare)
  | drainCompletion spare => exact simulates_drainBatch spare
  | publish entry =>
    intro ring queue implements
    change SameOutcome _ _ ((queue.publish entry).map _)
    cases published : queue.publish entry with
    | some target =>
      obtain ⟨written, next, writes, publishes, holds⟩ := implements.publish published
      rw [ConsumerRing.call, run_perform_bind writes, run_perform_bind publishes]
      exact .some ⟨rfl, holds⟩
    | none =>
      have full : ¬ queue.published.length < queue.taken + queue.capacity := by
        intro free
        rw [ConsumerQueue.publish, dif_pos free] at published
        cases published
      have refused : ring.step (.write entry) = none := if_neg (mt implements.room_iff.mp full)
      rw [ConsumerRing.call, run_perform_bind_of_none refused]
      exact .none

/-- Whatever is called on an empty RX or COMPLETION ring, and whatever the kernel publishes
in between, the calls drain what the operations of an empty queue take, and the ring
implements the queue. -/
theorem drains_refine_queue (k : Nat) (le : k ≤ 31) (start : BitVec 32) (desc : List α)
    (sized : desc.length = 2 ^ k) (calls : List (Call α)) :
    SameOutcome (Implements k start · · 0)
      ((calls.mapM call).run (empty (BitVec.ofNat 32 (2 ^ k)) start desc))
      ((calls.mapM queueCall).run (.empty (2 ^ k))) :=
  Simulates.mapM simulates_call calls _ _ ⟨inv_empty ⟨le, rfl⟩ sized, rfl, rfl, rfl, rfl, rfl⟩

/-- Three descriptors through a ring of two slots whose indexes wrap. -/
def sampleCalls : List (Call Nat) :=
  [.publish 10, .publish 11, .drainRx 8 1, .publish 12, .drainCompletion 8]

theorem drains_refine_queue_sample :
    ((sampleCalls.mapM call).run (empty 2#32 0xffffffff#32 [0, 0])).map Prod.fst =
        some [[], [], [10], [], [11, 12]] ∧
      SameOutcome (Implements 1 0xffffffff#32 · · 0)
        ((sampleCalls.mapM call).run (empty 2#32 0xffffffff#32 [0, 0]))
        ((sampleCalls.mapM queueCall).run (.empty 2)) :=
  ⟨by decide +kernel, drains_refine_queue 1 (by decide) 0xffffffff#32 [0, 0] rfl sampleCalls⟩

end ConsumerRing

end FastSocket.Xdp
