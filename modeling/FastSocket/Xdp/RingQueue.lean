import FastSocket.Spsc.Queue
import FastSocket.Xdp.ConsumerRing

/-!
# Rings implement queues

Between two calls no reservation is open on a ring.  In such a state a ring with
wrapping indexes and reused slots implements a queue, and the ring calls of the
socket change it as the queue operations say.
-/

namespace FastSocket.Xdp

open Spsc Transition

universe u

variable {α : Type u} {k : Nat} {start : BitVec 32}

theorem toNat_minU32 (first second : BitVec 32) :
    (minU32 first second).toNat = min first.toNat second.toNat := by
  rw [minU32]
  split
  case isTrue le => exact (Nat.min_eq_left (BitVec.le_def.mp le)).symm
  case isFalse greater =>
    exact (Nat.min_eq_right (Nat.le_of_lt (BitVec.lt_def.mp (BitVec.not_le.mp greater)))).symm

variable {count wanted : Nat}

theorem toNat_ofNat_of_lt (word : count < 2 ^ 32) : (BitVec.ofNat 32 count).toNat = count := by
  rw [BitVec.toNat_ofNat, Nat.mod_eq_of_lt word]

theorem ofNat_eq_zero_iff (word : count < 2 ^ 32) : BitVec.ofNat 32 count = 0#32 ↔ count = 0 := by
  rw [← BitVec.toNat_inj, toNat_ofNat_of_lt word]
  rfl

/-! ## FILL and TX -/

namespace ProducerRing

/-- A FILL or TX ring implements a queue, with `reserved` slots claimed and not yet
written.  Between two calls no slot is claimed. -/
structure Implements (k : Nat) (start : BitVec 32) (ring : ProducerRing α)
    (queue : ProducerQueue α) (reserved : Nat) : Prop where
  inv : ring.Inv k start queue.seen
  pending : ring.pending.count.toNat = reserved
  unstaged : ring.staged = []
  capacity : queue.capacity = 2 ^ k
  committed : queue.committed = ring.committed
  consumed : queue.consumed = ring.consumed.length

namespace Implements

variable {ring : ProducerRing α} {queue : ProducerQueue α} {reserved : Nat}

theorem length_written (implements : ring.Implements k start queue reserved) :
    ring.committed.length + ring.staged.length = queue.committed.length := by
  rw [implements.unstaged, implements.committed, List.length_nil, Nat.add_zero]

/-- Consumption by the kernel. -/
theorem consume (implements : ring.Implements k start queue reserved)
    (published : count ≤ queue.entries.length) :
    ∃ next, ring.step (.consume count) = some next ∧
      next.Implements k start (queue.consume count) reserved := by
  have length : queue.entries.length = ring.committed.length - ring.consumed.length := by
    rw [queue.length_entries, implements.committed, implements.consumed]
  have fits : count ≤ (ring.producer - ring.consumer).toNat := by
    rw [implements.inv.toNat_published]
    omega
  have consumed_le := implements.inv.consumed_le
  refine ⟨_, if_pos fits, implements.inv.consume fits, implements.pending, implements.unstaged,
    implements.capacity, implements.committed, ?_⟩
  change queue.consumed + min count queue.entries.length = (_ ++ _ : List α).length
  rw [implements.inv.ringEntries_eq (by omega), List.length_append, List.length_take,
    List.length_drop, Nat.min_eq_left published, implements.consumed]
  omega

/-- Descriptors copied into the claimed slots and committed are published. -/
theorem publish {entries : List α} (implements : ring.Implements k start queue entries.length)
    (nonempty : entries ≠ []) (fits : entries.length ≤ queue.available) :
    ∃ copied next, ring.step (.copySlice entries) = some copied ∧
      copied.step .commit = some next ∧ next.Implements k start (queue.publish entries) 0 := by
  have claimed : ¬ ring.pending.isEmpty := by
    rw [RingRange.isEmpty_iff]
    intro none
    have length := implements.pending
    rw [none] at length
    exact nonempty (List.length_eq_zero_iff.mp length.symm)
  have copied : ring.step (.copySlice entries) = some
      { ring with
        desc := storeFrom start.toNat ring.desc (ring.committed.length + ring.staged.length) entries
        pending := .default
        staged := ring.staged ++ entries } := by
    rw [step, if_pos ⟨implements.pending.symm, claimed⟩,
      implements.inv.pendingStart fun none => claimed ((RingRange.isEmpty_iff _).mpr none),
      implements.inv.cursor.size.copySliceToRing_eq implements.inv.sized]
  have committed := (implements.inv.stage entries implements.pending.symm).commit rfl
  refine ⟨_, _, copied, rfl, committed, rfl, rfl, implements.capacity, ?_, implements.consumed⟩
  rw [queue.committed_publish fits, implements.committed, implements.unstaged, List.nil_append]

section Idle

variable (implements : ring.Implements k start queue 0)

include implements

theorem isEmpty : ring.pending.isEmpty :=
  (RingRange.isEmpty_iff _).mpr (BitVec.eq_of_toNat_eq implements.pending)

theorem cursorAt : ProducerAt k start ring.cursor queue.committed.length queue.seen := by
  have cursor := implements.inv.cursor
  rw [implements.length_written, implements.pending] at cursor
  exact cursor

/-- The cursor counts the free slots of the queue. -/
theorem available : ring.cursor.available.toNat = queue.available := by
  rw [implements.cursorAt.toNat_available, ProducerQueue.available, implements.capacity]

theorem sync : ∃ next, ring.step .sync = some next ∧ next.Implements k start queue.sync 0 := by
  have inv := implements.inv
  have synced := implements.cursorAt.sync queue.seen_le queue.consumed_le
  rw [implements.consumed, ← inv.consumer, ← implements.length_written] at synced
  refine ⟨_, rfl, ⟨?_, inv.producer, inv.consumer, inv.pendingStart, inv.sized, ?_,
    inv.consumed_le, inv.window, inv.read⟩, implements.pending, implements.unstaged,
    implements.capacity, implements.committed, implements.consumed⟩
  · change ProducerAt k start _ (_ + ring.pending.count.toNat) queue.consumed
    rw [implements.pending, implements.consumed]
    exact synced
  · exact Nat.le_of_eq implements.consumed

theorem advance (word : wanted < 2 ^ 32) :
    (minU32 (BitVec.ofNat 32 wanted) ring.cursor.available).toNat = min wanted queue.available ∧
      ProducerAt k start
        (ring.cursor.advance (minU32 (BitVec.ofNat 32 wanted) ring.cursor.available))
        (queue.committed.length + min wanted queue.available) queue.seen := by
  have count : (minU32 (BitVec.ofNat 32 wanted) ring.cursor.available).toNat =
      min wanted queue.available := by
    rw [toNat_minU32, implements.available, toNat_ofNat_of_lt word]
  constructor
  · exact count
  · rw [← count]
    exact implements.cursorAt.advance _ (minU32_le_right _ _)

/-- The cursor of a reservation that counts slots as the queue does. -/
theorem cursor_produceMany (word : wanted < 2 ^ 32) :
    (ring.cursor.produceMany ring.consumer (BitVec.ofNat 32 wanted)).2.count.toNat =
        (queue.produceMany wanted).2 ∧
      ProducerAt k start (ring.cursor.produceMany ring.consumer (BitVec.ofNat 32 wanted)).1
        (queue.committed.length + (queue.produceMany wanted).2)
        (queue.produceMany wanted).1.seen := by
  have short_iff : ring.cursor.available < BitVec.ofNat 32 wanted ↔ queue.available < wanted := by
    rw [BitVec.lt_def, implements.available, toNat_ofNat_of_lt word]
  rw [RingProducer.produceMany, ProducerQueue.produceMany]
  by_cases none : wanted = 0
  · rw [if_pos ((ofNat_eq_zero_iff word).mpr none), if_pos none]
    exact ⟨rfl, implements.cursorAt⟩
  · rw [if_neg (mt (ofNat_eq_zero_iff word).mp none), if_neg none]
    by_cases short : queue.available < wanted
    · simp only [if_pos short, if_pos (short_iff.mpr short)]
      obtain ⟨next, taken, synced⟩ := implements.sync
      cases taken
      exact synced.advance word
    · simp only [if_neg short, if_neg (mt short_iff.mp short)]
      exact implements.advance word

/-- A reservation claims the slots that the queue says are free. -/
theorem produceMany (word : wanted < 2 ^ 32) :
    ∃ next, ring.step (.produceMany (BitVec.ofNat 32 wanted)) = some next ∧
      next.Implements k start (queue.produceMany wanted).1 (queue.produceMany wanted).2 := by
  obtain ⟨count, cursor⟩ := implements.cursor_produceMany word
  obtain ⟨_, _, _, _, rangeStart, _⟩ := implements.cursorAt.produceMany queue.seen_le
    queue.consumed_le (BitVec.ofNat 32 wanted)
  rw [implements.consumed, ← implements.inv.consumer] at rangeStart
  rw [← implements.length_written] at rangeStart cursor
  rw [← count] at cursor
  have known_le := (queue.produceMany wanted).1.seen_le
  rw [queue.consumed_produceMany, implements.consumed] at known_le
  exact ⟨_, if_pos implements.isEmpty, implements.inv.reserve known_le cursor rangeStart, count,
    implements.unstaged, (queue.capacity_produceMany wanted).trans implements.capacity,
    (queue.committed_produceMany wanted).trans implements.committed,
    (queue.consumed_produceMany wanted).trans implements.consumed⟩

end Idle

end Implements

end ProducerRing

/-! ## RX and COMPLETION -/

namespace ConsumerRing

/-- An RX or COMPLETION ring implements a queue, with `claimed` descriptors taken from
the queue and not yet read.  Between two calls none is claimed. -/
structure Implements (k : Nat) (start : BitVec 32) (ring : ConsumerRing α)
    (queue : ConsumerQueue α) (claimed : Nat) : Prop where
  inv : ring.Inv k start queue.known ring.delivered.length
  pending : ring.pending.count.toNat = claimed
  unwritten : ring.written = []
  capacity : queue.capacity = 2 ^ k
  published : queue.published = ring.published
  taken : queue.taken = ring.delivered.length + claimed

namespace Implements

variable {ring : ConsumerRing α} {queue : ConsumerQueue α} {claimed : Nat}

/-- Reading what is claimed and releasing its slots. -/
theorem drain (implements : ring.Implements k start queue claimed)
    (nonempty : ring.pending.count ≠ 0#32) :
    ∃ copied next, ring.step .copyRing = some copied ∧ copied.step .release = some next ∧
      next.Implements k start queue 0 ∧
      copied.delivered = ring.delivered ++
        (queue.published.drop ring.delivered.length).take claimed := by
  have inv := implements.inv
  have range : ring.pending = { start := Spsc.cursorAt start ring.delivered.length,
                                count := ring.pending.count } := by
    rw [← inv.pendingStart nonempty]
  have copied : copyRingToVec ring.desc ring.size ring.pending ring.delivered =
      ring.delivered ++ (ring.published.drop ring.delivered.length).take claimed := by
    conv_lhs => rw [range, inv.size.copyRingToVec_eq inv.sized]
    rw [inv.readFrom_eq inv.taken_le, implements.pending]
  have released := inv.deliver.release rfl
  rw [inv.readFrom_eq inv.taken_le, implements.pending] at released
  have taken_le := queue.taken_le.trans queue.known_le
  rw [implements.taken, implements.published] at taken_le
  rw [implements.published]
  refine ⟨_, _, rfl, rfl, ?_, copied⟩
  rw [copied]
  refine ⟨released, rfl, implements.unwritten, implements.capacity, implements.published, ?_⟩
  change queue.taken = (_ ++ _ : List α).length + 0
  rw [List.length_append, List.length_take, List.length_drop, implements.taken]
  omega

variable (implements : ring.Implements k start queue 0)

include implements

theorem length_delivered :
    ring.delivered.length = queue.taken :=
  implements.taken.symm

theorem isEmpty : ring.pending.isEmpty :=
  (RingRange.isEmpty_iff _).mpr (BitVec.eq_of_toNat_eq implements.pending)

theorem cursorAt : ConsumerAt k start ring.cursor queue.taken queue.known := by
  have cursor := implements.inv.cursor
  rw [implements.pending] at cursor
  rw [implements.taken]
  exact cursor

/-- The cursor counts the entries that the queue knows of. -/
theorem available : ring.cursor.available.toNat = queue.available :=
  implements.cursorAt.toNat_available

theorem sync :
    ∃ next, ring.step .sync = some next ∧ next.Implements k start queue.sync 0 ∧
      next.delivered = ring.delivered := by
  have inv := implements.inv
  have near := inv.published_near
  have synced := inv.cursor.sync inv.known_le near
  rw [← inv.producer, ← implements.published] at synced
  exact ⟨_, rfl, ⟨⟨inv.size, synced, inv.producer, inv.consumer, inv.pendingStart, inv.sized,
    inv.released_le, Nat.le_of_eq (congrArg List.length implements.published), inv.room,
    inv.window, inv.read⟩, implements.pending, implements.unwritten, implements.capacity,
    implements.published, implements.taken⟩, rfl⟩

/-- The kernel writes a descriptor exactly when the queue has a free slot. -/
theorem room_iff :
    (ring.producer - ring.consumer).toNat + ring.written.length < ring.size.toNat ↔
      queue.published.length < queue.taken + queue.capacity := by
  have taken_le := Nat.le_trans queue.taken_le queue.known_le
  rw [implements.inv.toNat_ahead, implements.unwritten, implements.inv.size.toNat_eq,
    List.length_nil, implements.length_delivered, ← implements.published, ← implements.capacity]
  omega

/-- The kernel writes and publishes one descriptor. -/
theorem publish {entry : α} {target : ConsumerQueue α}
    (published : queue.publish entry = some target) :
    ∃ written next, ring.step (.write entry) = some written ∧
      written.step .publish = some next ∧ next.Implements k start target 0 := by
  rw [ConsumerQueue.publish] at published
  split at published
  case isFalse => cases published
  case isTrue free =>
    cases published
    have room := implements.room_iff.mpr free
    have inv := (implements.inv.write entry room).publish
    refine ⟨_, _, if_pos room, rfl, inv, implements.pending, rfl, implements.capacity, ?_,
      implements.taken⟩
    change queue.published ++ [entry] = ring.published ++ (ring.written ++ [entry])
    rw [implements.published, implements.unwritten, List.nil_append]

/-- Claiming known descriptors. -/
theorem advance (word : wanted < 2 ^ 32) :
    ({ ring with
        cursor := ring.cursor.advance (minU32 (BitVec.ofNat 32 wanted) ring.cursor.available)
        pending := { start := ring.cursor.cachedConsumer,
                     count := minU32 (BitVec.ofNat 32 wanted) ring.cursor.available } } :
        ConsumerRing α).Implements k start (queue.advance wanted).1
      (queue.advance wanted).2.length := by
  have count : (minU32 (BitVec.ofNat 32 wanted) ring.cursor.available).toNat =
      min wanted queue.available := by
    rw [toNat_minU32, implements.available, toNat_ofNat_of_lt word]
  have cursor := implements.cursorAt.advance
    (minU32 (BitVec.ofNat 32 wanted) ring.cursor.available) (minU32_le_right _ _)
  have rangeStart := implements.cursorAt.consumer
  have taken := queue.taken_advance wanted
  rw [← implements.length_delivered] at cursor rangeStart taken
  refine ⟨implements.inv.reserve implements.inv.known_le cursor fun _ => rangeStart, ?_,
    implements.unwritten, implements.capacity, implements.published, taken⟩
  have le := queue.available_le
  rw [count, ConsumerQueue.advance, List.length_take]
  omega

/-- A reservation claims the entries that the queue takes. -/
theorem consumeMany (word : wanted < 2 ^ 32) :
    ∃ next, ring.step (.consumeMany (BitVec.ofNat 32 wanted)) = some next ∧
      next.Implements k start (queue.consumeMany wanted).1 (queue.consumeMany wanted).2.length ∧
      next.delivered = ring.delivered := by
  have short_iff : ring.cursor.available < BitVec.ofNat 32 wanted ↔ queue.available < wanted := by
    rw [BitVec.lt_def, implements.available, toNat_ofNat_of_lt word]
  refine ⟨_, if_pos implements.isEmpty, ?_, rfl⟩
  rw [RingConsumer.consumeMany, ConsumerQueue.consumeMany]
  by_cases none : wanted = 0
  · rw [if_pos ((ofNat_eq_zero_iff word).mpr none), if_pos none]
    have cursor := implements.cursorAt
    rw [← implements.length_delivered] at cursor
    exact ⟨implements.inv.reserve implements.inv.known_le cursor fun some => absurd rfl some,
      rfl, implements.unwritten, implements.capacity, implements.published, implements.taken⟩
  · rw [if_neg (mt (ofNat_eq_zero_iff word).mp none), if_neg none]
    by_cases short : queue.available < wanted
    · simp only [if_pos short, if_pos (short_iff.mpr short)]
      obtain ⟨next, taken, synced, _⟩ := implements.sync
      cases taken
      exact synced.advance word
    · simp only [if_neg short, if_neg (mt short_iff.mp short)]
      exact implements.advance word

end Implements

end ConsumerRing

end FastSocket.Xdp
