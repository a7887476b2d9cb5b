import FastSocket.Xdp.ProducerRing

/-!
# The user consumer against the kernel producer

The RX and COMPLETION rings.  The kernel writes descriptors and publishes them;
the user reserves published indexes, reads their descriptors and releases them.
The kernel is never more than a ring ahead of the released index, so that the
slots of unread descriptors keep their contents.
-/

namespace FastSocket.Xdp

open Spsc Transition

universe u

variable {α : Type u} {k : Nat} {start : BitVec 32}

/-- An RX or COMPLETION ring with both sides.  `pending` is the range that is
reserved and not yet read.  The last three fields record the descriptors that the
kernel has written and not published, all published ones, and those the user has
read. -/
structure ConsumerRing (α : Type u) where
  cursor : RingConsumer
  size : BitVec 32
  producer : BitVec 32
  consumer : BitVec 32
  desc : List α
  pending : RingRange
  written : List α
  published : List α
  delivered : List α

/-- A step of the user consumer or of the producer. -/
inductive ConsumerAction (α : Type u) where
  | sync
  | consume
  | consumeMany (wanted : BitVec 32)
  | read
  | copyRing
  | release
  | write (entry : α)
  | publish

namespace ConsumerRing

/-- An empty ring whose indexes both start at `start`. -/
def empty (size start : BitVec 32) (desc : List α) : ConsumerRing α :=
  { cursor := { cachedProducer := start, cachedConsumer := start }
    size := size
    producer := start
    consumer := start
    desc := desc
    pending := .default
    written := []
    published := []
    delivered := [] }

/-- The next range is reserved once the last one is read, and a release follows
the reads.  The producer never writes more than a ring beyond the released
index. -/
def step (ring : ConsumerRing α) : ConsumerAction α → Option (ConsumerRing α)
  | .sync => some { ring with cursor := ring.cursor.sync ring.producer }
  | .consume =>
    if ring.pending.isEmpty then
      let reserved := ring.cursor.consume ring.producer
      some { ring with
        cursor := reserved.1
        pending := reserved.2.elim .default fun index => { start := index, count := 1#32 } }
    else
      none
  | .consumeMany wanted =>
    if ring.pending.isEmpty then
      let reserved := ring.cursor.consumeMany ring.producer wanted
      some { ring with cursor := reserved.1, pending := reserved.2 }
    else
      none
  | .read =>
    if ring.pending.count = 1#32 then
      some { ring with
        pending := .default
        delivered := ring.delivered ++
          (ring.desc[ringIndex ring.size ring.pending.start]?).toList }
    else
      none
  | .copyRing =>
    some { ring with
      pending := .default
      delivered := copyRingToVec ring.desc ring.size ring.pending ring.delivered }
  | .release =>
    if ring.pending.isEmpty then some { ring with consumer := ring.cursor.release } else none
  | .write entry =>
    if (ring.producer - ring.consumer).toNat + ring.written.length < ring.size.toNat then
      some { ring with
        desc := ring.desc.set
          (ringIndex ring.size (ring.producer + BitVec.ofNat 32 ring.written.length)) entry
        written := ring.written ++ [entry] }
    else
      none
  | .publish =>
    some { ring with
      producer := ring.producer + BitVec.ofNat 32 ring.written.length
      written := []
      published := ring.published ++ ring.written }

/-- The descriptors from the released index on are in the window of the ring. -/
structure Inv (k : Nat) (start : BitVec 32) (ring : ConsumerRing α) (known released : Nat) :
    Prop where
  size : RingSize k ring.size
  cursor : ConsumerAt k start ring.cursor (ring.delivered.length + ring.pending.count.toNat) known
  producer : ring.producer = cursorAt start ring.published.length
  consumer : ring.consumer = cursorAt start released
  pendingStart : ring.pending.count ≠ 0#32 →
    ring.pending.start = cursorAt start ring.delivered.length
  sized : ring.desc.length = 2 ^ k
  released_le : released ≤ ring.delivered.length
  known_le : known ≤ ring.published.length
  room : ring.published.length + ring.written.length ≤ released + 2 ^ k
  window : Window start.toNat ring.desc (ring.published ++ ring.written) released
  read : ring.delivered = ring.published.take ring.delivered.length

variable {size : BitVec 32} {desc : List α}

theorem inv_empty (valid : RingSize k size) (sized : desc.length = 2 ^ k) :
    (empty size start desc).Inv k start 0 0 := by
  refine ⟨valid, ⟨valid.le, (cursorAt_zero start).symm, (cursorAt_zero start).symm, le_refl 0,
    Nat.zero_le _⟩, (cursorAt_zero start).symm, (cursorAt_zero start).symm,
    fun some => absurd rfl some, sized, le_refl 0, le_refl 0, Nat.zero_le _,
    window_of_length_le (le_refl 0), rfl⟩

variable {ring next : ConsumerRing α} {known released : Nat}

namespace Inv

variable (inv : ring.Inv k start known released)

include inv

theorem taken_le :
    ring.delivered.length + ring.pending.count.toNat ≤ ring.published.length :=
  Nat.le_trans inv.cursor.le inv.known_le

theorem published_near :
    ring.published.length ≤ ring.delivered.length + ring.pending.count.toNat + 2 ^ k := by
  have room := inv.room
  have released_le := inv.released_le
  omega

/-- Reserving the next range. -/
theorem reserve {cursor : RingConsumer}
    {range : RingRange} {seen : Nat} (seen_le : seen ≤ ring.published.length)
    (reserved : ConsumerAt k start cursor (ring.delivered.length + range.count.toNat) seen)
    (rangeStart : range.count ≠ 0#32 → range.start = cursorAt start ring.delivered.length) :
    ({ ring with cursor := cursor, pending := range } : ConsumerRing α).Inv k start seen released :=
  ⟨inv.size, reserved, inv.producer, inv.consumer, rangeStart, inv.sized, inv.released_le, seen_le,
    inv.room, inv.window, inv.read⟩

/-- Entries of the window below the published index are published descriptors. -/
theorem readFrom_eq {count : Nat}
    (published : ring.delivered.length + count ≤ ring.published.length) :
    readFrom start.toNat ring.desc ring.delivered.length count =
      (ring.published.drop ring.delivered.length).take count := by
  rw [inv.window.readFrom inv.released_le (by rw [List.length_append]; omega),
    List.drop_append_of_le_length (by omega),
    List.take_append_of_le_length (by rw [List.length_drop]; omega)]

/-- Reading the reserved range delivers the next published descriptors. -/
theorem deliver :
    ({ ring with
      pending := .default
      delivered := ring.delivered ++ readFrom start.toNat ring.desc ring.delivered.length
        ring.pending.count.toNat } : ConsumerRing α).Inv k start known released := by
  have taken_le := inv.taken_le
  rw [inv.readFrom_eq taken_le]
  have length : (ring.delivered ++ (ring.published.drop ring.delivered.length).take
      ring.pending.count.toNat).length = ring.delivered.length + ring.pending.count.toNat := by
    rw [List.length_append, List.length_take, List.length_drop]
    omega
  refine ⟨inv.size, ?_, inv.producer, inv.consumer, fun some => absurd rfl some, inv.sized, ?_,
    inv.known_le, inv.room, inv.window, ?_⟩
  · change ConsumerAt k start ring.cursor (List.length _ + 0) known
    rw [length]
    exact inv.cursor
  · rw [length]
    exact Nat.le_add_right_of_le inv.released_le
  · rw [length, List.take_add, ← inv.read]

theorem release (read : ring.pending.isEmpty) :
    ({ ring with consumer := ring.cursor.release } : ConsumerRing α).Inv k start known
      ring.delivered.length := by
  have consumer := inv.cursor.consumer
  have room : ring.published.length + ring.written.length ≤ ring.delivered.length + 2 ^ k :=
    Nat.le_trans inv.room (Nat.add_le_add_right inv.released_le _)
  rw [(RingRange.isEmpty_iff _).mp read, BitVec.toNat_zero, Nat.add_zero] at consumer
  exact ⟨inv.size, inv.cursor, inv.producer, consumer, inv.pendingStart, inv.sized, le_refl _,
    inv.known_le, room, inv.window.mono inv.released_le, inv.read⟩

/-- How far the producer is ahead of an index from the released one on. -/
theorem toNat_sub_cursorAt {index : Nat} (from_ : released ≤ index)
    (le : index ≤ ring.published.length) :
    (ring.producer - cursorAt start index).toNat = ring.published.length - index := by
  have half := inv.size.le_half
  have room := inv.room
  rw [inv.producer, toNat_cursorAt_sub start le (by omega)]

theorem toNat_ahead :
    (ring.producer - ring.consumer).toNat = ring.published.length - released := by
  rw [inv.consumer, inv.toNat_sub_cursorAt (le_refl _)
    (inv.released_le.trans (Nat.le_of_add_right_le inv.taken_le))]

theorem write (entry : α)
    (free : (ring.producer - ring.consumer).toNat + ring.written.length < ring.size.toNat) :
    ({ ring with
      desc := ring.desc.set
        (ringIndex ring.size (ring.producer + BitVec.ofNat 32 ring.written.length)) entry
      written := ring.written ++ [entry] } : ConsumerRing α).Inv k start known released := by
  have taken_le := inv.taken_le
  have released_le := inv.released_le
  have history : (ring.published ++ ring.written).length =
      ring.published.length + ring.written.length := List.length_append
  rw [inv.toNat_ahead, inv.size.toNat_eq] at free
  have position : ringIndex ring.size (ring.producer + BitVec.ofNat 32 ring.written.length) =
      slot start.toNat (2 ^ k) (ring.published.length + ring.written.length) := by
    rw [inv.producer, cursorAt_add, inv.size.ringIndex_cursorAt]
  rw [position]
  refine ⟨inv.size, inv.cursor, inv.producer, inv.consumer, inv.pendingStart, ?_, released_le,
    inv.known_le, ?_, ?_, inv.read⟩
  · rw [List.length_set, inv.sized]
  · rw [List.length_append, List.length_singleton]
    change ring.published.length + _ ≤ _
    omega
  · have stored := inv.window.store (by omega) (by rw [inv.sized]; omega) entry
    rw [history, inv.sized, List.append_assoc] at stored
    exact stored

theorem publish :
    ({ ring with
      producer := ring.producer + BitVec.ofNat 32 ring.written.length
      written := []
      published := ring.published ++ ring.written } : ConsumerRing α).Inv k start known
        released := by
  have taken_le := inv.taken_le
  refine ⟨inv.size, inv.cursor, ?_, inv.consumer, inv.pendingStart, inv.sized, inv.released_le,
    ?_, ?_, ?_, ?_⟩
  · rw [inv.producer, cursorAt_add, List.length_append]
  · rw [List.length_append]
    exact Nat.le_add_right_of_le inv.known_le
  · rw [List.length_append]
    exact inv.room
  · rw [List.append_nil]
    exact inv.window
  · rw [List.take_append_of_le_length (Nat.le_of_add_right_le taken_le)]
    exact inv.read

end Inv

/-- Every step preserves the invariant. -/
theorem Inv.step (inv : ring.Inv k start known released) {action : ConsumerAction α}
    (taken : ring.step action = some next) : ∃ seen freed, next.Inv k start seen freed := by
  have near := inv.published_near
  cases action with
  | sync =>
    cases taken
    have synced := inv.cursor.sync inv.known_le near
    rw [← inv.producer] at synced
    exact ⟨_, released, inv.size, synced, inv.producer, inv.consumer, inv.pendingStart, inv.sized,
      inv.released_le, le_refl _, inv.room, inv.window, inv.read⟩
  | consume =>
    obtain ⟨read, ⟨⟩⟩ := Option.ite_none_right_eq_some.mp taken
    have cursor := inv.cursor
    rw [(RingRange.isEmpty_iff _).mp read, BitVec.toNat_zero, Nat.add_zero] at cursor near
    obtain ⟨seen, _, seen_le, result⟩ := cursor.consume inv.known_le near
    rw [← inv.producer] at result
    refine ⟨seen, released, ?_⟩
    rcases result with ⟨drained, _, cursor⟩ | ⟨index, cursor⟩
    · rw [drained]
      exact inv.reserve seen_le cursor fun some => absurd rfl some
    · rw [index]
      exact inv.reserve seen_le cursor fun _ => rfl
  | consumeMany wanted =>
    obtain ⟨read, ⟨⟩⟩ := Option.ite_none_right_eq_some.mp taken
    have cursor := inv.cursor
    rw [(RingRange.isEmpty_iff _).mp read, BitVec.toNat_zero, Nat.add_zero] at cursor near
    obtain ⟨seen, _, seen_le, _, rangeStart, cursor⟩ :=
      cursor.consumeMany inv.known_le near wanted
    rw [← inv.producer] at rangeStart cursor
    exact ⟨seen, released, inv.reserve seen_le cursor rangeStart⟩
  | read =>
    obtain ⟨single, ⟨⟩⟩ := Option.ite_none_right_eq_some.mp taken
    have delivered := inv.deliver
    have pendingStart := inv.pendingStart (by rw [single]; decide)
    rw [single] at delivered
    rw [pendingStart, inv.size.ringIndex_cursorAt, ← inv.sized]
    rw [show (1#32).toNat = 0 + 1 from rfl, readFrom, readFrom, List.append_nil] at delivered
    exact ⟨known, released, delivered⟩
  | copyRing =>
    cases taken
    have delivered := inv.deliver
    by_cases none : ring.pending.count = 0#32
    · rw [none, BitVec.toNat_zero, readFrom, List.append_nil] at delivered
      rw [copyRingToVec, none, BitVec.toNat_zero, copyRingLoop]
      exact ⟨known, released, delivered⟩
    · have range : ring.pending = { start := cursorAt start ring.delivered.length,
                                    count := ring.pending.count } := by
        rw [← inv.pendingStart none]
      rw [range, inv.size.copyRingToVec_eq inv.sized]
      exact ⟨known, released, delivered⟩
  | release =>
    obtain ⟨read, ⟨⟩⟩ := Option.ite_none_right_eq_some.mp taken
    exact ⟨known, _, inv.release read⟩
  | write entry =>
    obtain ⟨free, ⟨⟩⟩ := Option.ite_none_right_eq_some.mp taken
    exact ⟨known, released, inv.write entry free⟩
  | publish =>
    cases taken
    exact ⟨known, released, inv.publish⟩

/-- The ring index of the first descriptor that is not yet read. -/
def unread (ring : ConsumerRing α) : BitVec 32 :=
  ring.cursor.cachedConsumer - ring.pending.count

/-- What holds of an RX or COMPLETION ring at any time: the descriptors to consume
are counted within the ring size, the reserved ones are published, the slot of the
next write holds no unread descriptor, and the descriptors read so far followed by
the unread ones in the ring are the published ones. -/
structure Correct (ring : ConsumerRing α) : Prop where
  available_le : ring.cursor.available ≤ ring.size
  reserved_published : ring.pending.count ≤ ring.producer - ring.unread
  write_free : (ring.producer - ring.consumer).toNat + ring.written.length < ring.size.toNat →
    ∀ j < (ring.producer - ring.unread).toNat,
      ringIndex ring.size (ring.producer + BitVec.ofNat 32 ring.written.length) ≠
        ringIndex ring.size (ring.unread + BitVec.ofNat 32 j)
  in_order : ring.delivered ++ ringEntries ring.desc ring.size ring.unread
    (ring.producer - ring.unread).toNat = ring.published

namespace Inv

variable (inv : ring.Inv k start known released)

include inv

theorem unread_eq :
    ring.unread = cursorAt start ring.delivered.length := by
  rw [unread, inv.cursor.consumer, ← cursorAt_add_toNat, BitVec.add_sub_cancel]

theorem toNat_unread :
    (ring.producer - ring.unread).toNat = ring.published.length - ring.delivered.length := by
  rw [inv.unread_eq,
    inv.toNat_sub_cursorAt inv.released_le (Nat.le_of_add_right_le inv.taken_le)]

theorem write_free {j : Nat}
    (free : (ring.producer - ring.consumer).toNat + ring.written.length < ring.size.toNat)
    (unread : j < (ring.producer - ring.unread).toNat) :
    ringIndex ring.size (ring.producer + BitVec.ofNat 32 ring.written.length) ≠
      ringIndex ring.size (ring.unread + BitVec.ofNat 32 j) := by
  have taken_le := inv.taken_le
  have released_le := inv.released_le
  rw [inv.toNat_ahead, inv.size.toNat_eq] at free
  rw [inv.toNat_unread] at unread
  rw [inv.unread_eq, inv.producer, cursorAt_add, cursorAt_add, inv.size.ringIndex_cursorAt,
    inv.size.ringIndex_cursorAt]
  exact (slot_ne (by omega) (by omega)).symm

theorem correct : ring.Correct := by
  have taken_le := inv.taken_le
  refine ⟨?_, ?_, fun free j => inv.write_free free, ?_⟩
  · have near := inv.cursor.near
    rw [BitVec.le_def, inv.cursor.toNat_available, inv.size.toNat_eq]
    exact Nat.sub_le_iff_le_add'.mpr near
  · rw [BitVec.le_def, inv.toNat_unread]
    omega
  · rw [inv.toNat_unread, inv.unread_eq, inv.size.ringEntries_eq inv.sized,
      inv.readFrom_eq (by omega), List.take_of_length_le (by rw [List.length_drop])]
    conv_lhs => rw [inv.read, List.length_take, Nat.min_eq_left (by omega)]
    exact List.take_append_drop _ _

end Inv

/-- The invariant holds along every run from an empty ring. -/
theorem correct_of_run (valid : RingSize k size) (sized : desc.length = 2 ^ k)
    {actions : List (ConsumerAction α)}
    (reached : run step (empty size start desc) actions = some ring) : ring.Correct := by
  have preserved : ∀ (source : ConsumerRing α) action target,
      (∃ known released, source.Inv k start known released) →
      source.step action = some target →
        ∃ known released, target.Inv k start known released := by
    rintro source action target ⟨known, released, inv⟩ taken
    exact inv.step taken
  obtain ⟨known, released, inv⟩ :=
    run_invariant_of_step preserved ⟨0, 0, inv_empty valid sized⟩ reached
  exact inv.correct

end ConsumerRing

/-- The cursors of both kinds of rings are correct across index wraparound, for
every power-of-two size up to `2 ^ 31` and every starting index, whatever the
other side does in between. -/
theorem ring_cursors_correct (k : Nat) (le : k ≤ 31) (start : BitVec 32) (desc : List α)
    (sized : desc.length = 2 ^ k) :
    (∀ actions ring,
      run ProducerRing.step (.empty (BitVec.ofNat 32 (2 ^ k)) start desc) actions = some ring →
        ProducerRing.Correct ring) ∧
    (∀ actions ring,
      run ConsumerRing.step (.empty (BitVec.ofNat 32 (2 ^ k)) start desc) actions = some ring →
        ConsumerRing.Correct ring) := by
  have valid : RingSize k (BitVec.ofNat 32 (2 ^ k)) := ⟨le, rfl⟩
  constructor
  · intro actions ring reached
    exact ProducerRing.correct_of_run valid sized reached
  · intro actions ring reached
    exact ConsumerRing.correct_of_run valid sized reached

/-- Three descriptors through a TX ring of two slots whose indexes wrap. -/
def sampleProducerActions : List (ProducerAction Nat) :=
  [.produceMany 5#32, .copySlice [10, 11], .commit, .consume 1, .produce, .write 12, .commit,
    .consume 2]

/-- Three descriptors through an RX ring of two slots whose indexes wrap. -/
def sampleConsumerActions : List (ConsumerAction Nat) :=
  [.write 10, .write 11, .publish, .consume, .read, .release, .write 12, .consumeMany 5#32,
    .publish, .copyRing, .sync, .consume, .read]

theorem ring_cursors_correct_sample :
    (∃ ring, run ProducerRing.step (.empty 2#32 0xffffffff#32 [0, 0]) sampleProducerActions =
        some ring ∧ ring.consumed = [10, 11, 12] ∧ ring.Correct) ∧
      ∃ ring, run ConsumerRing.step (.empty 2#32 0xffffffff#32 [0, 0]) sampleConsumerActions =
        some ring ∧ ring.delivered = [10, 11, 12] ∧ ring.Correct := by
  have correct := ring_cursors_correct 1 (by decide) 0xffffffff#32 [0, 0] rfl
  exact ⟨⟨_, rfl, rfl, correct.1 sampleProducerActions _ rfl⟩,
    ⟨_, rfl, rfl, correct.2 sampleConsumerActions _ rfl⟩⟩

end FastSocket.Xdp
