import FastSocket.Transition.Run
import FastSocket.Xdp.RingCursors

/-!
# The user producer against the kernel consumer

The FILL and TX rings.  The user reserves descriptor indexes, writes the
descriptors and publishes them; the kernel consumes published descriptors.  The
invariant counts descriptors without wrapping: the cursor's view of the consumer
lags behind the consumer, which lags behind the published and the reserved
descriptors, and these are never more than a ring ahead of the cursor's view.
-/

namespace FastSocket.Xdp

open Spsc Transition

universe u

variable {α : Type u} {k : Nat} {start : BitVec 32}

/-- A FILL or TX ring with both sides.  `pending` is the range that is reserved and
not yet written.  The last three fields record the descriptors written since the
last commit, all committed ones, and those the consumer has read. -/
structure ProducerRing (α : Type u) where
  cursor : RingProducer
  producer : BitVec 32
  consumer : BitVec 32
  desc : List α
  pending : RingRange
  staged : List α
  committed : List α
  consumed : List α

/-- A step of the user producer or of the consumer. -/
inductive ProducerAction (α : Type u) where
  | sync
  | produce
  | produceMany (wanted : BitVec 32)
  | write (entry : α)
  | copySlice (entries : List α)
  | commit
  | consume (count : Nat)

namespace ProducerRing

/-- An empty ring whose indexes both start at `start`. -/
def empty (size start : BitVec 32) (desc : List α) : ProducerRing α :=
  { cursor := { cachedProducer := start, cachedConsumer := start, size := size }
    producer := start
    consumer := start
    desc := desc
    pending := .default
    staged := []
    committed := []
    consumed := [] }

/-- The next range is reserved once the last one is written, and a commit follows
the writes.  The consumer advances up to the published producer index. -/
def step (ring : ProducerRing α) : ProducerAction α → Option (ProducerRing α)
  | .sync => some { ring with cursor := ring.cursor.sync ring.consumer }
  | .produce =>
    if ring.pending.isEmpty then
      let reserved := ring.cursor.produce ring.consumer
      some { ring with
        cursor := reserved.1
        pending := reserved.2.elim .default fun index => { start := index, count := 1#32 } }
    else
      none
  | .produceMany wanted =>
    if ring.pending.isEmpty then
      let reserved := ring.cursor.produceMany ring.consumer wanted
      some { ring with cursor := reserved.1, pending := reserved.2 }
    else
      none
  | .write entry =>
    if ring.pending.count = 1#32 then
      some { ring with
        desc := ring.desc.set (ringIndex ring.cursor.size ring.pending.start) entry
        pending := .default
        staged := ring.staged ++ [entry] }
    else
      none
  | .copySlice entries =>
    if entries.length = ring.pending.count.toNat ∧ ¬ ring.pending.isEmpty then
      some { ring with
        desc := copySliceToRing ring.desc ring.cursor.size ring.pending.start entries
        pending := .default
        staged := ring.staged ++ entries }
    else
      none
  | .commit =>
    if ring.pending.isEmpty then
      some { ring with
        producer := ring.cursor.commit
        staged := []
        committed := ring.committed ++ ring.staged }
    else
      none
  | .consume count =>
    if count ≤ (ring.producer - ring.consumer).toNat then
      some { ring with
        consumer := ring.consumer + BitVec.ofNat 32 count
        consumed := ring.consumed ++
          ringEntries ring.desc ring.cursor.size ring.consumer count }
    else
      none

/-- The descriptors that are committed or written and not yet consumed are in the
window of the ring. -/
structure Inv (k : Nat) (start : BitVec 32) (ring : ProducerRing α) (seen : Nat) : Prop where
  cursor : ProducerAt k start ring.cursor
    (ring.committed.length + ring.staged.length + ring.pending.count.toNat) seen
  producer : ring.producer = cursorAt start ring.committed.length
  consumer : ring.consumer = cursorAt start ring.consumed.length
  pendingStart : ring.pending.count ≠ 0#32 →
    ring.pending.start = cursorAt start (ring.committed.length + ring.staged.length)
  sized : ring.desc.length = 2 ^ k
  seen_le : seen ≤ ring.consumed.length
  consumed_le : ring.consumed.length ≤ ring.committed.length
  window : Window start.toNat ring.desc (ring.committed ++ ring.staged) ring.consumed.length
  read : ring.consumed = ring.committed.take ring.consumed.length

variable {size : BitVec 32} {desc : List α}

theorem inv_empty (valid : RingSize k size) (sized : desc.length = 2 ^ k) :
    (empty size start desc).Inv k start 0 := by
  refine ⟨⟨valid, (cursorAt_zero start).symm, (cursorAt_zero start).symm, le_refl 0,
    Nat.zero_le _⟩, (cursorAt_zero start).symm, (cursorAt_zero start).symm,
    fun some => absurd rfl some, sized, le_refl 0, le_refl 0, window_of_length_le (le_refl 0), rfl⟩

variable {ring next : ProducerRing α} {seen : Nat}

namespace Inv

variable (inv : ring.Inv k start seen)

include inv

/-- Reserving the next range. -/
theorem reserve {cursor : RingProducer} {range : RingRange} {known : Nat}
    (known_le : known ≤ ring.consumed.length)
    (reserved : ProducerAt k start cursor
      (ring.committed.length + ring.staged.length + range.count.toNat) known)
    (rangeStart : range.count ≠ 0#32 →
      range.start = cursorAt start (ring.committed.length + ring.staged.length)) :
    ({ ring with cursor := cursor, pending := range } : ProducerRing α).Inv k start known :=
  ⟨reserved, inv.producer, inv.consumer, rangeStart, inv.sized, known_le, inv.consumed_le,
    inv.window, inv.read⟩

/-- Writing the reserved range. -/
theorem stage (entries : List α)
    (all : entries.length = ring.pending.count.toNat) :
    ({ ring with
      desc := storeFrom start.toNat ring.desc (ring.committed.length + ring.staged.length) entries
      pending := .default
      staged := ring.staged ++ entries } : ProducerRing α).Inv k start seen := by
  have room := inv.cursor.room
  have seen_le := inv.seen_le
  have consumed_le := inv.consumed_le
  have history : (ring.committed ++ ring.staged).length =
      ring.committed.length + ring.staged.length := List.length_append
  refine ⟨?_, inv.producer, inv.consumer, fun some => absurd rfl some,
    by rw [length_storeFrom, inv.sized], seen_le, consumed_le, ?_, inv.read⟩
  · change ProducerAt k start ring.cursor (_ + (ring.staged ++ entries).length + 0) seen
    rw [List.length_append, all, Nat.add_zero, ← Nat.add_assoc]
    exact inv.cursor
  · rw [← List.append_assoc, ← history]
    exact inv.window.storeFrom (by omega) entries (by rw [inv.sized]; omega)

theorem commit (written : ring.pending.isEmpty) :
    ({ ring with
      producer := ring.cursor.commit
      staged := []
      committed := ring.committed ++ ring.staged } : ProducerRing α).Inv k start seen := by
  have none : ring.pending.count = 0#32 := (RingRange.isEmpty_iff _).mp written
  have cursor := inv.cursor
  have consumed_le := inv.consumed_le
  rw [none, BitVec.toNat_zero, Nat.add_zero, ← List.length_append] at cursor
  refine ⟨?_, cursor.producer, inv.consumer, fun some => absurd none some, inv.sized, inv.seen_le,
    ?_, ?_, ?_⟩
  · rw [none, BitVec.toNat_zero, Nat.add_zero]
    exact cursor
  · rw [List.length_append]
    exact Nat.le_add_right_of_le consumed_le
  · rw [List.append_nil]
    exact inv.window
  · rw [List.take_append_of_le_length consumed_le]
    exact inv.read

variable {count : Nat}

/-- What the consumer reads are the next committed descriptors. -/
theorem ringEntries_eq (published : ring.consumed.length + count ≤ ring.committed.length) :
    ringEntries ring.desc ring.cursor.size ring.consumer count =
      (ring.committed.drop ring.consumed.length).take count := by
  rw [inv.consumer, inv.cursor.size.ringEntries_eq inv.sized,
    inv.window.readFrom (le_refl _) (by rw [List.length_append]; omega),
    List.drop_append_of_le_length inv.consumed_le,
    List.take_append_of_le_length (by rw [List.length_drop]; omega)]

theorem toNat_published :
    (ring.producer - ring.consumer).toNat = ring.committed.length - ring.consumed.length := by
  have half := inv.cursor.size.le_half
  have room := inv.cursor.room
  have seen_le := inv.seen_le
  rw [inv.producer, inv.consumer, toNat_cursorAt_sub start inv.consumed_le (by omega)]

theorem consume (published : count ≤ (ring.producer - ring.consumer).toNat) :
    ({ ring with
      consumer := ring.consumer + BitVec.ofNat 32 count
      consumed := ring.consumed ++ ringEntries ring.desc ring.cursor.size ring.consumer count } :
        ProducerRing α).Inv k start seen := by
  have consumed_le := inv.consumed_le
  rw [inv.toNat_published] at published
  rw [inv.ringEntries_eq (by omega)]
  have length : (ring.consumed ++ (ring.committed.drop ring.consumed.length).take count).length =
      ring.consumed.length + count := by
    rw [List.length_append, List.length_take, List.length_drop]
    omega
  refine ⟨inv.cursor, inv.producer, ?_, inv.pendingStart, inv.sized, ?_, ?_, ?_, ?_⟩
  · rw [length, inv.consumer, cursorAt_add]
  · rw [length]
    exact Nat.le_add_right_of_le inv.seen_le
  · change _ ≤ ring.committed.length
    rw [length]
    omega
  · rw [length]
    exact inv.window.mono (Nat.le_add_right _ _)
  · rw [length, List.take_add, ← inv.read]

end Inv

/-- Every step preserves the invariant. -/
theorem Inv.step (inv : ring.Inv k start seen) {action : ProducerAction α}
    (taken : ring.step action = some next) : ∃ known, next.Inv k start known := by
  have behind : ring.consumed.length ≤
      ring.committed.length + ring.staged.length + ring.pending.count.toNat := by
    have consumed_le := inv.consumed_le
    omega
  cases action with
  | sync =>
    cases taken
    have synced := inv.cursor.sync inv.seen_le behind
    rw [← inv.consumer] at synced
    exact ⟨ring.consumed.length, synced, inv.producer, inv.consumer, inv.pendingStart, inv.sized,
      le_refl _, inv.consumed_le, inv.window, inv.read⟩
  | produce =>
    obtain ⟨written, ⟨⟩⟩ := Option.ite_none_right_eq_some.mp taken
    have cursor := inv.cursor
    rw [(RingRange.isEmpty_iff _).mp written, BitVec.toNat_zero, Nat.add_zero] at cursor behind
    obtain ⟨known, _, known_le, result⟩ := cursor.produce inv.seen_le behind
    rw [← inv.consumer] at result
    refine ⟨known, ?_⟩
    rcases result with ⟨full, _, cursor⟩ | ⟨index, cursor⟩
    · rw [full]
      exact inv.reserve known_le cursor fun some => absurd rfl some
    · rw [index]
      exact inv.reserve known_le cursor fun _ => rfl
  | produceMany wanted =>
    obtain ⟨written, ⟨⟩⟩ := Option.ite_none_right_eq_some.mp taken
    have cursor := inv.cursor
    rw [(RingRange.isEmpty_iff _).mp written, BitVec.toNat_zero, Nat.add_zero] at cursor behind
    obtain ⟨known, _, known_le, _, rangeStart, cursor⟩ :=
      cursor.produceMany inv.seen_le behind wanted
    rw [← inv.consumer] at rangeStart cursor
    exact ⟨known, inv.reserve known_le cursor rangeStart⟩
  | write entry =>
    obtain ⟨single, ⟨⟩⟩ := Option.ite_none_right_eq_some.mp taken
    have pendingStart := inv.pendingStart (by rw [single]; decide)
    have staged := inv.stage [entry] (by rw [single]; rfl)
    rw [pendingStart, inv.cursor.size.ringIndex_cursorAt, ← inv.sized]
    exact ⟨seen, staged⟩
  | copySlice entries =>
    obtain ⟨reserved, ⟨⟩⟩ := Option.ite_none_right_eq_some.mp taken
    have pendingStart := inv.pendingStart fun none =>
      reserved.2 ((RingRange.isEmpty_iff _).mpr none)
    rw [pendingStart, inv.cursor.size.copySliceToRing_eq inv.sized]
    exact ⟨seen, inv.stage entries reserved.1⟩
  | commit =>
    obtain ⟨written, ⟨⟩⟩ := Option.ite_none_right_eq_some.mp taken
    exact ⟨seen, inv.commit written⟩
  | consume count =>
    obtain ⟨published, ⟨⟩⟩ := Option.ite_none_right_eq_some.mp taken
    exact ⟨seen, inv.consume published⟩

/-- What holds of a FILL or TX ring at any time: the free slots are counted without
underflow, a reserved slot is none of those that hold an unconsumed descriptor,
and the descriptors read so far followed by those in the ring are the committed
ones. -/
structure Correct (ring : ProducerRing α) : Prop where
  inFlight_le : ring.cursor.inFlight ≤ ring.cursor.size
  available_le : ring.cursor.available ≤ ring.cursor.size
  reserved_free : ∀ i < ring.pending.count.toNat,
    ∀ j < (ring.pending.start - ring.consumer).toNat,
      ringIndex ring.cursor.size (ring.pending.start + BitVec.ofNat 32 i) ≠
        ringIndex ring.cursor.size (ring.consumer + BitVec.ofNat 32 j)
  in_order : ring.consumed ++ ringEntries ring.desc ring.cursor.size ring.consumer
    (ring.producer - ring.consumer).toNat = ring.committed

theorem Inv.reserved_free (inv : ring.Inv k start seen) {i j : Nat}
    (reserved : i < ring.pending.count.toNat)
    (unconsumed : j < (ring.pending.start - ring.consumer).toNat) :
    ringIndex ring.cursor.size (ring.pending.start + BitVec.ofNat 32 i) ≠
      ringIndex ring.cursor.size (ring.consumer + BitVec.ofNat 32 j) := by
  have half := inv.cursor.size.le_half
  have room := inv.cursor.room
  have seen_le := inv.seen_le
  have consumed_le := inv.consumed_le
  have nonempty : ring.pending.count ≠ 0#32 := by
    intro none
    rw [none] at reserved
    exact absurd reserved (Nat.not_lt_zero i)
  rw [inv.pendingStart nonempty, inv.consumer,
    toNat_cursorAt_sub start (by omega) (by omega)] at unconsumed
  rw [inv.pendingStart nonempty, inv.consumer, cursorAt_add, cursorAt_add,
    inv.cursor.size.ringIndex_cursorAt, inv.cursor.size.ringIndex_cursorAt]
  exact (slot_ne (by omega) (by omega)).symm

theorem Inv.correct (inv : ring.Inv k start seen) : ring.Correct := by
  refine ⟨inv.cursor.inFlight_le, ?_, fun i reserved j => inv.reserved_free reserved, ?_⟩
  · have le := inv.cursor.le
    have pos := Nat.two_pow_pos k
    rw [BitVec.le_def, inv.cursor.toNat_available, inv.cursor.size.toNat_eq]
    omega
  · have consumed_le := inv.consumed_le
    rw [inv.toNat_published, inv.ringEntries_eq (by omega),
      List.take_of_length_le (by rw [List.length_drop])]
    conv_lhs => rw [inv.read, List.length_take, Nat.min_eq_left consumed_le]
    exact List.take_append_drop _ _

/-- The invariant holds along every run from an empty ring. -/
theorem correct_of_run (valid : RingSize k size) (sized : desc.length = 2 ^ k)
    {actions : List (ProducerAction α)}
    (reached : run step (empty size start desc) actions = some ring) : ring.Correct := by
  have preserved : ∀ (source : ProducerRing α) action target, (∃ seen, source.Inv k start seen) →
      source.step action = some target → ∃ seen, target.Inv k start seen := by
    rintro source action target ⟨seen, inv⟩ taken
    exact inv.step taken
  obtain ⟨seen, inv⟩ := run_invariant_of_step preserved ⟨0, inv_empty valid sized⟩ reached
  exact inv.correct

end ProducerRing

end FastSocket.Xdp
