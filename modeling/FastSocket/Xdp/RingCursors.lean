import FastSocket.Xdp.RingCopy

/-!
# What the cursor operations do

A cursor is described by the two counts behind its cached indexes: how many
descriptors it has reserved and how far it knows the other side to be.  The
specifications below are in terms of these counts, which never wrap.
-/

namespace FastSocket.Xdp

open Spsc

variable {k : Nat} {start : BitVec 32}

/-! ## The producer cursor -/

/-- A producer cursor that has reserved `reserved` descriptors and knows of `seen`
consumed ones. -/
structure ProducerAt (k : Nat) (start : BitVec 32) (cursor : RingProducer)
    (reserved seen : Nat) : Prop where
  size : RingSize k cursor.size
  producer : cursor.cachedProducer = cursorAt start reserved
  consumer : cursor.cachedConsumer = cursorAt start seen
  le : seen ≤ reserved
  room : reserved ≤ seen + 2 ^ k

namespace ProducerAt

variable {cursor : RingProducer} {reserved seen consumed : Nat}
  (cursorIs : ProducerAt k start cursor reserved seen)

include cursorIs

theorem toNat_inFlight : cursor.inFlight.toNat = reserved - seen := by
  have half := cursorIs.size.le_half
  have room := cursorIs.room
  rw [RingProducer.inFlight, cursorIs.producer, cursorIs.consumer,
    toNat_cursorAt_sub start cursorIs.le (by omega)]

theorem inFlight_le : cursor.inFlight ≤ cursor.size := by
  rw [BitVec.le_def, cursorIs.toNat_inFlight, cursorIs.size.toNat_eq]
  exact Nat.sub_le_iff_le_add'.mpr cursorIs.room

theorem toNat_available : cursor.available.toNat = seen + 2 ^ k - reserved := by
  have le := cursorIs.le
  rw [RingProducer.available, BitVec.toNat_sub_of_le cursorIs.inFlight_le,
    cursorIs.toNat_inFlight, cursorIs.size.toNat_eq]
  omega

theorem sync (le : seen ≤ consumed) (behind : consumed ≤ reserved) :
    ProducerAt k start (cursor.sync (cursorAt start consumed)) reserved consumed := by
  have room := cursorIs.room
  exact ⟨cursorIs.size, cursorIs.producer, rfl, behind, by omega⟩

theorem advance (count : BitVec 32) (fits : count ≤ cursor.available) :
    ProducerAt k start (cursor.advance count) (reserved + count.toNat) seen := by
  have le := cursorIs.le
  have room := cursorIs.room
  rw [BitVec.le_def, cursorIs.toNat_available] at fits
  refine ⟨cursorIs.size, ?_, cursorIs.consumer, by omega, by omega⟩
  rw [RingProducer.advance, cursorIs.producer, cursorAt_add_toNat]

theorem full_iff : cursor.inFlight ≥ cursor.size ↔ reserved = seen + 2 ^ k := by
  have le := cursorIs.le
  have room := cursorIs.room
  rw [ge_iff_le, BitVec.le_def, cursorIs.toNat_inFlight, cursorIs.size.toNat_eq]
  omega

theorem reserve_one (free : reserved ≠ seen + 2 ^ k) :
    ProducerAt k start (cursor.advance 1#32) (reserved + 1) seen := by
  have room := cursorIs.room
  apply cursorIs.advance 1#32
  rw [BitVec.le_def, cursorIs.toNat_available]
  change 1 ≤ _
  omega

/-- Reserving one index yields the next one, unless the ring is full. -/
theorem produce (le : seen ≤ consumed) (behind : consumed ≤ reserved) :
    ∃ known, seen ≤ known ∧ known ≤ consumed ∧
      ((cursor.produce (cursorAt start consumed)).2 = none ∧ reserved = consumed + 2 ^ k ∧
          ProducerAt k start (cursor.produce (cursorAt start consumed)).1 reserved known ∨
        (cursor.produce (cursorAt start consumed)).2 = some (cursorAt start reserved) ∧
          ProducerAt k start (cursor.produce (cursorAt start consumed)).1 (reserved + 1) known) := by
  have synced := cursorIs.sync le behind
  rw [RingProducer.produce]
  by_cases full : cursor.inFlight ≥ cursor.size
  · rw [if_pos full]
    by_cases stillFull : (cursor.sync (cursorAt start consumed)).inFlight ≥
        (cursor.sync (cursorAt start consumed)).size
    · simp only [if_pos stillFull]
      exact ⟨consumed, le, le_refl consumed, .inl ⟨trivial, synced.full_iff.mp stillFull, synced⟩⟩
    · simp only [if_neg stillFull]
      refine ⟨consumed, le, le_refl consumed, .inr ⟨congrArg some synced.producer, ?_⟩⟩
      exact synced.reserve_one fun isFull => stillFull (synced.full_iff.mpr isFull)
  · rw [if_neg full]
    refine ⟨seen, le_refl seen, le, .inr ⟨congrArg some cursorIs.producer, ?_⟩⟩
    exact cursorIs.reserve_one fun isFull => full (cursorIs.full_iff.mpr isFull)

/-- Reserving a range yields the next indexes, as many as are wanted and free. -/
theorem produceMany (le : seen ≤ consumed) (behind : consumed ≤ reserved) (wanted : BitVec 32) :
    ∃ known, seen ≤ known ∧ known ≤ consumed ∧
      (cursor.produceMany (cursorAt start consumed) wanted).2.count ≤ wanted ∧
      ((cursor.produceMany (cursorAt start consumed) wanted).2.count ≠ 0#32 →
        (cursor.produceMany (cursorAt start consumed) wanted).2.start = cursorAt start reserved) ∧
      ProducerAt k start (cursor.produceMany (cursorAt start consumed) wanted).1
        (reserved + (cursor.produceMany (cursorAt start consumed) wanted).2.count.toNat) known := by
  rw [RingProducer.produceMany]
  by_cases none : wanted = 0#32
  · rw [if_pos none]
    exact ⟨seen, le_refl seen, le, by rw [none]; exact BitVec.le_refl _, fun some => absurd rfl some,
      cursorIs⟩
  · rw [if_neg none]
    have known : ∃ known, seen ≤ known ∧ known ≤ consumed ∧ ProducerAt k start
        (if cursor.available < wanted then cursor.sync (cursorAt start consumed) else cursor)
        reserved known := by
      split
      · exact ⟨consumed, le, le_refl consumed, cursorIs.sync le behind⟩
      · exact ⟨seen, le_refl seen, le, cursorIs⟩
    obtain ⟨known, above, below, refreshed⟩ := known
    exact ⟨known, above, below, minU32_le_left _ _, fun _ => refreshed.producer,
      refreshed.advance _ (minU32_le_right _ _)⟩

end ProducerAt

/-! ## The consumer cursor -/

/-- A consumer cursor that has reserved `taken` descriptors and knows of `known`
published ones. -/
structure ConsumerAt (k : Nat) (start : BitVec 32) (cursor : RingConsumer)
    (taken known : Nat) : Prop where
  width : k ≤ 31
  producer : cursor.cachedProducer = cursorAt start known
  consumer : cursor.cachedConsumer = cursorAt start taken
  le : taken ≤ known
  near : known ≤ taken + 2 ^ k

namespace ConsumerAt

variable {cursor : RingConsumer} {taken known published : Nat}
  (cursorIs : ConsumerAt k start cursor taken known)

include cursorIs

theorem distance_lt : known - taken < 2 ^ 32 := by
  have half : 2 ^ k ≤ 2 ^ 31 := Nat.pow_le_pow_right (by decide) cursorIs.width
  have near := cursorIs.near
  omega

theorem toNat_available : cursor.available.toNat = known - taken := by
  rw [RingConsumer.available, cursorIs.producer, cursorIs.consumer,
    toNat_cursorAt_sub start cursorIs.le cursorIs.distance_lt]

theorem drained_iff : cursor.cachedConsumer = cursor.cachedProducer ↔ taken = known := by
  rw [cursorIs.producer, cursorIs.consumer]
  exact cursorAt_inj start cursorIs.le cursorIs.distance_lt

theorem sync (le : known ≤ published) (near : published ≤ taken + 2 ^ k) :
    ConsumerAt k start (cursor.sync (cursorAt start published)) taken published :=
  ⟨cursorIs.width, rfl, cursorIs.consumer, Nat.le_trans cursorIs.le le, near⟩

theorem advance (count : BitVec 32) (fits : count ≤ cursor.available) :
    ConsumerAt k start (cursor.advance count) (taken + count.toNat) known := by
  have le := cursorIs.le
  have near := cursorIs.near
  rw [BitVec.le_def, cursorIs.toNat_available] at fits
  refine ⟨cursorIs.width, cursorIs.producer, ?_, by omega, by omega⟩
  rw [RingConsumer.advance, cursorIs.consumer, cursorAt_add_toNat]

theorem take_one (present : taken ≠ known) :
    ConsumerAt k start (cursor.advance 1#32) (taken + 1) known := by
  have le := cursorIs.le
  apply cursorIs.advance 1#32
  rw [BitVec.le_def, cursorIs.toNat_available]
  change 1 ≤ _
  omega

/-- Reserving one index yields the next one, unless nothing is published. -/
theorem consume (le : known ≤ published) (near : published ≤ taken + 2 ^ k) :
    ∃ seen, known ≤ seen ∧ seen ≤ published ∧
      ((cursor.consume (cursorAt start published)).2 = none ∧ taken = published ∧
          ConsumerAt k start (cursor.consume (cursorAt start published)).1 taken seen ∨
        (cursor.consume (cursorAt start published)).2 = some (cursorAt start taken) ∧
          ConsumerAt k start (cursor.consume (cursorAt start published)).1 (taken + 1) seen) := by
  have synced := cursorIs.sync le near
  rw [RingConsumer.consume]
  by_cases drained : cursor.cachedConsumer = cursor.cachedProducer
  · rw [if_pos drained]
    by_cases stillDrained : (cursor.sync (cursorAt start published)).cachedConsumer =
        (cursor.sync (cursorAt start published)).cachedProducer
    · simp only [if_pos stillDrained]
      exact ⟨published, le, le_refl published,
        .inl ⟨trivial, synced.drained_iff.mp stillDrained, synced⟩⟩
    · simp only [if_neg stillDrained]
      refine ⟨published, le, le_refl published, .inr ⟨congrArg some synced.consumer, ?_⟩⟩
      exact synced.take_one fun equal => stillDrained (synced.drained_iff.mpr equal)
  · rw [if_neg drained]
    refine ⟨known, le_refl known, le, .inr ⟨congrArg some cursorIs.consumer, ?_⟩⟩
    exact cursorIs.take_one fun equal => drained (cursorIs.drained_iff.mpr equal)

/-- Reserving a range yields the next indexes, as many as are wanted and known. -/
theorem consumeMany (le : known ≤ published) (near : published ≤ taken + 2 ^ k)
    (wanted : BitVec 32) :
    ∃ seen, known ≤ seen ∧ seen ≤ published ∧
      (cursor.consumeMany (cursorAt start published) wanted).2.count ≤ wanted ∧
      ((cursor.consumeMany (cursorAt start published) wanted).2.count ≠ 0#32 →
        (cursor.consumeMany (cursorAt start published) wanted).2.start = cursorAt start taken) ∧
      ConsumerAt k start (cursor.consumeMany (cursorAt start published) wanted).1
        (taken + (cursor.consumeMany (cursorAt start published) wanted).2.count.toNat) seen := by
  rw [RingConsumer.consumeMany]
  by_cases none : wanted = 0#32
  · rw [if_pos none]
    exact ⟨known, le_refl known, le, by rw [none]; exact BitVec.le_refl _,
      fun some => absurd rfl some, cursorIs⟩
  · rw [if_neg none]
    have seen : ∃ seen, known ≤ seen ∧ seen ≤ published ∧ ConsumerAt k start
        (if cursor.available < wanted then cursor.sync (cursorAt start published) else cursor)
        taken seen := by
      split
      · exact ⟨published, le, le_refl published, cursorIs.sync le near⟩
      · exact ⟨known, le_refl known, le, cursorIs⟩
    obtain ⟨seen, above, below, refreshed⟩ := seen
    exact ⟨seen, above, below, minU32_le_left _ _, fun _ => refreshed.consumer,
      refreshed.advance _ (minU32_le_right _ _)⟩

end ConsumerAt

end FastSocket.Xdp
