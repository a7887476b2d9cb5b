import Mathlib.Data.Nat.Basic

/-!
# Ring cursors

The user side of the single-producer single-consumer rings shared with the
kernel.  A cursor caches both indexes of its ring and refreshes the one the other
side moves.  An argument named after a shared index is the value that the load of
that index returns; no cursor operation loads an index more than once.
-/

namespace FastSocket.Xdp

universe u

variable {α : Type u}

/-- `u32::min`. -/
def minU32 (first second : BitVec 32) : BitVec 32 :=
  if first ≤ second then first else second

theorem minU32_le_left (first second : BitVec 32) : minU32 first second ≤ first := by
  rw [minU32]
  split
  · exact BitVec.le_refl _
  · rename_i greater
    exact BitVec.le_of_lt (BitVec.not_le.mp greater)

theorem minU32_le_right (first second : BitVec 32) : minU32 first second ≤ second := by
  rw [minU32]
  split
  · assumption
  · exact BitVec.le_refl _

/-- Reserved descriptor indexes in a ring cursor. -/
structure RingRange where
  start : BitVec 32
  count : BitVec 32
deriving DecidableEq, Repr

namespace RingRange

def default : RingRange :=
  { start := 0#32, count := 0#32 }

def isEmpty (range : RingRange) : Bool :=
  range.count = 0#32

theorem isEmpty_iff (range : RingRange) : range.isEmpty = true ↔ range.count = 0#32 := by
  simp [isEmpty]

end RingRange

/-- The user cursor of a FILL or TX ring. -/
structure RingProducer where
  cachedProducer : BitVec 32
  cachedConsumer : BitVec 32
  size : BitVec 32
deriving DecidableEq, Repr

namespace RingProducer

/-- Refreshes the cached consumer index. -/
def sync (cursor : RingProducer) (consumer : BitVec 32) : RingProducer :=
  { cursor with cachedConsumer := consumer }

/-- Descriptors that are reserved or published and, as far as the cursor knows,
not consumed. -/
def inFlight (cursor : RingProducer) : BitVec 32 :=
  cursor.cachedProducer - cursor.cachedConsumer

/-- Free descriptor slots based on the cached indexes. -/
def available (cursor : RingProducer) : BitVec 32 :=
  cursor.size - cursor.inFlight

/-- Advances past `count` reserved descriptors. -/
def advance (cursor : RingProducer) (count : BitVec 32) : RingProducer :=
  { cursor with cachedProducer := cursor.cachedProducer + count }

/-- Reserves one descriptor index. -/
def produce (cursor : RingProducer) (consumer : BitVec 32) : RingProducer × Option (BitVec 32) :=
  if cursor.inFlight ≥ cursor.size then
    let cursor := cursor.sync consumer
    if cursor.inFlight ≥ cursor.size then
      (cursor, none)
    else
      (cursor.advance 1#32, some cursor.cachedProducer)
  else
    (cursor.advance 1#32, some cursor.cachedProducer)

/-- Reserves up to `wanted` descriptor indexes. -/
def produceMany (cursor : RingProducer) (consumer wanted : BitVec 32) :
    RingProducer × RingRange :=
  if wanted = 0#32 then
    (cursor, .default)
  else
    let cursor := if cursor.available < wanted then cursor.sync consumer else cursor
    let count := minU32 wanted cursor.available
    (cursor.advance count, { start := cursor.cachedProducer, count := count })

/-- The producer index that publishing stores. -/
def commit (cursor : RingProducer) : BitVec 32 :=
  cursor.cachedProducer

end RingProducer

/-- The user cursor of an RX or COMPLETION ring. -/
structure RingConsumer where
  cachedProducer : BitVec 32
  cachedConsumer : BitVec 32
deriving DecidableEq, Repr

namespace RingConsumer

/-- Refreshes the cached producer index. -/
def sync (cursor : RingConsumer) (producer : BitVec 32) : RingConsumer :=
  { cursor with cachedProducer := producer }

/-- Descriptors to consume based on the cached indexes. -/
def available (cursor : RingConsumer) : BitVec 32 :=
  cursor.cachedProducer - cursor.cachedConsumer

/-- Advances past `count` descriptors. -/
def advance (cursor : RingConsumer) (count : BitVec 32) : RingConsumer :=
  { cursor with cachedConsumer := cursor.cachedConsumer + count }

/-- Reserves one descriptor index for consumption. -/
def consume (cursor : RingConsumer) (producer : BitVec 32) : RingConsumer × Option (BitVec 32) :=
  if cursor.cachedConsumer = cursor.cachedProducer then
    let cursor := cursor.sync producer
    if cursor.cachedConsumer = cursor.cachedProducer then
      (cursor, none)
    else
      (cursor.advance 1#32, some cursor.cachedConsumer)
  else
    (cursor.advance 1#32, some cursor.cachedConsumer)

/-- Reserves up to `wanted` descriptor indexes for consumption. -/
def consumeMany (cursor : RingConsumer) (producer wanted : BitVec 32) :
    RingConsumer × RingRange :=
  if wanted = 0#32 then
    (cursor, .default)
  else
    let cursor := if cursor.available < wanted then cursor.sync producer else cursor
    let count := minU32 wanted cursor.available
    (cursor.advance count, { start := cursor.cachedConsumer, count := count })

/-- The consumer index that releasing stores. -/
def release (cursor : RingConsumer) : BitVec 32 :=
  cursor.cachedConsumer

end RingConsumer

/-! ## Descriptor copies -/

/-- The slot of an absolute ring index. -/
def ringIndex (size index : BitVec 32) : Nat :=
  (index &&& (size - 1#32)).toNat

/-- The loop of `copySliceToRing`; the first argument bounds its iterations. -/
def copySliceLoop (size start : BitVec 32) (src : List α) :
    (fuel copied : Nat) → (ring : List α) → List α
  | 0, _, ring => ring
  | fuel + 1, copied, ring =>
    if copied < src.length then
      let index := ringIndex size (start + BitVec.ofNat 32 copied)
      let chunk := min (src.length - copied) (size.toNat - index)
      let block := (src.drop copied).take chunk
      copySliceLoop size start src fuel (copied + chunk)
        (ring.take index ++ block ++ ring.drop (index + chunk))
    else
      ring

/-- Copies descriptors into a reserved range, in chunks that end at the ring
boundary.  Every chunk is at least one descriptor long. -/
def copySliceToRing (ring : List α) (size start : BitVec 32) (src : List α) : List α :=
  copySliceLoop size start src src.length 0 ring

/-- The loop of `copyRingToVec`; the first argument bounds its iterations. -/
def copyRingLoop (ring : List α) (size : BitVec 32) (range : RingRange) :
    (fuel copied : Nat) → (out : List α) → List α
  | 0, _, out => out
  | fuel + 1, copied, out =>
    if copied < range.count.toNat then
      let index := ringIndex size (range.start + BitVec.ofNat 32 copied)
      let chunk := min (range.count.toNat - copied) (size.toNat - index)
      copyRingLoop ring size range fuel (copied + chunk)
        (out ++ (ring.drop index).take chunk)
    else
      out

/-- Appends the descriptors of a reserved range to a vector. -/
def copyRingToVec (ring : List α) (size : BitVec 32) (range : RingRange) (out : List α) :
    List α :=
  copyRingLoop ring size range range.count.toNat 0 out

/-- The descriptors at consecutive ring indexes. -/
def ringEntries (ring : List α) (size : BitVec 32) : (start : BitVec 32) → (count : Nat) → List α
  | _, 0 => []
  | start, count + 1 =>
    (ring[ringIndex size start]?).toList ++ ringEntries ring size (start + 1#32) count

end FastSocket.Xdp
