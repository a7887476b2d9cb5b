import FastSocket.Buffer.Refinement

/-!
# OS packet buffers

An OS packet buffer keeps its packet in a vector of its own.  A vector is as long as the
layout's chunk when its buffer is allocated, and every access to it is checked.
-/

namespace FastSocket.Os

open Packet Buffer Window

/-- The vector of an OS packet buffer. -/
structure OsStorage where
  vec : List Byte
deriving DecidableEq, Repr

instance : PacketStorage OsStorage where
  capacity storage := storage.vec.length
  tailroom storage stop := subUsize storage.vec.length stop
  read storage offset len :=
    if offset + len ≤ storage.vec.length then
      .ok ((storage.vec.drop offset).take len)
    else
      .error .outOfBounds
  write storage offset bytes :=
    if offset + bytes.length ≤ storage.vec.length then
      .ok ⟨copyAt storage.vec offset bytes⟩
    else
      .error .outOfBounds

instance : LawfulPacketStorage OsStorage where
  bytes := OsStorage.vec
  outside _ := ([], [])
  length_bytes _ := rfl
  tailroom_eq _ _ inside := if_pos inside
  read_eq _ _ _ inside := if_pos inside
  write_eq storage offset bytes inside := ⟨⟨copyAt storage.vec offset bytes⟩, if_pos inside, rfl, rfl⟩

abbrev OsPacketBufMut :=
  PacketInner OsStorage

/-- Truncates or extends a vector with zeros. -/
def resize (vec : List Byte) (len : Nat) : List Byte :=
  vec.take len ++ List.replicate (len - vec.length) 0

/-- The buffer that a pool makes of a free vector. -/
def OsBufferPool.allocate (layout : BufferLayout) (vec : List Byte) : OsPacketBufMut :=
  let allocationLen := layout.allocationLen
  let vec := if vec.length ≠ allocationLen then resize vec allocationLen else vec
  { storage := ⟨vec⟩, layout := layout, start := layout.dataOffset, stop := layout.dataOffset }

/-- Makes the first received bytes the packet. -/
def OsPacketBufMut.setReceivedLen (inner : OsPacketBufMut) (len : Nat) :
    Except BufferAccessError Unit × OsPacketBufMut :=
  let capacity := inner.layout.payloadCapacity
  if len > capacity then
    (.error (.insufficientTailroom capacity len), inner)
  else
    let start := inner.layout.dataOffset
    (.ok (), { inner with start := start, stop := start + len })

/-- The buffers that a pool of a layout hands out, and that a receive call fills. -/
inductive OsPacketBufMut.Obtained (layout : BufferLayout) : OsPacketBufMut → Prop
  | allocate (vec : List Byte) : Obtained layout (OsBufferPool.allocate layout vec)
  | setReceivedLen {inner next : OsPacketBufMut} {len : Nat} (before : Obtained layout inner)
      (received : inner.setReceivedLen len = (.ok (), next)) : Obtained layout next

theorem length_resize (vec : List Byte) (len : Nat) : (resize vec len).length = len := by
  rw [resize, List.length_append, List.length_take, List.length_replicate]
  omega

namespace OsPacketBufMut

variable {layout : BufferLayout} {inner next : OsPacketBufMut} {len : Nat}

theorem setReceivedLen_eq_ok (received : inner.setReceivedLen len = (.ok (), next)) :
    len ≤ inner.layout.payloadCapacity ∧ next = { inner with
      start := inner.layout.dataOffset, stop := inner.layout.dataOffset + len } := by
  rw [setReceivedLen] at received
  split at received
  case isTrue => cases received
  case isFalse fits =>
    cases received
    exact ⟨Nat.not_lt.mp fits, rfl⟩

theorem capacity_allocate (layout : BufferLayout) (vec : List Byte) :
    PacketStorage.capacity (OsBufferPool.allocate layout vec).storage = layout.chunkSize := by
  change (if vec.length ≠ layout.allocationLen then _ else _ : List Byte).length = _
  split
  case isTrue => exact length_resize _ _
  case isFalse same => exact not_not.mp same

/-- A buffer of a layout has the length of its chunk. -/
theorem Obtained.sized (obtained : Obtained layout inner) :
    inner.layout = layout ∧ PacketStorage.capacity inner.storage = layout.chunkSize := by
  induction obtained with
  | allocate vec => exact ⟨rfl, capacity_allocate layout vec⟩
  | setReceivedLen _ received ih =>
    rw [(setReceivedLen_eq_ok received).2]
    exact ih

theorem Obtained.within (obtained : Obtained layout inner) (wellFormed : layout.WellFormed) :
    inner.Within := by
  obtain ⟨above, fits⟩ := wellFormed.dataOffset_bounds
  obtain ⟨isLayout, capacity⟩ := obtained.sized
  cases obtained with
  | allocate vec =>
    refine ⟨above, Nat.le_refl _, ?_⟩
    rw [capacity]
    exact Nat.le_of_add_right_le fits
  | setReceivedLen _ received =>
    obtain ⟨fitsPayload, rfl⟩ := setReceivedLen_eq_ok received
    cases isLayout
    refine ⟨above, Nat.le_add_right _ _, ?_⟩
    rw [capacity]
    exact Nat.le_trans (Nat.add_le_add_left fitsPayload _) fits

end OsPacketBufMut

end FastSocket.Os
