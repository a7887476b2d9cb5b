import FastSocket.Os.PacketBuf
import FastSocket.Xdp.Umem

/-!
# AF_XDP packet buffers

An AF_XDP packet buffer keeps its packet in a frame, which is a box on the heap or a part
of the UMEM.  Accesses are not checked: one that leaves the frame reaches the memory
around it.
-/

namespace FastSocket.Xdp

open Packet Buffer Window

/-- A frame of a UMEM with the bytes of the whole mapping, which holds at least the
frames. -/
structure UmemFrame where
  umem : Umem
  backing : List Byte
  frameAddr : Addr
  le_length : umem.frameCount * umem.frameSize ≤ backing.length
  isFrame : umem.IsFrame frameAddr

/-- A frame ends inside the UMEM. -/
theorem Umem.IsFrame.end_le {umem : Umem} {frame : Addr} (isFrame : umem.IsFrame frame) :
    frame.toNat + umem.frameSize ≤ umem.frameCount * umem.frameSize := by
  obtain ⟨aligned, inside⟩ := isFrame
  have whole := congrArg BitVec.toNat aligned
  rw [umem.toNat_frameOf] at whole
  rw [BitVec.lt_def, umem.toNat_byteLen] at inside
  have divMod := Nat.div_add_mod' frame.toNat umem.frameSize
  have isMultiple : frame.toNat = frame.toNat / umem.frameSize * umem.frameSize := by
    have le := Nat.mod_le frame.toNat umem.frameSize
    omega
  rw [isMultiple] at inside ⊢
  rw [← Nat.succ_mul]
  exact Nat.mul_le_mul_right _ (Nat.lt_of_mul_lt_mul_right inside)

/-- The packet of a descriptor ends inside the UMEM. -/
theorem Umem.descriptorSlice_range {umem : Umem} {addr frameAddr : Addr} {len start stop : Nat}
    (sliced : umem.descriptorSlice addr len = some (frameAddr, start, stop)) :
    start = addr.toNat ∧ stop = addr.toNat + len ∧
      stop ≤ umem.frameCount * umem.frameSize := by
  rw [descriptorSlice, Option.bind_eq_bind, Option.bind_eq_some_iff] at sliced
  obtain ⟨frame, isFound, rest⟩ := sliced
  obtain ⟨found, isRange, same⟩ := Option.bind_eq_some_iff.mp rest
  cases same
  rw [validatedRange, isFound, Option.bind_eq_bind, Option.bind_some] at isRange
  simp only at isRange
  split at isRange
  · cases isRange
  · rename_i inside
    cases isRange
    refine ⟨rfl, rfl, ?_⟩
    rw [umem.frameAddrForDesc_eq] at isFound
    split at isFound
    · cases isFound
      have ends := IsFrame.end_le ⟨umem.frameOf_frameOf addr, ‹_›⟩
      omega
    · cases isFound

namespace UmemFrame

variable (frame : UmemFrame)

theorem end_le_length : frame.frameAddr.toNat + frame.umem.frameSize ≤ frame.backing.length :=
  Nat.le_trans frame.isFrame.end_le frame.le_length

/-- Overwrites bytes of the mapping. -/
def setBacking (offset : Nat) (bytes : List Byte)
    (inside : offset + bytes.length ≤ frame.backing.length) : UmemFrame :=
  { frame with
    backing := copyAt frame.backing offset bytes
    le_length := by
      rw [length_copyAt inside]
      exact frame.le_length }

/-- The bytes of the frame. -/
def bytes : List Byte :=
  (frame.backing.drop frame.frameAddr.toNat).take frame.umem.frameSize

/-- The bytes in front of the frame and behind it. -/
def outside : List Byte × List Byte :=
  (frame.backing.take frame.frameAddr.toNat,
    frame.backing.drop (frame.frameAddr.toNat + frame.umem.frameSize))

theorem length_bytes : frame.bytes.length = frame.umem.frameSize := by
  have inside := frame.end_le_length
  rw [bytes, List.length_take, List.length_drop]
  omega

theorem length_before : frame.outside.1.length = frame.frameAddr.toNat := by
  have inside := frame.end_le_length
  rw [outside, List.length_take]
  omega

theorem backing_eq : frame.backing = frame.outside.1 ++ (frame.bytes ++ frame.outside.2) := by
  rw [outside, bytes, ← List.drop_drop, List.take_append_drop, List.take_append_drop]

theorem setBacking_spec {offset : Nat} {bytes : List Byte}
    (inside : offset + bytes.length ≤ frame.umem.frameSize) :
    ∃ fits, (frame.setBacking (frame.frameAddr.toNat + offset) bytes fits).bytes =
        overwrite frame.bytes offset bytes ∧
      (frame.setBacking (frame.frameAddr.toNat + offset) bytes fits).outside = frame.outside := by
  have within := frame.end_le_length
  have fits : frame.frameAddr.toNat + offset + bytes.length ≤ frame.backing.length := by omega
  have changed : (frame.setBacking (frame.frameAddr.toNat + offset) bytes fits).backing =
      frame.outside.1 ++ (overwrite frame.bytes offset bytes ++ frame.outside.2) := by
    change overwrite frame.backing (frame.frameAddr.toNat + offset) bytes = _
    conv_lhs => rw [frame.backing_eq]
    rw [← frame.length_before, overwrite_append_right, overwrite_append_left]
    rw [frame.length_bytes]
    exact inside
  have length : (overwrite frame.bytes offset bytes).length = frame.umem.frameSize := by
    rw [length_overwrite, frame.length_bytes]
    rw [frame.length_bytes]
    exact inside
  refine ⟨fits, ?_, ?_⟩
  · rw [UmemFrame.bytes, changed]
    change List.take frame.umem.frameSize (List.drop frame.frameAddr.toNat _) = _
    rw [← frame.length_before, List.drop_left, ← length, List.take_left]
  · rw [outside, changed]
    change (List.take frame.frameAddr.toNat _,
      List.drop (frame.frameAddr.toNat + frame.umem.frameSize) _) = _
    rw [← frame.length_before, List.take_left, ← length, List.drop_length_add_append,
      List.drop_left]

end UmemFrame

/-! ## Storages -/

inductive XdpStorage where
  | heap (frame : List Byte)
  | umem (frame : UmemFrame)

namespace XdpStorage

def frameCapacity : XdpStorage → Nat
  | heap frame => frame.length
  | umem frame => frame.umem.frameSize

/-- Reads through a raw pointer into the box or the mapping. -/
def read : XdpStorage → Nat → Nat → Except BufferFault (List Byte)
  | heap frame, offset, len =>
    if offset + len ≤ frame.length then
      .ok ((frame.drop offset).take len)
    else
      .error .outOfBounds
  | umem frame, offset, len =>
    if frame.frameAddr.toNat + offset + len ≤ frame.backing.length then
      .ok ((frame.backing.drop (frame.frameAddr.toNat + offset)).take len)
    else
      .error .outOfBounds

/-- Copies through a raw pointer into the box or the mapping. -/
def write : XdpStorage → Nat → List Byte → Except BufferFault XdpStorage
  | heap frame, offset, bytes =>
    if offset + bytes.length ≤ frame.length then
      .ok (heap (copyAt frame offset bytes))
    else
      .error .outOfBounds
  | umem frame, offset, bytes =>
    if inside : frame.frameAddr.toNat + offset + bytes.length ≤ frame.backing.length then
      .ok (umem (frame.setBacking (frame.frameAddr.toNat + offset) bytes inside))
    else
      .error .outOfBounds

def bytes : XdpStorage → List Byte
  | heap frame => frame
  | umem frame => frame.bytes

def outside : XdpStorage → List Byte × List Byte
  | heap _ => ([], [])
  | umem frame => frame.outside

theorem read_eq (storage : XdpStorage) (offset len : Nat)
    (inside : offset + len ≤ storage.frameCapacity) :
    storage.read offset len = .ok ((storage.bytes.drop offset).take len) := by
  cases storage with
  | heap frame => exact if_pos inside
  | umem frame =>
    have within := frame.end_le_length
    rw [frameCapacity] at inside
    rw [read, if_pos (by omega), bytes, UmemFrame.bytes, List.drop_take, List.drop_drop,
      List.take_take, Nat.min_eq_left (by omega)]

theorem write_eq (storage : XdpStorage) (offset : Nat) (added : List Byte)
    (inside : offset + added.length ≤ storage.frameCapacity) :
    ∃ next, storage.write offset added = .ok next ∧
      next.bytes = overwrite storage.bytes offset added ∧ next.outside = storage.outside := by
  cases storage with
  | heap frame => exact ⟨heap (copyAt frame offset added), if_pos inside, rfl, rfl⟩
  | umem frame =>
    obtain ⟨fits, isBytes, isOutside⟩ := frame.setBacking_spec inside
    exact ⟨_, dif_pos fits, isBytes, isOutside⟩

end XdpStorage

instance : PacketStorage XdpStorage where
  capacity := XdpStorage.frameCapacity
  tailroom storage stop := .ok (storage.frameCapacity - stop)
  read := XdpStorage.read
  write := XdpStorage.write

instance : LawfulPacketStorage XdpStorage where
  bytes := XdpStorage.bytes
  outside := XdpStorage.outside
  length_bytes
    | .heap _ => rfl
    | .umem frame => frame.length_bytes
  tailroom_eq _ _ _ := rfl
  read_eq := XdpStorage.read_eq
  write_eq := XdpStorage.write_eq

/-! ## Buffers of a pool -/

abbrev XdpPacketBufMut :=
  PacketInner XdpStorage

/-- The free heap frames of a pool, which are made for its layout. -/
structure HeapReclaim (layout : BufferLayout) where
  free : List (List Byte)
  sized : ∀ frame ∈ free, frame.length = layout.chunkSize

def HeapReclaim.new (layout : BufferLayout) (count : Nat) : HeapReclaim layout where
  free := List.replicate count (List.replicate layout.chunkSize 0)
  sized frame member := by
    rw [List.eq_of_mem_replicate member, List.length_replicate]

/-- The frame that is taken next. -/
def HeapReclaim.pop {layout : BufferLayout} (heap : HeapReclaim layout) : Option (List Byte) :=
  heap.free.getLast?

/-- The buffer that a pool makes of a frame. -/
def XdpTxPool.allocate (layout : BufferLayout) (storage : XdpStorage) : XdpPacketBufMut :=
  { storage := storage, layout := layout, start := layout.dataOffset, stop := layout.dataOffset }

theorem isFrame_of_containsFrameAddr {umem : Umem} {frame : Addr}
    (contains : umem.containsFrameAddr frame) : umem.IsFrame frame := by
  rw [Umem.containsFrameAddr, umem.frameAddrForDesc_eq, decide_eq_true_iff] at contains
  split at contains
  case isTrue inside =>
    have aligned := Option.some.inj contains
    rw [aligned] at inside
    exact ⟨aligned, inside⟩
  case isFalse => cases contains

/-- The buffer of a received descriptor, whose packet starts at an offset from it. -/
def XdpRxPool.wrapRxFrame (layout : BufferLayout) (umem : Umem) (backing : List Byte)
    (le_length : umem.frameCount * umem.frameSize ≤ backing.length) (descAddr : Addr)
    (packetOffset len : Nat) : Option (XdpPacketBufMut) :=
  let frameSize := BitVec.ofNat 64 umem.frameSize
  let frameAddr := descAddr - descAddr % frameSize
  if contains : umem.containsFrameAddr frameAddr then
    let start := (descAddr - frameAddr).toNat + packetOffset
    if start < layout.l2Headroom ∨ start + len > umem.frameSize then
      none
    else
      some {
        storage := .umem ⟨umem, backing, frameAddr, le_length,
          isFrame_of_containsFrameAddr contains⟩
        layout := layout
        start := start
        stop := start + len }
  else
    none

/-- The buffers that the pools of a layout hand out: on the heap, in a UMEM whose frames
hold a chunk, or from a received descriptor. -/
inductive XdpPacketBufMut.Obtained (layout : BufferLayout) : XdpPacketBufMut → Prop
  | heap {pool : HeapReclaim layout} {frame : List Byte} (popped : pool.pop = some frame) :
      Obtained layout (XdpTxPool.allocate layout (.heap frame))
  | umem {frame : UmemFrame} (fits : layout.chunkSize ≤ frame.umem.frameSize) :
      Obtained layout (XdpTxPool.allocate layout (.umem frame))
  | wrapRxFrame {umem : Umem} {backing : List Byte}
      {le_length : umem.frameCount * umem.frameSize ≤ backing.length} {descAddr : Addr}
      {packetOffset len : Nat} {inner : XdpPacketBufMut}
      (wrapped : XdpRxPool.wrapRxFrame layout umem backing le_length descAddr packetOffset len =
        some inner) : Obtained layout inner

theorem XdpTxPool.within_allocate {layout : BufferLayout} {storage : XdpStorage}
    (wellFormed : layout.WellFormed) (fits : layout.chunkSize ≤ storage.frameCapacity) :
    (XdpTxPool.allocate layout storage).Within := by
  obtain ⟨above, inside⟩ := wellFormed.dataOffset_bounds
  exact ⟨above, Nat.le_refl _, Nat.le_trans (Nat.le_of_add_right_le inside) fits⟩

theorem XdpPacketBufMut.Obtained.within {layout : BufferLayout} {inner : XdpPacketBufMut}
    (obtained : XdpPacketBufMut.Obtained layout inner) (wellFormed : layout.WellFormed) : inner.Within := by
  cases obtained with
  | @heap pool frame popped =>
    apply XdpTxPool.within_allocate wellFormed
    exact Nat.le_of_eq (pool.sized frame (List.mem_of_getLast? popped)).symm
  | umem fits => exact XdpTxPool.within_allocate wellFormed fits
  | wrapRxFrame wrapped =>
    simp only [XdpRxPool.wrapRxFrame] at wrapped
    split at wrapped
    · split at wrapped
      · cases wrapped
      · rename_i inside
        rw [not_or, Nat.not_lt, Nat.not_lt] at inside
        cases wrapped
        exact ⟨inside.1, Nat.le_add_right _ _, inside.2⟩
    · cases wrapped

end FastSocket.Xdp
