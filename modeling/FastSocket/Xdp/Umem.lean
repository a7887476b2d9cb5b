import FastSocket.Bits.Align

/-!
# UMEM frames

A UMEM is a power-of-two number of power-of-two sized frames.  Descriptors carry
byte addresses into it, and the frame of an address is found by clearing the
offset bits.  A completed frame goes back to the pool that its address belongs
to: the first half of the frames of a socket are receive frames, the second half
transmit frames.
-/

namespace FastSocket.Xdp

open Bits

/-- A UMEM-relative byte address. -/
abbrev Addr :=
  BitVec 64

/-- A packet descriptor of an RX or TX ring. -/
structure XdpDesc where
  addr : Addr
  len : Nat
  options : Nat
deriving DecidableEq, Repr

/-- The geometry of a UMEM. -/
structure Umem where
  frameSize : Nat
  frameCount : Nat
  frameSize_pow : frameSize.isPowerOfTwo
  frameSize_lt : frameSize < 2 ^ 32
  frameCount_lt : frameCount < 2 ^ 32

namespace Umem

/-- Four frames of 64 bytes. -/
def fourFrames : Umem where
  frameSize := 64
  frameCount := 4
  frameSize_pow := ⟨6, rfl⟩
  frameSize_lt := by decide
  frameCount_lt := by decide

variable (umem : Umem)

/-- The byte address of a frame. -/
def frameOffset (index : Nat) : Addr :=
  BitVec.ofNat 64 (index * umem.frameSize)

/-- The number of bytes of the frames, as an address. -/
def byteLen : Addr :=
  BitVec.ofNat 64 (umem.frameCount * umem.frameSize)

def frameMask : Addr :=
  BitVec.ofNat 64 (umem.frameSize - 1)

/-- The frame of an address, by clearing the offset bits. -/
def frameOf (addr : Addr) : Addr :=
  alignDown umem.frameMask addr

/-- The frame of an address that a descriptor carries, if there is one. -/
def frameAddrForDesc (addr : Addr) : Option Addr :=
  let frameSize := BitVec.ofNat 64 umem.frameSize
  let frameAddr := addr - addr % frameSize
  let frameIndex := frameAddr / frameSize
  if frameIndex < BitVec.ofNat 64 umem.frameCount then some frameAddr else none

/-- The byte range of a descriptor that lies inside one frame. -/
def validatedRange (addr : Addr) (len : Nat) : Option (Nat × Nat) := do
  let frameAddr ← umem.frameAddrForDesc addr
  let start := addr.toNat
  let stop := start + len
  let frameStart := frameAddr.toNat
  let frameEnd := frameStart + umem.frameSize
  if start < frameStart ∨ stop > frameEnd then none else some (start, stop)

/-- The frame of a descriptor and the byte range of its packet. -/
def descriptorSlice (addr : Addr) (len : Nat) : Option (Addr × Nat × Nat) := do
  let frameAddr ← umem.frameAddrForDesc addr
  let range ← umem.validatedRange addr len
  return (frameAddr, range)

def containsFrameAddr (frameAddr : Addr) : Bool :=
  umem.frameAddrForDesc frameAddr = some frameAddr

/-- The start of a frame of the UMEM. -/
def IsFrame (frame : Addr) : Prop :=
  umem.frameOf frame = frame ∧ frame < umem.byteLen

instance (frame : Addr) : Decidable (umem.IsFrame frame) :=
  inferInstanceAs (Decidable (_ ∧ _))

theorem frameSize_pos : 0 < umem.frameSize := by
  obtain ⟨k, pow⟩ := umem.frameSize_pow
  rw [pow]
  exact Nat.two_pow_pos k

theorem toNat_frameMask : umem.frameMask.toNat = umem.frameSize - 1 := by
  have lt := umem.frameSize_lt
  rw [frameMask, BitVec.toNat_ofNat, Nat.mod_eq_of_lt (by omega)]

/-- The bytes of the frames leave room for an offset inside one frame. -/
theorem byteLen_lt : umem.frameCount * umem.frameSize + umem.frameSize < 2 ^ 64 := by
  have sizeLt := umem.frameSize_lt
  have bound : umem.frameCount * umem.frameSize ≤ (2 ^ 32 - 1) * (2 ^ 32 - 1) :=
    Nat.mul_le_mul (Nat.le_sub_one_of_lt umem.frameCount_lt)
      (Nat.le_sub_one_of_lt umem.frameSize_lt)
  omega

theorem toNat_byteLen : umem.byteLen.toNat = umem.frameCount * umem.frameSize := by
  have lt := umem.byteLen_lt
  rw [byteLen, BitVec.toNat_ofNat, Nat.mod_eq_of_lt (by omega)]

theorem toNat_frameOf (addr : Addr) :
    (umem.frameOf addr).toNat = addr.toNat - addr.toNat % umem.frameSize := by
  obtain ⟨k, pow⟩ := umem.frameSize_pow
  have low : umem.frameMask.toNat = 2 ^ k - 1 := by rw [umem.toNat_frameMask, pow]
  rw [frameOf, toNat_alignDown low, pow]

@[simp]
theorem frameOf_frameOf (addr : Addr) : umem.frameOf (umem.frameOf addr) = umem.frameOf addr :=
  alignDown_alignDown _ _

theorem toNat_ofNat_frameSize : (BitVec.ofNat 64 umem.frameSize).toNat = umem.frameSize := by
  have lt := umem.frameSize_lt
  rw [BitVec.toNat_ofNat, Nat.mod_eq_of_lt (by omega)]

/-- The two ways to find a frame agree. -/
theorem sub_mod_eq_frameOf (addr : Addr) :
    addr - addr % BitVec.ofNat 64 umem.frameSize = umem.frameOf addr := by
  have le : addr % BitVec.ofNat 64 umem.frameSize ≤ addr := by
    rw [BitVec.le_def, BitVec.toNat_umod]
    exact Nat.mod_le _ _
  apply BitVec.eq_of_toNat_eq
  rw [BitVec.toNat_sub_of_le le, BitVec.toNat_umod, umem.toNat_ofNat_frameSize,
    umem.toNat_frameOf]

theorem frameAddrForDesc_eq (addr : Addr) :
    umem.frameAddrForDesc addr =
      if umem.frameOf addr < umem.byteLen then some (umem.frameOf addr) else none := by
  have toNat_count : (BitVec.ofNat 64 umem.frameCount).toNat = umem.frameCount := by
    have lt := umem.frameCount_lt
    rw [BitVec.toNat_ofNat, Nat.mod_eq_of_lt (by omega)]
  have inside : umem.frameOf addr / BitVec.ofNat 64 umem.frameSize <
      BitVec.ofNat 64 umem.frameCount ↔ umem.frameOf addr < umem.byteLen := by
    rw [BitVec.lt_def, BitVec.lt_def, BitVec.toNat_udiv, umem.toNat_ofNat_frameSize, toNat_count,
      umem.toNat_byteLen, Nat.div_lt_iff_lt_mul umem.frameSize_pos]
  rw [frameAddrForDesc]
  simp only [umem.sub_mod_eq_frameOf, inside]

variable {addr : Addr} {index count : Nat}

theorem descriptorSlice_fst {frameAddr : Addr} {len : Nat} {range : Nat × Nat}
    (sliced : umem.descriptorSlice addr len = some (frameAddr, range)) :
    frameAddr = umem.frameOf addr := by
  rw [descriptorSlice, umem.frameAddrForDesc_eq] at sliced
  split at sliced
  · simp only [Option.bind_eq_bind, Option.bind_some, Option.bind_eq_some_iff] at sliced
    obtain ⟨_, _, equal⟩ := sliced
    cases equal
    rfl
  · cases sliced

theorem frameAddrForDesc_of_isFrame (isFrame : umem.IsFrame (umem.frameOf addr)) :
    umem.frameAddrForDesc addr = some (umem.frameOf addr) := by
  rw [umem.frameAddrForDesc_eq, if_pos isFrame.2]

/-- An offset inside a frame does not change the frame. -/
theorem frameOf_add {frame : Addr} (isFrame : umem.IsFrame frame) {offset : Nat}
    (inside : offset < umem.frameSize) : umem.frameOf (frame + BitVec.ofNat 64 offset) = frame := by
  obtain ⟨k, pow⟩ := umem.frameSize_pow
  have low : umem.frameMask.toNat = 2 ^ k - 1 := by rw [umem.toNat_frameMask, pow]
  have sizeLt := umem.frameSize_lt
  have toNat_offset : (BitVec.ofNat 64 offset).toNat = offset := by
    rw [BitVec.toNat_ofNat, Nat.mod_eq_of_lt (by omega)]
  have frameLt : frame.toNat < umem.frameCount * umem.frameSize := by
    have lt := isFrame.2
    rwa [BitVec.lt_def, umem.toNat_byteLen] at lt
  have byteLen_lt := umem.byteLen_lt
  apply alignDown_add low isFrame.1
  · rw [toNat_offset, ← pow]
    exact inside
  · rw [toNat_offset]
    omega

theorem toNat_frameOffset (lt : index < umem.frameCount) :
    (umem.frameOffset index).toNat = index * umem.frameSize := by
  have inside := Nat.mul_lt_mul_of_pos_right lt umem.frameSize_pos
  have byteLen_lt := umem.byteLen_lt
  rw [frameOffset, BitVec.toNat_ofNat, Nat.mod_eq_of_lt (by omega)]

theorem isFrame_frameOffset (lt : index < umem.frameCount) :
    umem.IsFrame (umem.frameOffset index) := by
  constructor
  · apply BitVec.eq_of_toNat_eq
    rw [umem.toNat_frameOf, umem.toNat_frameOffset lt, Nat.mul_mod_left, Nat.sub_zero]
  · rw [BitVec.lt_def, umem.toNat_frameOffset lt, umem.toNat_byteLen]
    exact Nat.mul_lt_mul_of_pos_right lt umem.frameSize_pos

theorem toNat_ofNat_frames (le : count ≤ umem.frameCount) :
    (BitVec.ofNat 64 (count * umem.frameSize)).toNat = count * umem.frameSize := by
  have inside := Nat.mul_le_mul_right umem.frameSize le
  have byteLen_lt := umem.byteLen_lt
  rw [BitVec.toNat_ofNat, Nat.mod_eq_of_lt (by omega)]

/-- A frame lies in the bytes of the first frames exactly when it is one of them. -/
theorem frameOffset_lt_iff (inside : index < umem.frameCount) (le : count ≤ umem.frameCount) :
    umem.frameOffset index < BitVec.ofNat 64 (count * umem.frameSize) ↔ index < count := by
  rw [BitVec.lt_def, umem.toNat_frameOffset inside, umem.toNat_ofNat_frames le,
    Nat.mul_lt_mul_right umem.frameSize_pos]

theorem frameOffset_inj {first second : Nat} (firstLt : first < umem.frameCount)
    (secondLt : second < umem.frameCount)
    (equal : umem.frameOffset first = umem.frameOffset second) : first = second := by
  have toNat_equal := congrArg BitVec.toNat equal
  rw [umem.toNat_frameOffset firstLt, umem.toNat_frameOffset secondLt] at toNat_equal
  exact Nat.mul_right_cancel umem.frameSize_pos toNat_equal

end Umem

/-! ## Completed frames -/

/-- The two pools of a socket. -/
inductive PoolKind where
  | rx
  | tx
deriving DecidableEq, Repr

/-- How a socket sorts completed frames into its pools. -/
inductive CompletionReclaim where
  /-- The frames of one socket: receive frames first. -/
  | localSplit (firstTxFrameAddr : Addr)
  /-- The frames of several sockets, each with its receive frames first. -/
  | sharedMemberSlices (memberByteMask rxMemberByteLen activeByteLen : Addr)
deriving DecidableEq, Repr

namespace CompletionReclaim

/-- Whether a completed frame address is outside the frames in use. -/
def isCorrupt (umemLen : Addr) : CompletionReclaim → Addr → Bool
  | .localSplit _, frameAddr => frameAddr ≥ umemLen
  | .sharedMemberSlices _ _ activeByteLen, frameAddr =>
    frameAddr ≥ umemLen || frameAddr ≥ activeByteLen

/-- The pool that a completed frame goes back to. -/
def poolOf : CompletionReclaim → Addr → PoolKind
  | .localSplit firstTxFrameAddr, frameAddr =>
    if frameAddr < firstTxFrameAddr then .rx else .tx
  | .sharedMemberSlices memberByteMask rxMemberByteLen _, frameAddr =>
    if frameAddr &&& memberByteMask < rxMemberByteLen then .rx else .tx

end CompletionReclaim

end FastSocket.Xdp
