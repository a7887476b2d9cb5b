import FastSocket.Transition.Fallible
import Mathlib.Algebra.Group.Nat.Defs

/-!
# Buffer layouts

A layout divides a chunk of memory into link-layer headroom, public headroom, packet
bytes and tailroom.  Layouts are built by a constructor and a chain of changes, each of
which checks what it needs; a layout that would not fit its chunk stops the program.
-/

namespace FastSocket.Buffer

open Transition

/-- Why a layout is not built. -/
inductive LayoutPanic where
  /-- A sum does not fit the machine word. -/
  | overflow
  /-- `with_l2_headroom` violates alignment. -/
  | misaligned (dataOffset align : Nat)
  /-- `with_l2_headroom` invalidates a fixed chunk. -/
  | fixedChunk (chunkSize minimum : Nat)
  | notPowerOfTwo
  | noSegments
  /-- The chunk of `with_fixed_chunk` is smaller than the layout minimum. -/
  | chunkTooSmall (chunkSize minimum : Nat)
  /-- The stride of `with_fixed_chunk` is smaller than the chunk size. -/
  | strideTooSmall (stride chunkSize : Nat)
deriving DecidableEq, Repr

/-- A sum of machine words. -/
def addUsize (left right : Nat) : Except LayoutPanic Nat :=
  if left + right < 2 ^ 64 then .ok (left + right) else .error .overflow

structure BufferLayout where
  payloadCapacity : Nat
  headroom : Nat
  tailroom : Nat
  chunkSize : Nat
  dataOffset : Nat
  align : Nat
  stride : Nat
  maxSegments : Nat
  l2Headroom : Nat
  chunkFixed : Bool
deriving DecidableEq, Repr

namespace BufferLayout

def withHeadroomAndTailroom (payloadCapacity headroom tailroom : Nat) :
    Except LayoutPanic BufferLayout := do
  let data ← addUsize headroom payloadCapacity
  let chunkSize ← addUsize data tailroom
  return {
    payloadCapacity := payloadCapacity
    headroom := headroom
    tailroom := tailroom
    chunkSize := chunkSize
    dataOffset := headroom
    align := 1
    stride := chunkSize
    maxSegments := 1
    l2Headroom := 0
    chunkFixed := false }

def new (payloadCapacity : Nat) : Except LayoutPanic BufferLayout :=
  withHeadroomAndTailroom payloadCapacity 0 0

def packetCapacityFloor : Nat := 2048

def forPayload (payloadCapacity : Nat) : Except LayoutPanic BufferLayout :=
  new (max payloadCapacity packetCapacityFloor)

variable (layout : BufferLayout)

def minimumChunkSize : Except LayoutPanic Nat := do
  let data ← addUsize layout.dataOffset layout.payloadCapacity
  addUsize data layout.tailroom

/-- Changes the link-layer headroom.  A chunk that is not fixed grows or shrinks with it. -/
def withL2Headroom (l2Headroom : Nat) : Except LayoutPanic BufferLayout := do
  let dataOffset ← addUsize l2Headroom layout.headroom
  let layout := { layout with l2Headroom := l2Headroom, dataOffset := dataOffset }
  ensure (dataOffset % layout.align = 0) (.misaligned dataOffset layout.align)
  let minimum ← layout.minimumChunkSize
  if layout.chunkFixed then
    ensure (minimum ≤ layout.chunkSize) (.fixedChunk layout.chunkSize minimum)
    return layout
  else
    return { layout with chunkSize := minimum, stride := minimum }

/-- Changes the alignment, a non-zero number. -/
def withAlignment (align : Nat) : Except LayoutPanic BufferLayout := do
  ensure (2 ^ align.log2 = align) .notPowerOfTwo
  return { layout with align := align }

def withMaxSegments (maxSegments : Nat) : Except LayoutPanic BufferLayout := do
  ensure (1 ≤ maxSegments) .noSegments
  return { layout with maxSegments := maxSegments }

def withFixedChunk (chunkSize stride : Nat) : Except LayoutPanic BufferLayout := do
  let minimum ← layout.minimumChunkSize
  ensure (minimum ≤ chunkSize) (.chunkTooSmall chunkSize minimum)
  ensure (chunkSize ≤ stride) (.strideTooSmall stride chunkSize)
  return { layout with chunkSize := chunkSize, stride := stride, chunkFixed := true }

/-- The length of the memory of one packet. -/
def allocationLen : Nat :=
  layout.chunkSize

/-- The layouts that the constructors and changes give. -/
inductive Constructed : BufferLayout → Prop
  | new {payloadCapacity : Nat} {layout : BufferLayout}
      (built : BufferLayout.new payloadCapacity = .ok layout) : Constructed layout
  | forPayload {payloadCapacity : Nat} {layout : BufferLayout}
      (built : BufferLayout.forPayload payloadCapacity = .ok layout) : Constructed layout
  | withHeadroomAndTailroom {payloadCapacity headroom tailroom : Nat} {layout : BufferLayout}
      (built : BufferLayout.withHeadroomAndTailroom payloadCapacity headroom tailroom =
        .ok layout) : Constructed layout
  | withL2Headroom {layout next : BufferLayout} {l2Headroom : Nat} (before : Constructed layout)
      (built : layout.withL2Headroom l2Headroom = .ok next) : Constructed next
  | withAlignment {layout next : BufferLayout} {align : Nat} (before : Constructed layout)
      (built : layout.withAlignment align = .ok next) : Constructed next
  | withMaxSegments {layout next : BufferLayout} {maxSegments : Nat} (before : Constructed layout)
      (built : layout.withMaxSegments maxSegments = .ok next) : Constructed next
  | withFixedChunk {layout next : BufferLayout} {chunkSize stride : Nat}
      (before : Constructed layout)
      (built : layout.withFixedChunk chunkSize stride = .ok next) : Constructed next

/-! ## What every layout keeps -/

/-- The facts that the fields of a layout share. -/
structure WellFormed (layout : BufferLayout) : Prop where
  dataOffset_eq : layout.dataOffset = layout.l2Headroom + layout.headroom
  fits : layout.dataOffset + layout.payloadCapacity + layout.tailroom ≤ layout.chunkSize
  stride : layout.chunkSize ≤ layout.stride

theorem addUsize_eq_ok {left right sum : Nat} (added : addUsize left right = .ok sum) :
    sum = left + right := by
  rw [addUsize] at added
  split at added
  · cases added
    rfl
  · cases added

variable {layout}

theorem minimumChunkSize_eq_ok {minimum : Nat} (isMinimum : layout.minimumChunkSize = .ok minimum) :
    minimum = layout.dataOffset + layout.payloadCapacity + layout.tailroom := by
  obtain ⟨data, isData, isMinimum⟩ := bind_eq_ok_iff.mp isMinimum
  rw [addUsize_eq_ok isMinimum, addUsize_eq_ok isData]

theorem wellFormed_withHeadroomAndTailroom {payloadCapacity headroom tailroom : Nat}
    (built : withHeadroomAndTailroom payloadCapacity headroom tailroom = .ok layout) :
    layout.WellFormed := by
  obtain ⟨data, isData, built⟩ := bind_eq_ok_iff.mp built
  obtain ⟨chunkSize, isChunk, built⟩ := bind_eq_ok_iff.mp built
  cases built
  constructor
  · exact (Nat.zero_add headroom).symm
  · exact Nat.le_of_eq (by rw [addUsize_eq_ok isChunk, addUsize_eq_ok isData])
  · exact Nat.le_refl _

variable {next : BufferLayout}

theorem wellFormed_withL2Headroom {l2Headroom : Nat} (wellFormed : layout.WellFormed)
    (built : layout.withL2Headroom l2Headroom = .ok next) : next.WellFormed := by
  obtain ⟨dataOffset, isOffset, built⟩ := bind_eq_ok_iff.mp built
  obtain ⟨_, _, built⟩ := bind_eq_ok_iff.mp built
  obtain ⟨minimum, isMinimum, built⟩ := bind_eq_ok_iff.mp built
  have offset := addUsize_eq_ok isOffset
  have least := minimumChunkSize_eq_ok isMinimum
  split at built
  · obtain ⟨_, fits, built⟩ := bind_eq_ok_iff.mp built
    cases built
    rw [ensure_eq_ok, least] at fits
    exact ⟨offset, fits, wellFormed.stride⟩
  · cases built
    exact ⟨offset, Nat.le_of_eq least.symm, Nat.le_refl _⟩

theorem wellFormed_withFixedChunk {chunkSize stride : Nat} (wellFormed : layout.WellFormed)
    (built : layout.withFixedChunk chunkSize stride = .ok next) : next.WellFormed := by
  obtain ⟨minimum, isMinimum, built⟩ := bind_eq_ok_iff.mp built
  obtain ⟨_, fits, built⟩ := bind_eq_ok_iff.mp built
  obtain ⟨_, strides, built⟩ := bind_eq_ok_iff.mp built
  cases built
  rw [ensure_eq_ok] at fits strides
  rw [minimumChunkSize_eq_ok isMinimum] at fits
  exact ⟨wellFormed.dataOffset_eq, fits, strides⟩

theorem Constructed.wellFormed (constructed : Constructed layout) : layout.WellFormed := by
  induction constructed with
  | new built => exact wellFormed_withHeadroomAndTailroom built
  | forPayload built => exact wellFormed_withHeadroomAndTailroom built
  | withHeadroomAndTailroom built => exact wellFormed_withHeadroomAndTailroom built
  | withL2Headroom _ built ih => exact wellFormed_withL2Headroom ih built
  | withAlignment _ built ih =>
    obtain ⟨_, _, built⟩ := bind_eq_ok_iff.mp built
    cases built
    exact ⟨ih.dataOffset_eq, ih.fits, ih.stride⟩
  | withMaxSegments _ built ih =>
    obtain ⟨_, _, built⟩ := bind_eq_ok_iff.mp built
    cases built
    exact ⟨ih.dataOffset_eq, ih.fits, ih.stride⟩
  | withFixedChunk _ built ih => exact wellFormed_withFixedChunk ih built

/-- The packet starts behind the link-layer headroom and inside the chunk. -/
theorem WellFormed.dataOffset_bounds (wellFormed : layout.WellFormed) :
    layout.l2Headroom ≤ layout.dataOffset ∧
      layout.dataOffset + layout.payloadCapacity ≤ layout.chunkSize := by
  have fits := wellFormed.fits
  rw [wellFormed.dataOffset_eq] at fits ⊢
  omega

end BufferLayout

end FastSocket.Buffer
