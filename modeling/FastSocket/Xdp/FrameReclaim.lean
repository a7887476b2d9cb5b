import FastSocket.Xdp.Umem
import Mathlib.Algebra.Order.Group.Multiset

/-!
# Free frames

A pool keeps its free frames in a local vector and takes frames dropped on other
threads from a bounded queue.  Completed frames are written behind the vector's
end without a capacity check; the model records whether such a write was inside
the capacity.  A checked push may grow the vector: the model keeps the least
capacity that a growing vector is known to have.
-/

namespace FastSocket.Xdp

open Bits

/-- The free frames of a pool.  `inBounds` is false once an unchecked write was
outside the capacity of `free`. -/
structure FrameReclaim where
  free : List Addr
  capacity : Nat
  remote : List Addr
  remoteCapacity : Nat
  inBounds : Bool
deriving DecidableEq, Repr

namespace FrameReclaim

variable (reclaim : FrameReclaim)

def withRemoteCapacity (frames : List Addr) (capacity remoteCapacity : Nat) : FrameReclaim :=
  { free := frames, capacity := capacity, remote := [], remoteCapacity := max remoteCapacity 1
    inBounds := true }

/-- A drop on the owner thread. -/
def push (addr : Addr) : FrameReclaim :=
  { reclaim with
    free := reclaim.free ++ [addr]
    capacity := max reclaim.capacity (reclaim.free.length + 1) }

/-- A drop on another thread, which panics when the queue is full. -/
def pushRemote (addr : Addr) : Option FrameReclaim :=
  if reclaim.remote.length < reclaim.remoteCapacity then
    some { reclaim with remote := reclaim.remote ++ [addr] }
  else
    none

/-- Moves the frames dropped on other threads to the local vector. -/
def drainRemote : FrameReclaim :=
  { reclaim with
    free := reclaim.free ++ reclaim.remote
    capacity := max reclaim.capacity (reclaim.free.length + reclaim.remote.length)
    remote := [] }

/-- Pops up to `count` frames, the last one first. -/
def popMany (count : Nat) : FrameReclaim × List Addr :=
  let kept := reclaim.free.length - count
  ({ reclaim with free := reclaim.free.take kept }, (reclaim.free.drop kept).reverse)

/-- Pops up to `max` frames; frames of other threads are fetched when the local ones
do not suffice. -/
def popManyWith (max : Nat) : FrameReclaim × List Addr :=
  if max = 0 then
    (reclaim, [])
  else
    (if reclaim.free.length < max then reclaim.drainRemote else reclaim).popMany max

def isEmpty : FrameReclaim × Bool :=
  let reclaim := if reclaim.free.isEmpty then reclaim.drainRemote else reclaim
  (reclaim, reclaim.free.isEmpty)

/-- Takes all free frames. -/
def drainInto : FrameReclaim × List Addr :=
  ({ reclaim.drainRemote with free := [] }, reclaim.drainRemote.free)

/-- Writes a completed frame behind the end of the local vector. -/
def pushReclaimedFrameUnchecked (frameAddr : Addr) : FrameReclaim :=
  { reclaim with
    free := reclaim.free ++ [frameAddr]
    inBounds := reclaim.inBounds && decide (reclaim.free.length < reclaim.capacity) }

/-- Writes completed frames one after the other. -/
def reclaimAll (completed : List Addr) : FrameReclaim :=
  completed.foldl pushReclaimedFrameUnchecked reclaim

/-- All frames of the pool. -/
def frames : Multiset Addr :=
  ↑reclaim.free + ↑reclaim.remote

/-- A change without an unchecked write: the capacity may only grow. -/
structure Grows (before after : FrameReclaim) : Prop where
  capacity : before.capacity ≤ after.capacity
  inBounds : after.inBounds = before.inBounds

theorem Grows.refl : reclaim.Grows reclaim :=
  ⟨le_refl _, rfl⟩

theorem Grows.trans {first second third : FrameReclaim} (before : first.Grows second)
    (after : second.Grows third) : first.Grows third :=
  ⟨le_trans before.capacity after.capacity, after.inBounds.trans before.inBounds⟩

theorem grows_push (addr : Addr) : reclaim.Grows (reclaim.push addr) :=
  ⟨le_max_left _ _, rfl⟩

theorem grows_drainRemote : reclaim.Grows reclaim.drainRemote :=
  ⟨le_max_left _ _, rfl⟩

theorem grows_popManyWith (max : Nat) : reclaim.Grows (reclaim.popManyWith max).1 := by
  rw [popManyWith]
  split
  · exact .refl reclaim
  · split
    · exact reclaim.grows_drainRemote.trans ⟨le_refl _, rfl⟩
    · exact ⟨le_refl _, rfl⟩

theorem grows_isEmpty : reclaim.Grows reclaim.isEmpty.1 := by
  rw [isEmpty]
  dsimp only
  split
  · exact reclaim.grows_drainRemote
  · exact .refl reclaim

theorem grows_drainInto : reclaim.Grows reclaim.drainInto.1 :=
  reclaim.grows_drainRemote.trans ⟨le_refl _, rfl⟩

theorem grows_pushAll (frames : List Addr) : reclaim.Grows (frames.foldl push reclaim) := by
  induction frames generalizing reclaim with
  | nil => exact .refl reclaim
  | cons addr rest ih => exact (reclaim.grows_push addr).trans (ih _)

@[simp]
theorem frames_push (addr : Addr) : (reclaim.push addr).frames = reclaim.frames + {addr} := by
  rw [frames, frames, push, ← Multiset.coe_add, Multiset.coe_singleton, add_right_comm]

theorem pushRemote_spec {addr : Addr} {next : FrameReclaim}
    (pushed : reclaim.pushRemote addr = some next) :
    next.frames = reclaim.frames + {addr} ∧ reclaim.Grows next := by
  rw [pushRemote] at pushed
  split at pushed
  · cases pushed
    refine ⟨?_, le_refl _, rfl⟩
    rw [frames, frames, ← Multiset.coe_add, Multiset.coe_singleton, add_assoc]
  · cases pushed

@[simp]
theorem frames_drainRemote : reclaim.drainRemote.frames = reclaim.frames := by
  rw [frames, frames, drainRemote, ← Multiset.coe_add, Multiset.coe_nil, add_zero]

@[simp]
theorem frames_pushReclaimedFrameUnchecked (frameAddr : Addr) :
    (reclaim.pushReclaimedFrameUnchecked frameAddr).frames = reclaim.frames + {frameAddr} :=
  frames_push reclaim frameAddr

/-- What is popped and what is left are the frames before. -/
theorem frames_popMany (count : Nat) :
    (reclaim.popMany count).1.frames + ↑(reclaim.popMany count).2 = reclaim.frames := by
  rw [frames, frames, popMany, Multiset.coe_reverse, add_right_comm, Multiset.coe_add,
    List.take_append_drop]

theorem frames_popManyWith (max : Nat) :
    (reclaim.popManyWith max).1.frames + ↑(reclaim.popManyWith max).2 = reclaim.frames := by
  rw [popManyWith]
  split
  · exact add_zero _
  · rw [frames_popMany]
    split
    · exact frames_drainRemote reclaim
    · rfl

theorem length_popManyWith_le (max : Nat) : (reclaim.popManyWith max).2.length ≤ max := by
  rw [popManyWith]
  split
  · exact Nat.zero_le _
  · rw [popMany, List.length_reverse, List.length_drop]
    omega

/-- Nothing is popped from a pool without frames only. -/
theorem frames_eq_zero_of_popManyWith {max : Nat} (some : 0 < max)
    (none : (reclaim.popManyWith max).2 = []) : reclaim.frames = 0 := by
  rw [popManyWith, if_neg (by omega), popMany, List.reverse_eq_nil_iff,
    List.drop_eq_nil_iff] at none
  split at none
  · have empty : reclaim.free ++ reclaim.remote = [] := by
      apply List.eq_nil_of_length_eq_zero
      rw [drainRemote] at none
      dsimp only at none
      omega
    rw [frames, Multiset.coe_add, empty, Multiset.coe_nil]
  · omega

@[simp]
theorem frames_isEmpty : reclaim.isEmpty.1.frames = reclaim.frames := by
  rw [isEmpty]
  dsimp only
  split
  · exact frames_drainRemote reclaim
  · rfl

theorem frames_drainInto : reclaim.drainInto.1.frames + ↑reclaim.drainInto.2 = reclaim.frames := by
  change (↑([] : List Addr) + ↑([] : List Addr) + ↑(reclaim.free ++ reclaim.remote) :
    Multiset Addr) = reclaim.frames
  rw [← Multiset.coe_add, Multiset.coe_nil, zero_add, zero_add, frames]

theorem frames_pushAll (pushed : List Addr) :
    (pushed.foldl push reclaim).frames = reclaim.frames + ↑pushed := by
  induction pushed generalizing reclaim with
  | nil => exact (add_zero _).symm
  | cons addr rest ih =>
    rw [List.foldl_cons, ih, frames_push, add_assoc, ← Multiset.coe_singleton, Multiset.coe_add,
      List.singleton_append]

/-- Completed frames that fit the capacity are written inside it. -/
theorem reclaimAll_eq (completed : List Addr)
    (fits : reclaim.free.length + completed.length ≤ reclaim.capacity) :
    reclaim.reclaimAll completed = { reclaim with free := reclaim.free ++ completed } := by
  induction completed generalizing reclaim with
  | nil =>
    rw [reclaimAll, List.foldl_nil, List.append_nil]
  | cons frameAddr rest ih =>
    rw [List.length_cons] at fits
    have inside : reclaim.free.length < reclaim.capacity := by omega
    have step := ih (reclaim.pushReclaimedFrameUnchecked frameAddr) (by
      change (reclaim.free ++ [frameAddr]).length + rest.length ≤ reclaim.capacity
      rw [List.length_append, List.length_singleton]
      omega)
    rw [reclaimAll, List.foldl_cons, ← reclaimAll, step]
    simp [pushReclaimedFrameUnchecked, inside]

theorem free_reclaimAll (completed : List Addr) :
    (reclaim.reclaimAll completed).free = reclaim.free ++ completed := by
  induction completed generalizing reclaim with
  | nil => exact (List.append_nil _).symm
  | cons frameAddr rest ih =>
    rw [reclaimAll, List.foldl_cons, ← reclaimAll, ih, pushReclaimedFrameUnchecked,
      List.append_assoc, List.singleton_append]

@[simp]
theorem frames_reclaimAll (completed : List Addr) :
    (reclaim.reclaimAll completed).frames = reclaim.frames + ↑completed := by
  induction completed generalizing reclaim with
  | nil => exact (add_zero _).symm
  | cons frameAddr rest ih =>
    rw [reclaimAll, List.foldl_cons, ← reclaimAll, ih, frames_pushReclaimedFrameUnchecked,
      add_assoc, ← Multiset.coe_singleton, Multiset.coe_add, List.singleton_append]

@[simp]
theorem capacity_reclaimAll (completed : List Addr) :
    (reclaim.reclaimAll completed).capacity = reclaim.capacity := by
  induction completed generalizing reclaim with
  | nil => rfl
  | cons frameAddr rest ih => exact ih (reclaim.pushReclaimedFrameUnchecked frameAddr)

end FrameReclaim

/-! ## Completed frames -/

/-- The loop over completed addresses.  It stops at the first corrupt one and
reports it. -/
def reclaimLoop (frameMask : Addr) (isCorrupt isRx : Addr → Bool) :
    List Addr → FrameReclaim × FrameReclaim → (FrameReclaim × FrameReclaim) × Bool
  | [], pools => (pools, false)
  | addr :: rest, (rx, tx) =>
    let frameAddr := alignDown frameMask addr
    if isCorrupt frameAddr then
      ((rx, tx), true)
    else if isRx frameAddr then
      reclaimLoop frameMask isCorrupt isRx rest (rx.pushReclaimedFrameUnchecked frameAddr, tx)
    else
      reclaimLoop frameMask isCorrupt isRx rest (rx, tx.pushReclaimedFrameUnchecked frameAddr)

def reclaimLocalSplitCompletions (frameMask umemLen firstTxFrameAddr : Addr) :
    List Addr → FrameReclaim × FrameReclaim → (FrameReclaim × FrameReclaim) × Bool :=
  reclaimLoop frameMask (fun frameAddr => frameAddr ≥ umemLen)
    (fun frameAddr => frameAddr < firstTxFrameAddr)

/-- The vectors' lengths are set after the loop, which makes no difference to its
result. -/
def reclaimSharedMemberSliceCompletions
    (frameMask umemLen memberByteMask rxMemberByteLen activeByteLen : Addr) :
    List Addr → FrameReclaim × FrameReclaim → (FrameReclaim × FrameReclaim) × Bool :=
  reclaimLoop frameMask (fun frameAddr => frameAddr ≥ umemLen || frameAddr ≥ activeByteLen)
    (fun frameAddr => frameAddr &&& memberByteMask < rxMemberByteLen)

/-- Returns completed frames to the pools they belong to. -/
def CompletionReclaim.reclaim (umem : Umem) (completions : List Addr)
    (pools : FrameReclaim × FrameReclaim) :
    CompletionReclaim → (FrameReclaim × FrameReclaim) × Bool
  | .localSplit firstTxFrameAddr =>
    reclaimLocalSplitCompletions umem.frameMask umem.byteLen firstTxFrameAddr completions pools
  | .sharedMemberSlices memberByteMask rxMemberByteLen activeByteLen =>
    reclaimSharedMemberSliceCompletions umem.frameMask umem.byteLen memberByteMask
      rxMemberByteLen activeByteLen completions pools

theorem reclaimLoop_append (frameMask : Addr) (isCorrupt isRx : Addr → Bool)
    (first second : List Addr) (pools : FrameReclaim × FrameReclaim) :
    reclaimLoop frameMask isCorrupt isRx (first ++ second) pools =
      let reclaimed := reclaimLoop frameMask isCorrupt isRx first pools
      if reclaimed.2 then reclaimed
      else reclaimLoop frameMask isCorrupt isRx second reclaimed.1 := by
  induction first generalizing pools with
  | nil => rfl
  | cons addr rest ih =>
    rw [List.cons_append, reclaimLoop, reclaimLoop]
    dsimp only
    split
    · rfl
    · split
      · exact ih _
      · exact ih _

/-- Without a corrupt entry every completed frame goes back to one of the pools. -/
theorem reclaimLoop_of_valid {frameMask : Addr} {isCorrupt isRx : Addr → Bool}
    {completions : List Addr}
    (valid : ∀ addr ∈ completions, isCorrupt (alignDown frameMask addr) = false)
    (rx tx : FrameReclaim) :
    reclaimLoop frameMask isCorrupt isRx completions (rx, tx) =
      ((rx.reclaimAll ((completions.map (alignDown frameMask)).filter isRx),
        tx.reclaimAll ((completions.map (alignDown frameMask)).filter (!isRx ·))), false) := by
  induction completions generalizing rx tx with
  | nil => rfl
  | cons addr rest ih =>
    have restValid := fun other member => valid other (List.mem_cons_of_mem addr member)
    rw [reclaimLoop]
    simp only [valid addr List.mem_cons_self, Bool.false_eq_true, if_false, List.map_cons]
    cases pool : isRx (alignDown frameMask addr) with
    | true =>
      rw [if_pos rfl, ih restValid, List.filter_cons_of_pos pool,
        List.filter_cons_of_neg (by simp [pool])]
      rfl
    | false =>
      rw [if_neg Bool.false_ne_true, ih restValid, List.filter_cons_of_neg (by simp [pool]),
        List.filter_cons_of_pos (by simp [pool])]
      rfl

theorem CompletionReclaim.reclaim_eq (umem : Umem) (completions : List Addr)
    (pools : FrameReclaim × FrameReclaim) (kind : CompletionReclaim) :
    kind.reclaim umem completions pools =
      reclaimLoop umem.frameMask (kind.isCorrupt umem.byteLen)
        (fun frameAddr => kind.poolOf frameAddr = .rx) completions pools := by
  cases kind with
  | localSplit firstTxFrameAddr =>
    simp only [reclaim, reclaimLocalSplitCompletions, poolOf]
    congr 1
    funext frameAddr
    split <;> simp_all
  | sharedMemberSlices memberByteMask rxMemberByteLen activeByteLen =>
    simp only [reclaim, reclaimSharedMemberSliceCompletions, poolOf]
    congr 1
    funext frameAddr
    split <;> simp_all

end FastSocket.Xdp
