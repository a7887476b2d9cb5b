import FastSocket.Xdp.Egress
import FastSocket.Xdp.FrameFlow
import Mathlib.Data.List.Nodup
import Mathlib.Data.Nat.Log

/-!
# Opening sockets

A socket of its own UMEM, and the members of an aggregate that share one.  Every
socket starts with its receive frames in the FILL ring and its transmit frames
free.
-/

namespace FastSocket.Xdp

open Bits Packet Spsc

/-- The capacities of the four rings. -/
structure RingSizes where
  fill : Nat
  completion : Nat
  rx : Nat
  tx : Nat
deriving DecidableEq, Repr

def RingSizes.Valid (sizes : RingSizes) : Prop :=
  sizes.fill.isPowerOfTwo ∧ sizes.completion.isPowerOfTwo ∧ sizes.rx.isPowerOfTwo ∧
    sizes.tx.isPowerOfTwo

instance (sizes : RingSizes) : Decidable sizes.Valid :=
  inferInstanceAs (Decidable (_ ∧ _))

def nextPowerOfTwo (number : Nat) : Nat :=
  2 ^ Nat.clog 2 number

/-- What opening reads of a socket's configuration.  The frame size is rounded up to a
power of two when it is derived from the buffer layouts. -/
structure XdpSocketConfig where
  frameSize : Nat
  frameSize_pow : frameSize.isPowerOfTwo
  frameSize_lt : frameSize < 2 ^ 32
  frameCount : Nat
  frameCount_lt : frameCount < 2 ^ 32
  rings : RingSizes
  rxL2Headroom : Nat
  txDataOffset : Nat

namespace XdpSocketConfig

variable (config : XdpSocketConfig)

/-- The threshold and the interval of completion drains. -/
def txDrainHysteresis : Nat × Nat :=
  let completionThreshold := max (config.rings.completion / 2) 1
  let frameThreshold := max (config.frameCount / 2 / 2) 1
  let drainThreshold := min completionThreshold frameThreshold
  (drainThreshold, max (drainThreshold / 2) 1)

/-- The number of receive frames of a socket. -/
def rxFrames : Nat :=
  config.frameCount / 2

/-- A new socket whose frames start at the frame `base`. -/
def newSocket (umem : Umem) (completionReclaim : CompletionReclaim) (base : Nat)
    (rxRemoteCapacity txRemoteCapacity : Nat) : XdpSocket :=
  let preFill := (List.range' base config.rxFrames).map umem.frameOffset
  let txFrames := (List.range' (base + config.rxFrames) (config.frameCount - config.rxFrames)).map
    umem.frameOffset
  { umem := umem
    fill := (ProducerQueue.empty config.rings.fill).publish preFill
    rx := .empty config.rings.rx
    tx := .empty config.rings.tx
    completion := .empty config.rings.completion
    fillNeedWakeup := false
    txNeedWakeup := false
    rxReclaim := .withRemoteCapacity [] config.rxFrames rxRemoteCapacity
    txReclaim := .withRemoteCapacity txFrames txFrames.length txRemoteCapacity
    rxL2Headroom := config.rxL2Headroom
    txDataOffset := config.txDataOffset
    completionReclaim := completionReclaim
    txInFlight := 0
    txSinceCompletionDrain := 0
    txCompletionDrainThreshold := config.txDrainHysteresis.1
    txCompletionDrainInterval := config.txDrainHysteresis.2
    txWakePending := false
    kernelRx := []
    kernelTx := []
    held := []
    turns := []
    doorbells := 0 }

/-- The checks that every socket makes before it is used. -/
def Opens : Prop :=
  2 ≤ config.frameCount ∧ config.frameCount.isPowerOfTwo ∧ config.rings.Valid ∧
    config.rxFrames ≤ config.rings.fill

instance : Decidable config.Opens :=
  inferInstanceAs (Decidable (_ ∧ _))

/-- The UMEM of a single socket. -/
def umem : Umem :=
  { frameSize := config.frameSize, frameCount := config.frameCount
    frameSize_pow := config.frameSize_pow, frameSize_lt := config.frameSize_lt
    frameCount_lt := config.frameCount_lt }

/-- `LiveXdpState::open`. -/
def openLive : Option XdpSocket :=
  if config.Opens then
    let completionReclaim := .localSplit (config.umem.frameOffset config.rxFrames)
    let txFrames := config.frameCount - config.rxFrames
    some (config.newSocket config.umem completionReclaim 0 config.rxFrames txFrames)
  else
    none

/-- How completions of a shared UMEM are sorted, by the position in a member's slice. -/
def sharedMemberSlices (activeFrames : Nat) : CompletionReclaim :=
  .sharedMemberSlices (BitVec.ofNat 64 (config.frameCount * config.frameSize - 1))
    (BitVec.ofNat 64 (config.rxFrames * config.frameSize))
    (BitVec.ofNat 64 (activeFrames * config.frameSize))

/-- `LiveXdpState::open_shared_members`; the configured frame count is that of one
member. -/
def openSharedMembers (queues : List QueueId) : Option (List XdpSocket) :=
  let totalFrames := config.frameCount * queues.length
  if queues ≠ [] ∧ queues.Nodup ∧ config.Opens ∧ totalFrames < 2 ^ 32 then
    if fits : nextPowerOfTwo totalFrames < 2 ^ 32 then
      let umem : Umem :=
        { frameSize := config.frameSize, frameCount := nextPowerOfTwo totalFrames
          frameSize_pow := config.frameSize_pow, frameSize_lt := config.frameSize_lt
          frameCount_lt := fits }
      some ((List.range queues.length).map fun index =>
        config.newSocket umem (config.sharedMemberSlices totalFrames) (index * config.frameCount)
          totalFrames totalFrames)
    else
      none
  else
    none

end XdpSocketConfig

/-! ## The frames in use -/

/-- A UMEM, the number of its frames in use and how completions of them are sorted. -/
structure FrameLayout where
  umem : Umem
  reclaim : CompletionReclaim
  count : Nat
  count_le : count ≤ umem.frameCount
  valid : ∀ index < count, reclaim.isCorrupt umem.byteLen (umem.frameOffset index) = false

namespace FrameLayout

variable (layout : FrameLayout)

def frames : List Addr :=
  (List.range layout.count).map layout.umem.frameOffset

theorem nodup_frames : layout.frames.Nodup := by
  apply List.Nodup.map_on _ List.nodup_range
  intro first firstMem second secondMem equal
  have le := layout.count_le
  rw [List.mem_range] at firstMem secondMem
  exact layout.umem.frameOffset_inj (by omega) (by omega) equal

/-- Completions accept the frames in use. -/
theorem inUse_of_mem {frame : Addr} (member : frame ∈ layout.frames) :
    layout.umem.IsFrame frame ∧
      layout.reclaim.isCorrupt layout.umem.byteLen frame = false := by
  obtain ⟨index, inside, rfl⟩ := List.mem_map.mp member
  rw [List.mem_range] at inside
  have le := layout.count_le
  exact ⟨layout.umem.isFrame_frameOffset (by omega), layout.valid index inside⟩

/-- Completions are sorted by the position in slices of the given length. -/
def Slices (sliceLen rxFrames : Nat) : Prop :=
  ∀ index < layout.count, layout.reclaim.poolOf (layout.umem.frameOffset index) =
    if index % sliceLen < rxFrames then .rx else .tx

end FrameLayout

namespace XdpSocketConfig

variable {config : XdpSocketConfig}

theorem rxFrames_le : config.rxFrames ≤ config.frameCount :=
  Nat.div_le_self _ _

/-- A UMEM with the configured frame size. -/
def umemOf (config : XdpSocketConfig) (frameCount : Nat) (fits : frameCount < 2 ^ 32) : Umem :=
  { frameSize := config.frameSize, frameCount := frameCount
    frameSize_pow := config.frameSize_pow, frameSize_lt := config.frameSize_lt
    frameCount_lt := fits }

/-- The frames of a single socket. -/
def localLayout (config : XdpSocketConfig) : FrameLayout where
  umem := config.umem
  reclaim := .localSplit (config.umem.frameOffset config.rxFrames)
  count := config.frameCount
  count_le := Nat.le_refl _
  valid index inside := by
    have lt := (config.umem.isFrame_frameOffset inside).2
    simpa [CompletionReclaim.isCorrupt] using BitVec.not_le.mpr lt

theorem slices_localLayout (config : XdpSocketConfig) :
    config.localLayout.Slices config.frameCount config.rxFrames := by
  intro index inside
  change index < config.frameCount at inside
  have lt_iff := config.umem.frameOffset_lt_iff inside config.rxFrames_le
  change (if config.umem.frameOffset index < config.umem.frameOffset config.rxFrames then
    PoolKind.rx else .tx) = _
  rw [Nat.mod_eq_of_lt inside]
  exact if_congr lt_iff rfl rfl

theorem le_nextPowerOfTwo (number : Nat) : number ≤ nextPowerOfTwo number :=
  Nat.le_pow_clog (by decide) number

/-- Masking the bytes of a slice leaves the position of a frame in it. -/
theorem toNat_and_sliceMask (pow : config.frameCount.isPowerOfTwo) (umem : Umem)
    (sameSize : umem.frameSize = config.frameSize) (sliceLe : config.frameCount ≤ umem.frameCount)
    {index : Nat} (inside : index < umem.frameCount) :
    (umem.frameOffset index &&&
      BitVec.ofNat 64 (config.frameCount * config.frameSize - 1)).toNat =
      index % config.frameCount * config.frameSize := by
  obtain ⟨countLog, countPow⟩ := pow
  obtain ⟨sizeLog, sizePow⟩ := config.frameSize_pow
  have sliceBytes : config.frameCount * config.frameSize = 2 ^ (countLog + sizeLog) := by
    rw [countPow, sizePow, Nat.pow_add]
  have mask : (BitVec.ofNat 64 (config.frameCount * config.frameSize - 1)).toNat =
      2 ^ (countLog + sizeLog) - 1 := by
    have bytesLe := Nat.mul_le_mul_right umem.frameSize sliceLe
    have byteLen_lt := umem.byteLen_lt
    rw [sameSize] at bytesLe byteLen_lt
    rw [BitVec.toNat_ofNat, Nat.mod_eq_of_lt (by omega), sliceBytes]
  rw [BitVec.toNat_and, mask, Nat.and_two_pow_sub_one_eq_mod, umem.toNat_frameOffset inside,
    sameSize, ← sliceBytes, Nat.mul_mod_mul_right]

section Shared

variable {members : Nat} (fits : nextPowerOfTwo (config.frameCount * members) < 2 ^ 32)

/-- The frames of an aggregate of `members` sockets. -/
def sharedLayout : FrameLayout where
  umem := config.umemOf (nextPowerOfTwo (config.frameCount * members)) fits
  reclaim := config.sharedMemberSlices (config.frameCount * members)
  count := config.frameCount * members
  count_le := le_nextPowerOfTwo _
  valid index inside := by
    have le := le_nextPowerOfTwo (config.frameCount * members)
    have indexLt : index < nextPowerOfTwo (config.frameCount * members) := by omega
    have lt := ((config.umemOf _ fits).isFrame_frameOffset indexLt).2
    have active := ((config.umemOf _ fits).frameOffset_lt_iff indexLt le).mpr inside
    change (decide _ || decide _) = false
    rw [Bool.or_eq_false_iff, decide_eq_false_iff_not, decide_eq_false_iff_not]
    exact ⟨BitVec.not_le.mpr lt, BitVec.not_le.mpr active⟩

theorem slices_sharedLayout (pow : config.frameCount.isPowerOfTwo) :
    (sharedLayout fits).Slices config.frameCount config.rxFrames := by
  intro index inside
  change index < config.frameCount * members at inside
  have le := le_nextPowerOfTwo (config.frameCount * members)
  have indexLt : index < nextPowerOfTwo (config.frameCount * members) := by omega
  have members_pos : 0 < members := Nat.pos_of_mul_pos_left (Nat.zero_lt_of_lt inside)
  have sliceLe : config.frameCount ≤ nextPowerOfTwo (config.frameCount * members) :=
    le_trans (Nat.le_mul_of_pos_right _ members_pos) le
  have rxLe := le_trans config.rxFrames_le sliceLe
  have position := toNat_and_sliceMask pow (config.umemOf _ fits) rfl sliceLe indexLt
  have rxBytes : (BitVec.ofNat 64 (config.rxFrames * config.frameSize)).toNat =
      config.rxFrames * config.frameSize := (config.umemOf _ fits).toNat_ofNat_frames rxLe
  have lt_iff : (config.umemOf _ fits).frameOffset index &&&
      BitVec.ofNat 64 (config.frameCount * config.frameSize - 1) <
        BitVec.ofNat 64 (config.rxFrames * config.frameSize) ↔
      index % config.frameCount < config.rxFrames := by
    rw [BitVec.lt_def, position, rxBytes]
    exact Nat.mul_lt_mul_right (config.umemOf _ fits).frameSize_pos
  exact if_congr lt_iff rfl rfl

end Shared

end XdpSocketConfig

end FastSocket.Xdp
