import FastSocket.Xdp.CorruptCompletions
import FastSocket.Xdp.FrameConservation
import FastSocket.Xdp.SharedOpen

/-!
# Completions of a shared UMEM

Completions are sorted with masks on byte addresses, while opening splits the frames by
index arithmetic per member.  Both agree on every frame in use, and an address is corrupt
exactly when it lies behind them.
-/

namespace FastSocket.Xdp

open Bits Packet Spsc

variable {number : Nat}

/-- Half of a power of two that is at least two is a power of two. -/
theorem isPowerOfTwo_half (pow : number.isPowerOfTwo) (two : 2 ≤ number) :
    (number / 2).isPowerOfTwo := by
  obtain ⟨log, rfl⟩ := pow
  cases log with
  | zero => omega
  | succ log => exact ⟨log, by rw [Nat.pow_succ, Nat.mul_div_cancel _ (by decide)]⟩

theorem nextPowerOfTwo_lt (lt : number < 2 ^ 31) : nextPowerOfTwo number < 2 ^ 32 := by
  have le : nextPowerOfTwo number ≤ 2 ^ 31 :=
    Nat.pow_le_pow_right (by decide) (Nat.clog_le_of_le_pow (by omega))
  omega

/-- An address whose frame starts in front of a frame boundary lies in front of it. -/
theorem Umem.toNat_frameOf_lt_iff (umem : Umem) (addr : Addr) (count : Nat) :
    (umem.frameOf addr).toNat < count * umem.frameSize ↔
      addr.toNat < count * umem.frameSize := by
  rw [umem.toNat_frameOf, ← Nat.div_lt_iff_lt_mul umem.frameSize_pos,
    ← Nat.div_lt_iff_lt_mul umem.frameSize_pos, ← Nat.div_mul_self_eq_mod_sub_self,
    Nat.mul_div_cancel _ umem.frameSize_pos]

/-- Reclaiming one completion. -/
theorem CompletionReclaim.reclaim_singleton (kind : CompletionReclaim) (umem : Umem) (addr : Addr)
    (rx tx : FrameReclaim) :
    kind.reclaim umem [addr] (rx, tx) =
      if kind.isCorrupt umem.byteLen (umem.frameOf addr) then ((rx, tx), true)
      else if kind.poolOf (umem.frameOf addr) = .rx then
        ((rx.pushReclaimedFrameUnchecked (umem.frameOf addr), tx), false)
      else
        ((rx, tx.pushReclaimedFrameUnchecked (umem.frameOf addr)), false) := by
  rw [reclaim_eq, reclaimLoop]
  simp only [reclaimLoop, decide_eq_true_eq]
  rfl

namespace XdpSocketConfig

variable {config : XdpSocketConfig} {members : Nat}

/-- The checks of the constructor pass for the slices of an aggregate. -/
theorem ofMemberSlices_eq (two : 2 ≤ config.frameCount) (pow : config.frameCount.isPowerOfTwo)
    (activeFrames : Nat) :
    CompletionReclaim.ofMemberSlices config.frameSize config.frameCount (config.frameCount / 2)
      activeFrames = .ok (config.sharedMemberSlices activeFrames) := by
  have half := isPowerOfTwo_half pow two
  rw [CompletionReclaim.ofMemberSlices, if_neg (not_not_intro config.frameSize_pow), if_neg,
    if_neg, if_neg]
  · rfl
  · omega
  · rintro (zero | notPow)
    · omega
    · exact notPow half
  · rintro (zero | notPow)
    · omega
    · exact notPow pow

section Shared

variable (fits : nextPowerOfTwo (config.frameCount * members) < 2 ^ 32)

/-- The frames that fill the FILL ring of a member of an aggregate. -/
def memberPreFill (member : Nat) : List Addr :=
  frameRange (sharedLayout fits) (member * config.frameCount) config.rxFrames

/-- The frames that a member of an aggregate can transmit from at first. -/
def memberTxFrames (member : Nat) : List Addr :=
  frameRange (sharedLayout fits) (member * config.frameCount + config.rxFrames)
    (config.frameCount - config.rxFrames)

variable {member index : Nat}

/-- The members open with these frames and with the completions of their aggregate. -/
theorem openSharedMembers_frames {queues : List QueueId} {sockets : List XdpSocket}
    (opened : config.openSharedMembers queues = some sockets)
    (fits : nextPowerOfTwo (config.frameCount * queues.length) < 2 ^ 32) {socket : XdpSocket}
    (found : sockets[member]? = some socket) :
    member < queues.length ∧ socket.fill.entries = memberPreFill fits member ∧
      socket.txReclaim.free = memberTxFrames fits member ∧
      socket.umem = (sharedLayout fits).umem ∧
      socket.completionReclaim = config.sharedMemberSlices (config.frameCount * queues.length) := by
  rw [openSharedMembers] at opened
  obtain ⟨⟨_, _, opens, _⟩, opened⟩ := Option.ite_none_right_eq_some.mp opened
  rw [dif_pos fits] at opened
  cases opened
  rw [List.getElem?_map, Option.map_eq_some_iff] at found
  obtain ⟨index, inside, rfl⟩ := found
  obtain ⟨lt, rfl⟩ := List.getElem?_eq_some_iff.mp inside
  rw [List.length_range] at lt
  rw [List.getElem_range]
  have filled : (config.newMember (sharedLayout fits) (member * config.frameCount)
      (config.frameCount * queues.length) (config.frameCount * queues.length)).fill.entries =
      memberPreFill fits member := entries_fill_newMember opens
  exact ⟨lt, filled, rfl, rfl, rfl⟩

/-- The frame of a position in a member's slice has its index there. -/
theorem index_of_mem_frameRange (start : Nat) {count : Nat} (isMember : member < members)
    (inside : index < config.frameCount * members) (within : start + count ≤ config.frameCount)
    (isFrame : (sharedLayout fits).umem.frameOffset index ∈
      frameRange (sharedLayout fits) (member * config.frameCount + start) count) :
    start ≤ index % config.frameCount ∧ index % config.frameCount < start + count := by
  have sliceLe : member * config.frameCount + config.frameCount ≤ config.frameCount * members := by
    rw [← Nat.succ_mul, Nat.mul_comm]
    exact Nat.mul_le_mul_left _ isMember
  have countLe : config.frameCount * members ≤ (sharedLayout fits).umem.frameCount :=
    (sharedLayout fits).count_le
  obtain ⟨other, le, lt, equal⟩ := mem_frameRange isFrame
  obtain rfl := (sharedLayout fits).umem.frameOffset_inj (by omega) (by omega) equal
  rw [mod_frameCount (Nat.dvd_mul_left _ member) (by omega) (by omega)]
  omega

/-- An address is corrupt exactly when it lies behind the frames in use. -/
theorem isCorrupt_frameOf_iff (addr : Addr) :
    (config.sharedMemberSlices (config.frameCount * members)).isCorrupt
        (sharedLayout fits).umem.byteLen ((sharedLayout fits).umem.frameOf addr) = true ↔
      config.frameCount * members * config.frameSize ≤ addr.toNat := by
  let umem := (sharedLayout fits).umem
  have countLe : config.frameCount * members ≤ umem.frameCount := (sharedLayout fits).count_le
  have bytesLe : config.frameCount * members * umem.frameSize ≤ umem.frameCount * umem.frameSize :=
    Nat.mul_le_mul_right _ countLe
  have active : (umem.frameOf addr).toNat < config.frameCount * members * umem.frameSize ↔ _ :=
    umem.toNat_frameOf_lt_iff addr (config.frameCount * members)
  change (decide (umem.frameOf addr ≥ umem.byteLen) || decide (umem.frameOf addr ≥
    BitVec.ofNat 64 (config.frameCount * members * umem.frameSize))) = true ↔
      config.frameCount * members * umem.frameSize ≤ addr.toNat
  rw [Bool.or_eq_true, decide_eq_true_eq, decide_eq_true_eq, ge_iff_le, ge_iff_le, BitVec.le_def,
    BitVec.le_def, umem.toNat_byteLen, umem.toNat_ofNat_frames countLe]
  omega

theorem reclaim_corrupt_iff (addr : Addr) (rx tx : FrameReclaim) :
    ((config.sharedMemberSlices (config.frameCount * members)).reclaim (sharedLayout fits).umem
        [addr] (rx, tx)).2 = true ↔
      config.frameCount * members * config.frameSize ≤ addr.toNat := by
  rw [← isCorrupt_frameOf_iff fits addr, CompletionReclaim.reclaim_singleton]
  split
  case isTrue corrupt => simp [corrupt]
  case isFalse valid =>
    split
    · simp [valid]
    · simp [valid]

/-- An address inside a frame in use is not corrupt, and its frame goes to the pool of its
position. -/
theorem reclaim_inside (pow : config.frameCount.isPowerOfTwo) {offset : Nat}
    (inside : index < config.frameCount * members) (within : offset < config.frameSize)
    (rx tx : FrameReclaim) :
    (config.sharedMemberSlices (config.frameCount * members)).reclaim (sharedLayout fits).umem
        [BitVec.ofNat 64 (index * config.frameSize + offset)] (rx, tx) =
      if index % config.frameCount < config.rxFrames then
        ((rx.pushReclaimedFrameUnchecked (BitVec.ofNat 64 (index * config.frameSize)), tx), false)
      else
        ((rx, tx.pushReclaimedFrameUnchecked (BitVec.ofNat 64 (index * config.frameSize))),
          false) := by
  have indexLt : index < (sharedLayout fits).umem.frameCount :=
    lt_of_lt_of_le inside (sharedLayout fits).count_le
  have isFrame := (sharedLayout fits).umem.isFrame_frameOffset indexLt
  have frame : (sharedLayout fits).umem.frameOf
      (BitVec.ofNat 64 (index * config.frameSize + offset)) =
      BitVec.ofNat 64 (index * config.frameSize) := by
    rw [BitVec.ofNat_add]
    exact (sharedLayout fits).umem.frameOf_add isFrame within
  have valid : (config.sharedMemberSlices (config.frameCount * members)).isCorrupt
      (sharedLayout fits).umem.byteLen (BitVec.ofNat 64 (index * config.frameSize)) = false :=
    (sharedLayout fits).valid index inside
  have pool : (config.sharedMemberSlices (config.frameCount * members)).poolOf
      (BitVec.ofNat 64 (index * config.frameSize)) =
      if index % config.frameCount < config.rxFrames then .rx else .tx :=
    slices_sharedLayout fits pow index inside
  rw [CompletionReclaim.reclaim_singleton, frame, valid, if_neg Bool.false_ne_true, pool]
  by_cases first : index % config.frameCount < config.rxFrames
  · rw [if_pos first, if_pos first, if_pos rfl]
  · rw [if_neg first, if_neg first, if_neg (by decide)]

end Shared

/-- Every completion inside a frame of an aggregate returns that frame to the RX pool when
it filled a FILL ring at opening, and to the TX pool when it was a transmit frame.  A
completion is corrupt exactly when it lies at or behind the end of the members' frames. -/
theorem shared_completions_match_split (config : XdpSocketConfig) (two : 2 ≤ config.frameCount)
    (pow : config.frameCount.isPowerOfTwo) (members : Nat)
    (few : config.frameCount * members < 2 ^ 31) (rx tx : FrameReclaim) :
    ∃ (fits : nextPowerOfTwo (config.frameCount * members) < 2 ^ 32)
      (memberByteMask rxMemberByteLen activeByteLen : Addr),
      CompletionReclaim.ofMemberSlices config.frameSize config.frameCount (config.frameCount / 2)
        (config.frameCount * members) =
          .ok (.sharedMemberSlices memberByteMask rxMemberByteLen activeByteLen) ∧
      let umem := config.umemOf (nextPowerOfTwo (config.frameCount * members)) fits
      let reclaim := fun addr => reclaimSharedMemberSliceCompletions umem.frameMask umem.byteLen
        memberByteMask rxMemberByteLen activeByteLen [addr] (rx, tx)
      (∀ (queues : List QueueId) (sockets : List XdpSocket), queues.length = members →
        config.openSharedMembers queues = some sockets →
        ∀ (member : Nat) (socket : XdpSocket), sockets[member]? = some socket → member < members ∧
          socket.fill.entries = memberPreFill fits member ∧
          socket.txReclaim.free = memberTxFrames fits member ∧ socket.umem = umem ∧
          socket.completionReclaim =
            .sharedMemberSlices memberByteMask rxMemberByteLen activeByteLen) ∧
      (∀ index < config.frameCount * members, ∀ offset < config.frameSize,
        let addr := BitVec.ofNat 64 (index * config.frameSize + offset)
        let frame := BitVec.ofNat 64 (index * config.frameSize)
        ((∃ member < members, frame ∈ memberPreFill fits member) →
          reclaim addr = ((rx.pushReclaimedFrameUnchecked frame, tx), false)) ∧
        ((∃ member < members, frame ∈ memberTxFrames fits member) →
          reclaim addr = ((rx, tx.pushReclaimedFrameUnchecked frame), false))) ∧
      ∀ addr : Addr, (reclaim addr).2 = true ↔
        config.frameCount * members * config.frameSize ≤ addr.toNat := by
  have rxLe := config.rxFrames_le
  refine ⟨nextPowerOfTwo_lt few, _, _, _, ofMemberSlices_eq two pow _, ?_, ?_, ?_⟩
  · rintro queues sockets rfl opened member socket found
    exact openSharedMembers_frames opened (nextPowerOfTwo_lt few) found
  · intro index inside offset within
    have reclaimed := reclaim_inside (nextPowerOfTwo_lt few) pow inside within rx tx
    constructor
    · rintro ⟨member, isMember, isFrame⟩
      have position := index_of_mem_frameRange (nextPowerOfTwo_lt few) 0 isMember inside
        (by omega) isFrame
      rwa [if_pos (by omega)] at reclaimed
    · rintro ⟨member, isMember, isFrame⟩
      have position := index_of_mem_frameRange (nextPowerOfTwo_lt few) config.rxFrames isMember
        inside (by omega) isFrame
      rwa [if_neg (by omega)] at reclaimed
  · intro addr
    exact reclaim_corrupt_iff (nextPowerOfTwo_lt few) addr rx tx

/-- Frame 9 fills the FILL ring of the last of three members with four frames each, and
frame 12 is behind their frames. -/
theorem shared_completions_match_split_three :
    ∃ (fits : nextPowerOfTwo (4 * 3) < 2 ^ 32)
      (memberByteMask rxMemberByteLen activeByteLen : Addr),
      CompletionReclaim.ofMemberSlices 64 4 2 12 =
        .ok (.sharedMemberSlices memberByteMask rxMemberByteLen activeByteLen) ∧
      let umem := fourFramesConfig.umemOf (nextPowerOfTwo (4 * 3)) fits
      let rx := FrameReclaim.withRemoteCapacity [] 2 12
      let tx := FrameReclaim.withRemoteCapacity [] 2 12
      let reclaim := fun addr => reclaimSharedMemberSliceCompletions umem.frameMask umem.byteLen
        memberByteMask rxMemberByteLen activeByteLen [addr] (rx, tx)
      reclaim 581#64 = ((rx.pushReclaimedFrameUnchecked 576#64, tx), false) ∧
        (reclaim 768#64).2 = true := by
  obtain ⟨fits, memberByteMask, rxMemberByteLen, activeByteLen, made, _, sorted, corrupt⟩ :=
    shared_completions_match_split fourFramesConfig (by decide) ⟨2, rfl⟩ 3 (by decide)
      (.withRemoteCapacity [] 2 12) (.withRemoteCapacity [] 2 12)
  have filled : 576#64 ∈ memberPreFill fits 2 := List.mem_map.mpr ⟨9, by decide, rfl⟩
  exact ⟨fits, memberByteMask, rxMemberByteLen, activeByteLen, made,
    (sorted 9 (by decide) 5 (by decide)).1 ⟨2, by decide, filled⟩,
    (corrupt 768#64).mpr (by decide)⟩

end XdpSocketConfig

end FastSocket.Xdp
