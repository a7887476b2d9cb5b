import FastSocket.Xdp.OpenSocket
import Mathlib.Data.List.TakeWhile

/-!
# Corrupt completions

A drain of the COMPLETION ring reclaims completed frames up to the first entry that does
not lie in a frame in use.  It releases the whole range all the same, and leaves the
count of frames in flight as it was.
-/

namespace FastSocket.Xdp

open Packet Spsc Bits

/-- What passes a test stands in front of what does not, when nothing that passes stands
behind something that does not. -/
theorem filter_eq_takeWhile_iff {α : Type*} (test : α → Bool) (entries : List α) :
    entries.filter test = entries.takeWhile test ↔
      entries.Pairwise fun earlier later => test later → test earlier := by
  induction entries with
  | nil => simp
  | cons entry rest ih =>
    rw [List.pairwise_cons]
    by_cases passes : test entry
    · rw [List.filter_cons_of_pos passes, List.takeWhile_cons_of_pos passes, List.cons.injEq, ih]
      simp [passes]
    · rw [List.filter_cons_of_neg passes, List.takeWhile_cons_of_neg passes,
        List.filter_eq_nil_iff]
      constructor
      · intro fails
        constructor
        · intro later member passesLater
          exact absurd passesLater (fails later member)
        · apply List.Pairwise.imp_of_mem _ (List.pairwise_of_forall fun _ _ => trivial)
          · intro _ later _ member _ passesLater
            exact absurd passesLater (fails later member)
      · intro ordered later member passesLater
        exact passes (ordered.1 later member passesLater)

/-- The loop reclaims the frames in front of the first corrupt one. -/
theorem reclaimLoop_eq {frameMask : Addr} {isCorrupt isRx : Addr → Bool}
    (completions : List Addr) (rx tx : FrameReclaim) :
    let valid := (completions.map (alignDown frameMask)).takeWhile (!isCorrupt ·)
    reclaimLoop frameMask isCorrupt isRx completions (rx, tx) =
      ((rx.reclaimAll (valid.filter isRx), tx.reclaimAll (valid.filter (!isRx ·))),
        (completions.map (alignDown frameMask)).any isCorrupt) := by
  induction completions generalizing rx tx with
  | nil => rfl
  | cons addr rest ih =>
    intro valid
    rw [reclaimLoop]
    simp only [valid, List.map_cons]
    cases corrupt : isCorrupt (alignDown frameMask addr) with
    | true =>
      rw [if_pos rfl, List.takeWhile_cons_of_neg (by simp [corrupt]), List.any_cons, corrupt]
      rfl
    | false =>
      rw [if_neg Bool.false_ne_true, List.takeWhile_cons_of_pos (by simp [corrupt]),
        List.any_cons, corrupt, Bool.false_or]
      cases pool : isRx (alignDown frameMask addr) with
      | true =>
        rw [if_pos rfl, ih, List.filter_cons_of_pos pool,
          List.filter_cons_of_neg (by simp [pool])]
        rfl
      | false =>
        rw [if_neg Bool.false_ne_true, ih, List.filter_cons_of_neg (by simp [pool]),
          List.filter_cons_of_pos (by simp [pool])]
        rfl

namespace XdpSocket

variable (socket : XdpSocket)

/-- The frames that the entries of a drained range name. -/
def drainedFrames : List Addr :=
  (socket.completion.sync.consumeMany socket.completion.capacity).2.map socket.umem.frameOf

/-- A completed frame that is not in use. -/
def isCorruptFrame (frame : Addr) : Bool :=
  socket.completionReclaim.isCorrupt socket.umem.byteLen frame

/-- The free frames of both pools. -/
def freeFrames : Multiset Addr :=
  ↑socket.rxReclaim.free + ↑socket.txReclaim.free

/-- The frames that a drain returns to the pools. -/
def reclaimedFrames : List Addr :=
  socket.drainedFrames.takeWhile (!socket.isCorruptFrame ·)

/-- The socket with a drained range released and its leading valid frames reclaimed. -/
def releaseCompletions : XdpSocket :=
  { socket with
    completion := (socket.completion.sync.consumeMany socket.completion.capacity).1
    rxReclaim := socket.rxReclaim.reclaimAll
      (socket.reclaimedFrames.filter (socket.completionReclaim.poolOf · = .rx))
    txReclaim := socket.txReclaim.reclaimAll
      (socket.reclaimedFrames.filter fun frame =>
        !decide (socket.completionReclaim.poolOf frame = .rx)) }

/-- What a drain does, whatever the ring holds. -/
theorem reclaimCompletions_eq_ite :
    socket.reclaimCompletions =
      if socket.drainedFrames.any socket.isCorruptFrame then
        (.error ringCorruptError, socket.releaseCompletions)
      else
        (.ok socket.drainedFrames.length, { socket.releaseCompletions with
          txInFlight := socket.txInFlight - socket.drainedFrames.length
          txSinceCompletionDrain := 0 }) := by
  have slices := reclaim_slices socket.completionReclaim socket.umem
    (socket.completion.sync.consumeMany socket.completion.capacity).2
    (min (socket.completion.capacity - socket.completion.taken % socket.completion.capacity)
      (socket.completion.sync.consumeMany socket.completion.capacity).2.length)
    (socket.rxReclaim, socket.txReclaim)
  rw [reclaimLoop_eq] at slices
  simp only [reclaimCompletions]
  dsimp only at slices
  rw [slices, drainedFrames, List.length_map]
  rfl

theorem freeFrames_releaseCompletions :
    socket.releaseCompletions.freeFrames = socket.freeFrames + ↑socket.reclaimedFrames := by
  have split := Multiset.filter_add_not
    (fun frame => socket.completionReclaim.poolOf frame = .rx) (↑socket.reclaimedFrames)
  simp only [freeFrames, releaseCompletions, FrameReclaim.free_reclaimAll]
  conv_rhs => rw [← split]
  rw [Multiset.filter_coe, Multiset.filter_coe, ← Multiset.coe_add, ← Multiset.coe_add]
  simp only [decide_not]
  abel

theorem coe_reclaimedFrames_eq_iff :
    (↑socket.reclaimedFrames : Multiset Addr) =
        ↑(socket.drainedFrames.filter (!socket.isCorruptFrame ·)) ↔
      socket.drainedFrames.Pairwise fun earlier later =>
        socket.isCorruptFrame earlier → socket.isCorruptFrame later := by
  have leading : socket.reclaimedFrames.Sublist
      (socket.drainedFrames.filter (!socket.isCorruptFrame ·)) := by
    have passes : socket.reclaimedFrames.filter (!socket.isCorruptFrame ·) =
        socket.reclaimedFrames :=
      List.filter_eq_self.mpr fun _ member => List.mem_takeWhile_imp (p := (!socket.isCorruptFrame ·)) member
    rw [← passes]
    exact (List.takeWhile_sublist _).filter _
  have same : (↑socket.reclaimedFrames : Multiset Addr) =
      ↑(socket.drainedFrames.filter (!socket.isCorruptFrame ·)) ↔
        socket.drainedFrames.filter (!socket.isCorruptFrame ·) = socket.reclaimedFrames := by
    rw [Multiset.coe_eq_coe]
    exact ⟨fun perm => (leading.eq_of_length perm.length_eq).symm, fun same => .of_eq same.symm⟩
  rw [same, reclaimedFrames, filter_eq_takeWhile_iff]
  apply iff_of_eq
  congr 1
  funext earlier later
  cases socket.isCorruptFrame earlier <;> cases socket.isCorruptFrame later <;> simp

/-- When a drain reports a corrupt ring, every valid frame of the drained range is free
again and the count of frames in flight has gone down by the entries of the range. -/
def CorruptEntryCostsItself : Prop :=
  socket.reclaimCompletions.1 = .error ringCorruptError →
    socket.reclaimCompletions.2.freeFrames =
        socket.freeFrames + ↑(socket.drainedFrames.filter (!socket.isCorruptFrame ·)) ∧
      socket.reclaimCompletions.2.txInFlight =
        socket.txInFlight - socket.drainedFrames.length

/-- A corrupt entry costs no more than itself exactly when there is none, or when nothing
is in flight and no valid entry stands behind a corrupt one. -/
theorem corrupt_entry_costs_itself_iff :
    socket.CorruptEntryCostsItself ↔
      (∀ frame ∈ socket.drainedFrames, socket.isCorruptFrame frame = false) ∨
        socket.txInFlight = 0 ∧
          socket.drainedFrames.Pairwise fun earlier later =>
            socket.isCorruptFrame earlier → socket.isCorruptFrame later := by
  rw [CorruptEntryCostsItself, reclaimCompletions_eq_ite]
  by_cases corrupt : socket.drainedFrames.any socket.isCorruptFrame
  · obtain ⟨frame, member, isCorrupt⟩ := List.any_eq_true.mp corrupt
    have drained : socket.drainedFrames.length ≠ 0 := (List.length_pos_of_mem member).ne'
    have notAll : ¬ ∀ frame ∈ socket.drainedFrames, socket.isCorruptFrame frame = false := by
      intro valid
      rw [valid frame member] at isCorrupt
      cases isCorrupt
    have inFlight : socket.releaseCompletions.txInFlight = socket.txInFlight := rfl
    rw [if_pos corrupt, freeFrames_releaseCompletions, add_right_inj, coe_reclaimedFrames_eq_iff,
      inFlight]
    simp only [notAll, false_or, true_imp_iff]
    rw [and_comm]
    exact and_congr_left fun _ => ⟨fun same => by omega, fun zero => by omega⟩
  · rw [if_neg corrupt]
    apply iff_of_true
    · intro failed
      cases failed
    · left
      intro frame member
      rw [List.any_eq_true, not_exists] at corrupt
      exact Bool.eq_false_iff.mpr fun isCorrupt => corrupt frame ⟨member, isCorrupt⟩

end XdpSocket

/-- Sockets of four frames of 64 bytes, the last two for transmit. -/
def fourFramesConfig : XdpSocketConfig where
  frameSize := 64
  frameSize_pow := Umem.fourFrames.frameSize_pow
  frameSize_lt := Umem.fourFrames.frameSize_lt
  frameCount := 4
  frameCount_lt := Umem.fourFrames.frameCount_lt
  rings := { fill := 2, completion := 2, rx := 2, tx := 2 }
  rxL2Headroom := 14
  txDataOffset := 42

def fourFramesSocket : XdpSocket :=
  fourFramesConfig.newSocket fourFramesConfig.umem (.localSplit 128#64) 0 2 2

/-- Both transmit frames are in flight.  The ring holds an address outside of the UMEM and
behind it a transmit frame. -/
def sampleCorruptRing : XdpSocket :=
  { fourFramesSocket with
    completion := { (ConsumerQueue.empty 2 : ConsumerQueue Addr) with
      published := [1000#64, 128#64]
      known_le := by decide
      room := by decide }
    txReclaim := .withRemoteCapacity [] 2 2
    txInFlight := 2 }

/-- The transmit frame behind the corrupt entry is lost, and both entries still count as
in flight. -/
theorem corrupt_entry_costs_next_frame :
    sampleCorruptRing.reclaimCompletions.1 = .error ringCorruptError ∧
      128#64 ∈ sampleCorruptRing.drainedFrames ∧
      sampleCorruptRing.isCorruptFrame 128#64 = false ∧
      128#64 ∉ sampleCorruptRing.reclaimCompletions.2.freeFrames ∧
      sampleCorruptRing.reclaimCompletions.2.completion.entries = [] ∧
      sampleCorruptRing.reclaimCompletions.2.txInFlight = 2 ∧
      ¬ sampleCorruptRing.CorruptEntryCostsItself := by
  refine ⟨rfl, by decide +kernel, by decide +kernel, by decide +kernel, by decide +kernel,
    by decide +kernel, ?_⟩
  intro costs
  have counted : sampleCorruptRing.reclaimCompletions.2.txInFlight =
      sampleCorruptRing.txInFlight - sampleCorruptRing.drainedFrames.length := (costs rfl).2
  revert counted
  decide +kernel

end FastSocket.Xdp
