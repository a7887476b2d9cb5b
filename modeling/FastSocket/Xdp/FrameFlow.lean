import FastSocket.Xdp.Reception

/-!
# How frames flow

The socket's calls other than a submission follow one preorder: they keep the
pools apart, drain completions at most, and write completed frames inside the
capacity of the free lists as long as a pool has no more frames than its free
list has room for.
-/

namespace FastSocket.Xdp

open Bits Packet Spsc Transition

namespace XdpSocket

variable (socket : XdpSocket)

/-- The start of a frame that completions accept. -/
def InUse (frame : Addr) : Prop :=
  socket.umem.IsFrame frame ∧
    socket.completionReclaim.isCorrupt socket.umem.byteLen frame = false

def poolOf (frame : Addr) : PoolKind :=
  socket.completionReclaim.poolOf frame

/-- The frames on the side of a pool. -/
def sideFrames : PoolKind → Multiset Addr
  | .rx => socket.receiveFrames
  | .tx => socket.transmitFrames

/-- Each side has frames of its own pool, and the counters agree with the rings. -/
structure Sound : Prop where
  balanced : socket.Balanced
  side : ∀ kind, ∀ frame ∈ socket.sideFrames kind,
    socket.InUse frame ∧ socket.poolOf frame = kind
  inFlight : ∀ frame ∈ socket.inFlightFrames, socket.InUse frame

/-- The number of frames on the side of a pool or in flight that belong to it. -/
def population (kind : PoolKind) : Nat :=
  (socket.sideFrames kind).card + (socket.inFlightFrames.filter (socket.poolOf · = kind)).card

/-- No unchecked write was outside a free list, and every free list has room for the
frames of its pool. -/
def Fits : Prop :=
  ∀ kind, (socket.pool kind).inBounds = true ∧
    socket.population kind ≤ (socket.pool kind).capacity

end XdpSocket

/-- A change that completes some frames and leaves the others on their side; the free
lists keep their room. -/
structure Completes (source target : XdpSocket) : Prop where
  umem : target.umem = source.umem
  completionReclaim : target.completionReclaim = source.completionReclaim
  completed : ∃ completed : Multiset Addr,
    source.inFlightFrames = target.inFlightFrames + completed ∧
    ∀ kind, target.sideFrames kind =
      source.sideFrames kind + completed.filter (source.poolOf · = kind)
  capacity : ∀ kind, (source.pool kind).capacity ≤ (target.pool kind).capacity

/-- What every call but a submission does to the frames. -/
def Evolves (source target : XdpSocket) : Prop :=
  source.Sound → target.Sound ∧ Completes source target ∧ (source.Fits → target.Fits)

variable {source middle target : XdpSocket}

theorem Completes.poolOf (completes : Completes source target) : target.poolOf = source.poolOf := by
  funext frame
  rw [XdpSocket.poolOf, completes.completionReclaim, XdpSocket.poolOf]

theorem Completes.inUse (completes : Completes source target) (frame : Addr) :
    target.InUse frame ↔ source.InUse frame := by
  rw [XdpSocket.InUse, completes.umem, completes.completionReclaim, XdpSocket.InUse]

theorem Completes.refl (socket : XdpSocket) : Completes socket socket :=
  ⟨rfl, rfl, ⟨0, (add_zero _).symm, fun _ => (add_zero _).symm⟩, fun _ => le_refl _⟩

theorem Completes.trans (first : Completes source middle) (second : Completes middle target) :
    Completes source target := by
  obtain ⟨early, earlyInFlight, earlySide⟩ := first.completed
  obtain ⟨late, lateInFlight, lateSide⟩ := second.completed
  rw [first.poolOf] at lateSide
  refine ⟨second.umem.trans first.umem, second.completionReclaim.trans first.completionReclaim,
    ⟨early + late, ?_, ?_⟩, fun kind => le_trans (first.capacity kind) (second.capacity kind)⟩
  · rw [earlyInFlight, lateInFlight, add_assoc, add_comm late]
  · intro kind
    rw [lateSide, earlySide, Multiset.filter_add, add_assoc]

instance : Std.Refl Evolves :=
  ⟨fun socket sound => ⟨sound, .refl socket, id⟩⟩

instance : IsTrans XdpSocket Evolves := by
  constructor
  intro source middle target first second sound
  obtain ⟨middleSound, firstCompletes, firstFits⟩ := first sound
  obtain ⟨targetSound, secondCompletes, secondFits⟩ := second middleSound
  exact ⟨targetSound, firstCompletes.trans secondCompletes, secondFits ∘ firstFits⟩

/-- Completed frames are sorted into the pool that they belong to. -/
theorem Completes.sound (completes : Completes source target) (sound : source.Sound)
    (balanced : target.Balanced) : target.Sound := by
  obtain ⟨completed, inFlight, side⟩ := completes.completed
  have wasInFlight : ∀ frame, frame ∈ target.inFlightFrames ∨ frame ∈ completed →
      source.InUse frame := by
    intro frame member
    apply sound.inFlight
    rw [inFlight]
    exact Multiset.mem_add.mpr member
  refine ⟨balanced, ?_, ?_⟩
  · intro kind frame member
    rw [completes.inUse, completes.poolOf]
    rw [side] at member
    rcases Multiset.mem_add.mp member with old | new
    · exact sound.side kind frame old
    · obtain ⟨isCompleted, belongs⟩ := Multiset.mem_filter.mp new
      exact ⟨wasInFlight frame (.inr isCompleted), belongs⟩
  · intro frame member
    rw [completes.inUse]
    exact wasInFlight frame (.inl member)

theorem Completes.population (completes : Completes source target) (kind : PoolKind) :
    target.population kind = source.population kind := by
  obtain ⟨completed, inFlight, side⟩ := completes.completed
  rw [XdpSocket.population, XdpSocket.population, completes.poolOf, inFlight, side,
    Multiset.filter_add, Multiset.card_add, Multiset.card_add]
  omega

theorem Shuffles.sideFrames (shuffles : Shuffles source target) (kind : PoolKind) :
    target.sideFrames kind = source.sideFrames kind := by
  cases kind with
  | rx => exact shuffles.receive
  | tx => exact shuffles.transmit

theorem Shuffles.completes (shuffles : Shuffles source target) : Completes source target := by
  refine ⟨shuffles.umem, shuffles.completionReclaim, ⟨0, ?_, ?_⟩,
    fun kind => (shuffles.pools kind).capacity⟩
  · rw [shuffles.inFlight, add_zero]
  · intro kind
    rw [shuffles.sideFrames, Multiset.filter_zero, add_zero]

theorem Shuffles.evolves (shuffles : Shuffles source target) : Evolves source target := by
  intro sound
  refine ⟨shuffles.completes.sound sound (shuffles.balanced sound.balanced), shuffles.completes, ?_⟩
  intro fits kind
  rw [shuffles.completes.population, (shuffles.pools kind).inBounds]
  exact ⟨(fits kind).1, le_trans (fits kind).2 (shuffles.pools kind).capacity⟩

/-! ## Completions -/

/-- The two slices of a drained range are reclaimed as one list. -/
theorem reclaim_slices (kind : CompletionReclaim) (umem : Umem) (completions : List Addr)
    (firstLen : Nat) (pools : FrameReclaim × FrameReclaim) :
    (let first := kind.reclaim umem (completions.take firstLen) pools
      if first.2 then first else kind.reclaim umem (completions.drop firstLen) first.1) =
      reclaimLoop umem.frameMask (kind.isCorrupt umem.byteLen)
        (fun frame => kind.poolOf frame = .rx) completions pools := by
  simp only [CompletionReclaim.reclaim_eq]
  rw [← reclaimLoop_append, List.take_append_drop]

namespace XdpSocket

variable {socket : XdpSocket}

/-- The frames of a drained range were in flight. -/
theorem inFlightFrames_drain (socket : XdpSocket) (wanted : Nat) :
    socket.inFlightFrames =
      { socket with completion := (socket.completion.sync.consumeMany wanted).1 }.inFlightFrames +
        ↑((socket.completion.sync.consumeMany wanted).2.map socket.umem.frameOf) := by
  have append := socket.completion.sync.consumeMany_append wanted
  rw [ConsumerQueue.entries_sync] at append
  simp only [inFlightFrames]
  rw [← append, List.map_append, ← Multiset.coe_add]
  abel

theorem poolOf_ne_rx (frame : Addr) :
    (!decide (socket.poolOf frame = .rx)) = decide (socket.poolOf frame = .tx) := by
  cases socket.poolOf frame <;> rfl

/-- A drain finds no corrupt entry. -/
theorem reclaimCompletions_eq (sound : socket.Sound) :
    socket.reclaimCompletions =
      let drained := socket.completion.sync.consumeMany socket.completion.capacity
      let frames := drained.2.map socket.umem.frameOf
      (.ok drained.2.length,
        { socket with
          completion := drained.1
          rxReclaim := socket.rxReclaim.reclaimAll (frames.filter (socket.poolOf · = .rx))
          txReclaim := socket.txReclaim.reclaimAll (frames.filter (socket.poolOf · = .tx))
          txInFlight := socket.txInFlight - drained.2.length
          txSinceCompletionDrain := 0 }) := by
  have inFlight := inFlightFrames_drain socket socket.completion.capacity
  generalize drainedEq : socket.completion.sync.consumeMany socket.completion.capacity = drained
    at inFlight
  have valid : ∀ addr ∈ drained.2, socket.completionReclaim.isCorrupt socket.umem.byteLen
      (alignDown socket.umem.frameMask addr) = false := by
    intro addr member
    apply (sound.inFlight (socket.umem.frameOf addr) _).2
    rw [inFlight]
    exact Multiset.mem_add.mpr (.inr (Multiset.mem_coe.mpr (List.mem_map_of_mem member)))
  have slices := reclaim_slices socket.completionReclaim socket.umem drained.2
    (min (socket.completion.capacity - socket.completion.taken % socket.completion.capacity)
      drained.2.length) (socket.rxReclaim, socket.txReclaim)
  rw [reclaimLoop_of_valid valid] at slices
  simp only [reclaimCompletions, drainedEq]
  dsimp only at slices
  rw [slices]
  have txFrames : (drained.2.map (alignDown socket.umem.frameMask)).filter
      (fun frame => !decide (socket.completionReclaim.poolOf frame = .rx)) =
      (drained.2.map socket.umem.frameOf).filter (socket.poolOf · = .tx) := by
    congr 1
    funext frame
    exact poolOf_ne_rx frame
  simp only [Bool.false_eq_true, if_false, txFrames]
  rfl

theorem completes_reclaimCompletions (sound : socket.Sound) :
    Completes socket socket.reclaimCompletions.2 := by
  rw [reclaimCompletions_eq sound]
  have inFlight := inFlightFrames_drain socket socket.completion.capacity
  generalize socket.completion.sync.consumeMany socket.completion.capacity = drained at inFlight
  refine ⟨rfl, rfl, ⟨_, inFlight, ?_⟩, ?_⟩
  · intro kind
    rw [Multiset.filter_coe]
    cases kind with
    | rx =>
      simp only [sideFrames, receiveFrames, FrameReclaim.frames_reclaimAll]
      abel
    | tx =>
      simp only [sideFrames, transmitFrames, FrameReclaim.frames_reclaimAll]
      abel
  · intro kind
    cases kind with
    | rx => exact Nat.le_of_eq (FrameReclaim.capacity_reclaimAll _ _).symm
    | tx => exact Nat.le_of_eq (FrameReclaim.capacity_reclaimAll _ _).symm

/-- The drained completions were counted as in flight. -/
theorem balanced_reclaimCompletions (sound : socket.Sound) :
    socket.reclaimCompletions.2.Balanced := by
  rw [reclaimCompletions_eq sound]
  obtain ⟨inFlight, consumed⟩ := sound.balanced
  have taken := socket.completion.sync.taken_consumeMany socket.completion.capacity
  have published := socket.completion.sync.published_consumeMany socket.completion.capacity
  generalize socket.completion.sync.consumeMany socket.completion.capacity = drained
    at taken published
  have taken_le := Nat.le_trans drained.1.taken_le drained.1.known_le
  have consumed_le := socket.tx.consumed_le
  have takenBefore : socket.completion.sync.taken = socket.completion.taken := rfl
  have publishedBefore : socket.completion.sync.published = socket.completion.published := rfl
  rw [published, publishedBefore, taken, takenBefore] at taken_le
  constructor
  · change socket.txInFlight - drained.2.length + drained.1.taken = socket.tx.committed.length
    rw [taken, takenBefore]
    omega
  · change drained.1.published.length + socket.kernelTx.length = socket.tx.consumed
    rw [published, publishedBefore, consumed]

theorem length_free_le (socket : XdpSocket) (kind : PoolKind) :
    (socket.pool kind).free.length ≤ (socket.sideFrames kind).card := by
  cases kind with
  | rx =>
    simp only [pool, sideFrames, receiveFrames, FrameReclaim.frames, Multiset.card_add,
      Multiset.coe_card]
    omega
  | tx =>
    simp only [pool, sideFrames, transmitFrames, FrameReclaim.frames, Multiset.card_add,
      Multiset.coe_card]
    omega

/-- Completed frames fit behind the free frames of their pool. -/
theorem fits_reclaimCompletions (sound : socket.Sound) (fits : socket.Fits) :
    socket.reclaimCompletions.2.Fits := by
  have inFlight := inFlightFrames_drain socket socket.completion.capacity
  have population := (completes_reclaimCompletions sound).population
  rw [reclaimCompletions_eq sound] at population ⊢
  generalize socket.completion.sync.consumeMany socket.completion.capacity = drained
    at inFlight population ⊢
  intro kind
  rw [population]
  have completed : ((drained.2.map socket.umem.frameOf).filter (socket.poolOf · = kind)).length ≤
      (socket.inFlightFrames.filter (socket.poolOf · = kind)).card := by
    rw [inFlight, Multiset.filter_add, Multiset.card_add, Multiset.filter_coe, Multiset.coe_card]
    exact Nat.le_add_left _ _
  have free := socket.length_free_le kind
  obtain ⟨inBounds, room⟩ := fits kind
  rw [XdpSocket.population] at room ⊢
  have inside := (socket.pool kind).reclaimAll_eq
    ((drained.2.map socket.umem.frameOf).filter (socket.poolOf · = kind)) (by omega)
  cases kind with
  | rx =>
    change (socket.rxReclaim.reclaimAll _).inBounds = true ∧
      _ ≤ (socket.rxReclaim.reclaimAll _).capacity
    rw [show socket.rxReclaim.reclaimAll _ = _ from inside]
    exact ⟨inBounds, room⟩
  | tx =>
    change (socket.txReclaim.reclaimAll _).inBounds = true ∧
      _ ≤ (socket.txReclaim.reclaimAll _).capacity
    rw [show socket.txReclaim.reclaimAll _ = _ from inside]
    exact ⟨inBounds, room⟩

theorem evolves_reclaimCompletions (socket : XdpSocket) :
    Evolves socket socket.reclaimCompletions.2 := by
  intro sound
  have completes := completes_reclaimCompletions sound
  exact ⟨completes.sound sound (balanced_reclaimCompletions sound), completes,
    fits_reclaimCompletions sound⟩

end XdpSocket

/-! ## Calls -/

theorem shuffles_txAvailable (socket : XdpSocket) : Shuffles socket socket.txAvailable.2 :=
  ⟨⟨rfl, rfl, rfl, rfl, fun _ => .refl _, id⟩, rfl⟩

theorem housekeeping_evolves : Housekeeping Evolves where
  turn socket := socket.shuffles_takeTurn.evolves
  drain := XdpSocket.evolves_reclaimCompletions
  count socket := (shuffles_txAvailable socket).evolves
  ring _ := Shuffles.evolves ⟨⟨rfl, rfl, rfl, rfl, fun _ => .refl _, id⟩, rfl⟩
  pending _ _ := Shuffles.evolves ⟨⟨rfl, rfl, rfl, rfl, fun _ => .refl _, id⟩, rfl⟩

theorem follows_allocateTxLoop (max fuel allocated : Nat) (drainedAfterEmpty : Bool) :
    Follows Evolves (allocateTxLoop max fuel allocated drainedAfterEmpty) := by
  induction fuel generalizing allocated drainedAfterEmpty with
  | zero => exact .pure _
  | succ fuel ih =>
    refine .ite (.bind housekeeping_evolves.interleave fun _ => .bind ?_ fun count => ?_)
      (.pure _)
    · exact .modifyGet fun socket => (socket.shuffles_allocateMany _).evolves
    · refine .ite (ih _ _) (.ite (.pure _)
        (.bind housekeeping_evolves.drainTxCompletionsInner ?_))
      rintro (kind | _ | _)
      · exact .pure _
      · exact .pure _
      · exact ih _ _

theorem follows_allocateTxBatchInner (max : Nat) : Follows Evolves (allocateTxBatchInner max) := by
  refine .ite (.pure _) (.bind housekeeping_evolves.drainCompletionsIfTxPressure ?_)
  rintro (kind | _)
  · exact .pure _
  · exact follows_allocateTxLoop _ _ _ _

theorem follows_postFreeFrames (isEmpty : Bool) : Follows Evolves (postFreeFrames isEmpty) :=
  .ite (.pure _) (.bind housekeeping_evolves.interleave fun _ =>
    .modify fun socket => socket.shuffles_replenishFillBatch.evolves)

theorem follows_replenishFill : Follows Evolves replenishFill := by
  refine .bind housekeeping_evolves.interleave fun _ => .bind ?_ fun isEmpty =>
    .bind (follows_postFreeFrames isEmpty) fun _ => .bind housekeeping_evolves.interleave fun _ =>
    .bind .get fun _ => .ite (.bind housekeeping_evolves.interleave fun _ => .pure _) (.pure _)
  exact .modifyGet fun socket => socket.shuffles_rxReclaimIsEmpty.evolves

theorem evolves_receive (parse : XdpDesc → Option (Nat × Nat)) (remaining : Nat)
    (socket : XdpSocket) : Evolves socket (socket.receive parse remaining).2 := by
  intro sound
  exact (XdpSocket.shuffles_receive (fun frame member => (sound.side .rx frame member).1.1)
    parse remaining).evolves sound

theorem follows_recvInner (parse : XdpDesc → Option (Nat × Nat)) (remaining : Nat) :
    Follows Evolves (recvInner parse remaining) := by
  refine .bind follows_replenishFill ?_
  rintro (kind | _)
  · exact .pure _
  · refine .bind housekeeping_evolves.interleave fun _ =>
      .bind (.modifyGet (evolves_receive parse remaining)) ?_
    rintro (kind | _ | delivered)
    · exact .pure _
    · exact .pure _
    · exact .bind follows_replenishFill fun _ => .pure _

end FastSocket.Xdp
