import FastSocket.Xdp.FrameFlow
import FastSocket.Xdp.SendPrefix

/-!
# Frames of a submission

A send puts the frames of the accepted slots in flight; apart from that it does
what every other call does to the frames of its socket.
-/

namespace FastSocket.Xdp

open Bits Packet Spsc Transition

variable {κ α ν : Type}

namespace XdpSocket

variable (socket : XdpSocket)

/-- All frames of a socket, wherever they are. -/
def allFrames : Multiset Addr :=
  socket.sideFrames .rx + socket.sideFrames .tx + socket.inFlightFrames

/-- The free lists have room for the frames of the pools and for some more. -/
def FitsWith (added : Multiset Addr) : Prop :=
  ∀ kind, (socket.pool kind).inBounds = true ∧
    socket.population kind + (added.filter (socket.poolOf · = kind)).card ≤
      (socket.pool kind).capacity

end XdpSocket

/-- What a call does that puts frames in flight. -/
def Submits (sent : Multiset Addr) (source target : XdpSocket) : Prop :=
  source.Sound → (∀ frame ∈ sent, source.InUse frame) →
    target.Sound ∧ target.umem = source.umem ∧
      target.completionReclaim = source.completionReclaim ∧
      target.allFrames = source.allFrames + sent ∧
      ∀ added, source.FitsWith (sent + added) → target.FitsWith added

variable {source middle target socket reserved : XdpSocket}

theorem filter_poolOf_add (socket : XdpSocket) (frames : Multiset Addr) :
    frames.filter (socket.poolOf · = .rx) + frames.filter (socket.poolOf · = .tx) = frames := by
  have split := Multiset.filter_add_not (fun frame => socket.poolOf frame = .rx) frames
  have other : frames.filter (fun frame => ¬ socket.poolOf frame = .rx) =
      frames.filter (socket.poolOf · = .tx) := by
    apply Multiset.filter_congr
    intro frame _
    cases socket.poolOf frame <;> simp
  rwa [other] at split

theorem Completes.allFrames (completes : Completes source target) :
    target.allFrames = source.allFrames := by
  obtain ⟨completed, inFlight, side⟩ := completes.completed
  rw [XdpSocket.allFrames, XdpSocket.allFrames, inFlight, side, side]
  conv_rhs => rw [← filter_poolOf_add source completed]
  abel

variable {added : Multiset Addr}

theorem XdpSocket.FitsWith.fits (fits : socket.FitsWith added) : socket.Fits :=
  fun kind => ⟨(fits kind).1, le_trans (Nat.le_add_right _ _) (fits kind).2⟩

/-- Room for added frames survives a call that adds none. -/
theorem XdpSocket.FitsWith.evolve (fits : source.FitsWith added) (sound : source.Sound)
    (evolves : Evolves source target) : target.FitsWith added := by
  obtain ⟨_, completes, keepsFit⟩ := evolves sound
  intro kind
  refine ⟨(keepsFit fits.fits kind).1, ?_⟩
  rw [completes.population, completes.poolOf]
  exact le_trans (fits kind).2 (completes.capacity kind)

/-! ## Publishing descriptors -/

namespace XdpSocket

variable {descs : List XdpDesc}

/-- The frames of descriptors. -/
def descFrames (socket : XdpSocket) (descs : List XdpDesc) : Multiset Addr :=
  ↑(descs.map fun desc => socket.umem.frameOf desc.addr)

theorem inFlightFrames_commitTx (room : descs.length ≤ socket.tx.available) :
    (socket.commitTx descs).inFlightFrames =
      socket.inFlightFrames + socket.descFrames descs := by
  simp only [inFlightFrames, commitTx, descFrames, ProducerQueue.entries_publish _ room,
    List.map_append, ← Multiset.coe_add]
  abel

theorem balanced_commitTx (room : descs.length ≤ socket.tx.available)
    (balanced : socket.Balanced) : (socket.commitTx descs).Balanced := by
  obtain ⟨inFlight, consumed⟩ := balanced
  refine ⟨?_, consumed⟩
  change socket.txInFlight + descs.length + socket.completion.taken =
    (socket.tx.publish descs).committed.length
  rw [ProducerQueue.committed_publish _ room, List.length_append]
  omega

theorem sound_commitTx (room : descs.length ≤ socket.tx.available) (sound : socket.Sound)
    (inUse : ∀ frame ∈ socket.descFrames descs, socket.InUse frame) :
    (socket.commitTx descs).Sound := by
  refine ⟨balanced_commitTx room sound.balanced, sound.side, ?_⟩
  intro frame member
  rw [inFlightFrames_commitTx room] at member
  rcases Multiset.mem_add.mp member with old | new
  · exact sound.inFlight frame old
  · exact inUse frame new

theorem fitsWith_commitTx (room : descs.length ≤ socket.tx.available)
    (fits : socket.FitsWith (socket.descFrames descs + added)) :
    (socket.commitTx descs).FitsWith added := by
  intro kind
  obtain ⟨inBounds, le⟩ := fits kind
  refine ⟨inBounds, ?_⟩
  have population_eq : (socket.commitTx descs).population kind =
      socket.population kind +
        ((socket.descFrames descs).filter (socket.poolOf · = kind)).card := by
    rw [population, inFlightFrames_commitTx room]
    change (socket.sideFrames kind).card + (Multiset.filter (socket.poolOf · = kind) _).card = _
    rw [Multiset.filter_add, Multiset.card_add, population]
    omega
  rw [Multiset.filter_add, Multiset.card_add] at le
  rw [population_eq, Nat.add_assoc]
  exact le

end XdpSocket

theorem Evolves.submits (evolves : Evolves source target) : Submits 0 source target := by
  intro sound _
  obtain ⟨targetSound, completes, _⟩ := evolves sound
  refine ⟨targetSound, completes.umem, completes.completionReclaim, ?_, ?_⟩
  · rw [completes.allFrames, add_zero]
  · intro added fits
    rw [zero_add] at fits
    exact fits.evolve sound evolves

theorem Submits.of_shuffles {sent : Multiset Addr} (shuffles : Shuffles source middle)
    (submits : Submits sent middle target) : Submits sent source target := by
  intro sound inUse
  obtain ⟨middleSound, completes, _⟩ := shuffles.evolves sound
  obtain ⟨targetSound, umem, reclaim, allFrames, keepsFit⟩ := submits middleSound
    fun frame member => (completes.inUse frame).mpr (inUse frame member)
  refine ⟨targetSound, umem.trans completes.umem, reclaim.trans completes.completionReclaim, ?_, ?_⟩
  · rw [allFrames, completes.allFrames]
  · exact fun added fits => keepsFit added (fits.evolve sound shuffles.evolves)

/-- Publishing reserved descriptors between two calls that add no frame. -/
theorem submits_commitTx {descs : List XdpDesc} (before : Evolves source reserved)
    (room : descs.length ≤ reserved.tx.available)
    (after : Evolves (reserved.commitTx descs) target) :
    Submits (source.descFrames descs) source target := by
  intro sound inUse
  obtain ⟨reservedSound, completes, _⟩ := before sound
  have sameFrames : reserved.descFrames descs = source.descFrames descs := by
    rw [XdpSocket.descFrames, completes.umem, XdpSocket.descFrames]
  have committedSound := XdpSocket.sound_commitTx room reservedSound (by
    intro frame member
    rw [completes.inUse]
    exact inUse frame (sameFrames ▸ member))
  obtain ⟨targetSound, completesAfter, _⟩ := after committedSound
  refine ⟨targetSound, completesAfter.umem.trans completes.umem,
    completesAfter.completionReclaim.trans completes.completionReclaim, ?_, ?_⟩
  · rw [completesAfter.allFrames, ← completes.allFrames, ← sameFrames, XdpSocket.allFrames,
      XdpSocket.inFlightFrames_commitTx room, ← add_assoc]
    rfl
  · intro added fits
    have reservedFits := fits.evolve sound before
    rw [← sameFrames] at reservedFits
    exact (XdpSocket.fitsWith_commitTx room reservedFits).evolve committedSound after

/-! ## Frames outside the socket -/

/-- A change that takes frames away from the sides of a socket: a buffer of the
application that a send holds, or a free frame that it fills. -/
structure Releases (frames : Multiset Addr) (source target : XdpSocket) : Prop where
  umem : target.umem = source.umem
  completionReclaim : target.completionReclaim = source.completionReclaim
  inFlight : target.inFlightFrames = source.inFlightFrames
  side : ∀ kind, source.sideFrames kind =
    target.sideFrames kind + frames.filter (source.poolOf · = kind)
  pools : ∀ kind, (source.pool kind).Grows (target.pool kind)
  balanced : source.Balanced → target.Balanced

namespace Releases

variable {frames : Multiset Addr}

theorem poolOf (releases : Releases frames source target) : target.poolOf = source.poolOf := by
  funext frame
  rw [XdpSocket.poolOf, releases.completionReclaim, XdpSocket.poolOf]

theorem inUse (releases : Releases frames source target) (frame : Addr) :
    target.InUse frame ↔ source.InUse frame := by
  rw [XdpSocket.InUse, releases.umem, releases.completionReclaim, XdpSocket.InUse]

theorem sound (releases : Releases frames source target) (sound : source.Sound) :
    target.Sound := by
  refine ⟨releases.balanced sound.balanced, ?_, ?_⟩
  · intro kind frame member
    rw [releases.inUse, releases.poolOf]
    apply sound.side kind frame
    rw [releases.side]
    exact Multiset.mem_add.mpr (.inl member)
  · intro frame member
    rw [releases.inFlight] at member
    rw [releases.inUse]
    exact sound.inFlight frame member

theorem allFrames (releases : Releases frames source target) :
    source.allFrames = target.allFrames + frames := by
  rw [XdpSocket.allFrames, XdpSocket.allFrames, releases.side, releases.side, releases.inFlight]
  conv_rhs => rw [← filter_poolOf_add source frames]
  abel

/-- The room of the released frames is kept for them. -/
theorem fitsWith (releases : Releases frames source target) (fits : source.FitsWith added) :
    target.FitsWith (frames + added) := by
  intro kind
  obtain ⟨inBounds, room⟩ := fits kind
  have grows := releases.pools kind
  refine ⟨grows.inBounds.trans inBounds, le_trans ?_ (le_trans room grows.capacity)⟩
  simp only [XdpSocket.population, releases.side kind, releases.inFlight, releases.poolOf,
    Multiset.filter_add, Multiset.card_add]
  omega

end Releases

theorem Sends.submits {prepare : κ → α → Prepared κ α} {cache : κ} {batch : List (TxSlot α)}
    {outcome : SendOutcome κ α} (sends : Sends prepare cache batch socket outcome target) :
    Submits (socket.descFrames (outcome.sent.map XdpTxFrame.desc)) socket target := by
  have before := housekeeping_evolves.reserveBatch socket
  cases sends with
  | failed reserve =>
    rw [reserve] at before
    exact before.submits
  | nothing reserve loop noFrames =>
    rw [reserve] at before
    exact before.submits
  | sent reserve loop someFrames fits wake =>
    rename_i available reserved prepared woken
    have after := housekeeping_evolves.wakeTxIfNeeded prepared.frames.length
      (reserved.commitTx (prepared.frames.map XdpTxFrame.desc))
    rw [reserve] at before
    rw [wake] at after
    exact submits_commitTx before (by rwa [List.length_map]) after

end FastSocket.Xdp
