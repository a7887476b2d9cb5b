import FastSocket.Xdp.DirectBatch
import FastSocket.Xdp.FrameConservation

/-!
# Frames of a single socket

A direct batch takes its frames from the free list of the socket and puts them in
flight.  It keeps all frames unless its callback drops a transmit buffer: a frame
that is pushed to the list during the loop is cut off with the filled ones.
-/

namespace FastSocket.Xdp

open Packet Spsc Transition

variable {socket source middle target : XdpSocket}

/-- A change after which some frames are in no place any more. -/
def Loses (lost : Multiset Addr) (source target : XdpSocket) : Prop :=
  source.Sound → target.Sound ∧ target.umem = source.umem ∧
    target.completionReclaim = source.completionReclaim ∧
    source.allFrames = target.allFrames + lost

theorem Loses.trans {first second : Multiset Addr} (before : Loses first source middle)
    (after : Loses second middle target) : Loses (first + second) source target := by
  intro sound
  obtain ⟨middleSound, umem, reclaim, frames⟩ := before sound
  obtain ⟨targetSound, targetUmem, targetReclaim, targetFrames⟩ := after middleSound
  refine ⟨targetSound, targetUmem.trans umem, targetReclaim.trans reclaim, ?_⟩
  rw [frames, targetFrames, add_assoc, add_comm second]

theorem Evolves.loses (evolves : Evolves source target) : Loses 0 source target := by
  intro sound
  obtain ⟨targetSound, completes, _⟩ := evolves sound
  exact ⟨targetSound, completes.umem, completes.completionReclaim,
    completes.allFrames.symm.trans (add_zero _).symm⟩

/-! ## Preparation -/

theorem shuffles_fetchTx (socket : XdpSocket) (max : Nat) : Shuffles socket (socket.fetchTx max) := by
  rw [XdpSocket.fetchTx]
  split
  · apply XdpSocket.shuffles_pools
    · rfl
    · rw [FrameReclaim.frames_drainRemote]
    · exact .refl _
    · exact socket.txReclaim.grows_drainRemote
  · exact .refl socket

/-- Buffers are dropped; the frames of transmit buffers are pushed behind the free ones.
There are none of them when receive buffers are dropped only. -/
def Drops (received : Prop) (source target : XdpSocket) : Prop :=
  Shuffles source target ∧ ∃ pushed,
    target.txReclaim.free = source.txReclaim.free ++ pushed ∧ (received → pushed = [])

instance (received : Prop) : Std.Refl (Drops received) :=
  ⟨fun socket => ⟨.refl socket, [], (List.append_nil _).symm, fun _ => rfl⟩⟩

instance (received : Prop) : IsTrans XdpSocket (Drops received) := by
  constructor
  rintro source middle target ⟨first, early, earlyFree, earlyNone⟩ ⟨second, late, lateFree, lateNone⟩
  refine ⟨first.trans second, early ++ late, ?_, ?_⟩
  · rw [lateFree, earlyFree, List.append_assoc]
  · intro isReceived
    rw [earlyNone isReceived, lateNone isReceived, List.append_nil]

theorem drops_dropIfHeld {received : Prop} {buffer : HeldFrame}
    (ofRx : received → buffer.pool = .rx) (socket : XdpSocket) :
    Drops received socket (socket.dropIfHeld buffer) := by
  rw [XdpSocket.dropIfHeld]
  split
  case isTrue isHeld =>
    refine ⟨XdpSocket.shuffles_dropBuffer isHeld, ?_⟩
    obtain ⟨kind, frame⟩ := buffer
    cases kind with
    | rx => exact ⟨[], (List.append_nil _).symm, fun _ => rfl⟩
    | tx => exact ⟨[frame], rfl, by intro isReceived; cases ofRx isReceived⟩
  case isFalse => exact refl_of (Drops received) socket

theorem Releases.refl (socket : XdpSocket) : Releases 0 socket socket where
  umem := rfl
  completionReclaim := rfl
  inFlight := rfl
  side _ := by rw [Multiset.filter_zero, add_zero]
  pools _ := .refl _
  balanced := id

/-- Cutting the free list releases the frames behind the cut. -/
theorem releases_retainTx (sound : socket.Sound) (retainLen : Nat) :
    Releases ↑(socket.txReclaim.free.drop retainLen) socket (socket.retainTx retainLen) := by
  have ofTx : ∀ frame ∈ socket.txReclaim.free.drop retainLen, socket.poolOf frame = .tx := by
    intro frame member
    apply (sound.side .tx frame _).2
    simp [XdpSocket.sideFrames, XdpSocket.transmitFrames, FrameReclaim.frames,
      List.mem_of_mem_drop member]
  refine ⟨rfl, rfl, rfl, ?_, ?_, id⟩
  · intro kind
    rw [Multiset.filter_coe]
    cases kind with
    | rx =>
      have none : (socket.txReclaim.free.drop retainLen).filter (socket.poolOf · = .rx) = [] := by
        rw [List.filter_eq_nil_iff]
        intro frame member
        rw [ofTx frame member]
        simp
      rw [none, Multiset.coe_nil, add_zero]
      rfl
    | tx =>
      have all : (socket.txReclaim.free.drop retainLen).filter (socket.poolOf · = .tx) =
          socket.txReclaim.free.drop retainLen := by
        rw [List.filter_eq_self]
        intro frame member
        rw [ofTx frame member]
        simp
      rw [all]
      simp only [XdpSocket.sideFrames, XdpSocket.transmitFrames, XdpSocket.retainTx,
        FrameReclaim.frames]
      rw [← coe_take_add_drop socket.txReclaim.free retainLen]
      abel
  · intro kind
    cases kind with
    | rx => exact .refl _
    | tx => exact ⟨le_refl _, rfl⟩

variable {batch : EndpointBatch} {headerStart : Nat}

theorem EndpointBatch.writeFrame_descAddr {frameAddr : Addr} {payload : List Byte}
    {frame : XdpTxFrame} (wrote : batch.writeFrame headerStart frameAddr payload = .ok frame) :
    frame.descAddr = frameAddr + BitVec.ofNat 64 headerStart := by
  rw [writeFrame] at wrote
  split at wrote
  · cases wrote
  · split at wrote
    · cases wrote
    · cases wrote
      rfl

/-- There is room for a header, since at least the patched words are in it. -/
theorem EndpointBatch.headerStart_lt {payloadStart frameSize : Nat}
    (admits : batch.Admits payloadStart frameSize) :
    payloadStart - batch.header.length < frameSize := by
  obtain ⟨_, fits, _, patched, _⟩ := admits
  rw [XdpEndpointHeaderPatch.requiredHeaderLen] at patched
  omega

/-- The descriptors of filled frames lie in them. -/
theorem descFrames_of_written {addrs : List Addr} {frames : List XdpTxFrame}
    (inside : headerStart < socket.umem.frameSize)
    (isFrame : ∀ addr ∈ addrs, socket.umem.IsFrame addr) (written : List.Forall₂ (fun addr frame =>
      ∃ payload, batch.writeFrame headerStart addr payload = .ok frame) addrs frames) :
    socket.descFrames (frames.map XdpTxFrame.desc) = ↑addrs := by
  induction written with
  | nil => rfl
  | @cons addr frame addrs frames head _ ih =>
    obtain ⟨payload, wrote⟩ := head
    obtain ⟨addrIsFrame, restAreFrames⟩ := List.forall_mem_cons.mp isFrame
    have headFrame : socket.umem.frameOf frame.desc.addr = addr := by
      change socket.umem.frameOf frame.descAddr = addr
      rw [EndpointBatch.writeFrame_descAddr wrote]
      exact socket.umem.frameOf_add addrIsFrame inside
    have rest := ih restAreFrames
    rw [XdpSocket.descFrames] at rest ⊢
    rw [List.map_cons, List.map_cons, headFrame, ← Multiset.cons_coe, rest, Multiset.cons_coe]

/-- The callback drops receive buffers only. -/
def KeepsTransmitBuffers (fill : Nat → FillCall) : Prop :=
  ∀ index, ∀ buffer ∈ (fill index).drops, buffer.pool = .rx

section Batch

variable {max : Nat} {fill : Nat → FillCall}

/-- The frames that a preparation has filled. -/
def filledFrames (socket : XdpSocket) (result : Except Error (List XdpTxFrame)) : Multiset Addr :=
  socket.descFrames ((result.toOption.getD []).map XdpTxFrame.desc)

variable {result : Except Error (List XdpTxFrame)}

/-- A preparation moves frames within the socket and takes away those that it fills,
together with those of transmit buffers that are dropped meanwhile. -/
theorem PreparesDirect.spec (prepares : PreparesDirect batch max fill socket result target)
    (sound : socket.Sound) :
    ∃ middle lost, Evolves socket middle ∧
      Releases (filledFrames target result + lost) middle target ∧
      (KeepsTransmitBuffers fill → lost = 0) := by
  have fetched := shuffles_fetchTx socket max
  have drop : ∀ index, ∀ buffer ∈ (fill index).drops, ∀ socket : XdpSocket,
      Drops (KeepsTransmitBuffers fill) socket (socket.dropIfHeld buffer) :=
    fun index buffer member => drops_dropIfHeld fun keeps => keeps index buffer member
  cases prepares with
  | stopped none =>
    refine ⟨socket, 0, refl_of Evolves socket, ?_, fun _ => rfl⟩
    cases result with
    | error kind => exact .refl socket
    | ok frames =>
      rw [none frames rfl]
      exact .refl socket
  | refused failed =>
    exact ⟨target, 0, (fetched.trans (respects_fillFrames drop failed).1).evolves, .refl target,
      fun _ => rfl⟩
  | @filled retainLen frames filled admits retained few loop =>
    obtain ⟨shuffles, pushed, free, nonePushed⟩ := respects_fillFrames drop loop
    have moved := fetched.trans shuffles
    have filledSound := (moved.evolves sound).1
    have behind : filled.txReclaim.free.drop retainLen =
        (socket.fetchTx max).txReclaim.free.drop retainLen ++ pushed := by
      rw [free, List.drop_append_of_le_length retained]
    have inside : socket.txDataOffset - batch.header.length < filled.umem.frameSize := by
      rw [moved.umem]
      exact EndpointBatch.headerStart_lt admits
    have isFrame : ∀ addr ∈ ((socket.fetchTx max).txReclaim.free.drop retainLen).reverse,
        filled.umem.IsFrame addr := by
      intro addr member
      have isFree : addr ∈ filled.txReclaim.free := by
        rw [free]
        exact List.mem_append_left _ (List.mem_of_mem_drop (List.mem_reverse.mp member))
      apply (filledSound.side .tx addr _).1.1
      simp [XdpSocket.sideFrames, XdpSocket.transmitFrames, FrameReclaim.frames, isFree]
    have written := forall₂_fillFrames (congrArg Prod.fst loop)
    have released : filledFrames (filled.retainTx retainLen) (.ok frames) =
        ↑((socket.fetchTx max).txReclaim.free.drop retainLen) :=
      Eq.trans (descFrames_of_written inside isFrame written) (Multiset.coe_reverse _)
    refine ⟨filled, ↑pushed, moved.evolves, ?_, fun keeps => by rw [nonePushed keeps]; rfl⟩
    rw [released, Multiset.coe_add, ← behind]
    exact releases_retainTx filledSound retainLen

/-- Of the released frames those are lost that are not submitted. -/
theorem Releases.loses {submitted lost : Multiset Addr}
    (releases : Releases (submitted + lost) source middle)
    (submits : Submits submitted middle target) : Loses lost source target := by
  intro sound
  have inUse : ∀ frame ∈ submitted, middle.InUse frame := by
    intro frame member
    rw [releases.inUse]
    apply (sound.side (source.poolOf frame) frame _).1
    rw [releases.side]
    apply Multiset.mem_add.mpr
    right
    exact Multiset.mem_filter.mpr ⟨Multiset.mem_add.mpr (.inl member), rfl⟩
  obtain ⟨targetSound, umem, reclaim, allFrames, _⟩ := submits (releases.sound sound) inUse
  refine ⟨targetSound, umem.trans releases.umem, reclaim.trans releases.completionReclaim, ?_⟩
  rw [releases.allFrames, allFrames, add_assoc]

theorem PreparesDirect.loses (prepares : PreparesDirect batch max fill socket result target)
    (submits : Submits (filledFrames target result) target middle) (sound : socket.Sound) :
    ∃ lost, Loses lost socket middle ∧ (KeepsTransmitBuffers fill → lost = 0) := by
  obtain ⟨between, lost, evolves, releases, none⟩ := prepares.spec sound
  have loses := evolves.loses.trans (releases.loses submits)
  rw [zero_add] at loses
  exact ⟨lost, loses, none⟩

/-- A direct batch loses at most the frames of transmit buffers that its callback
drops. -/
theorem DirectSends.loses {outcome : DirectOutcome}
    (sends : DirectSends batch max fill socket outcome target) (sound : socket.Sound) :
    ∃ lost, Loses lost socket target ∧ (KeepsTransmitBuffers fill → lost = 0) := by
  have reserving := housekeeping_evolves.reserveBatch socket
  have prepared : ∀ {available : Nat} {reserved prepared target : XdpSocket}
      {result : Except Error (List XdpTxFrame)},
      reserveBatch.run socket = (.ok available, reserved) →
      PreparesDirect batch (min max available) fill reserved.takeTurn.2 result prepared →
      Submits (filledFrames prepared result) prepared target →
        ∃ lost, Loses lost socket target ∧ (KeepsTransmitBuffers fill → lost = 0) := by
    intro available reserved prepared target result reserve prepares submits
    rw [reserve] at reserving
    have turned := trans_of Evolves reserving reserved.shuffles_takeTurn.evolves
    obtain ⟨lost, loses, none⟩ := prepares.loses submits (turned sound).1
    have total := turned.loses.trans loses
    rw [zero_add] at total
    exact ⟨lost, total, none⟩
  cases sends with
  | failed reserve =>
    rw [reserve] at reserving
    exact ⟨0, reserving.loses, fun _ => rfl⟩
  | full reserve =>
    rw [reserve] at reserving
    exact ⟨0, reserving.loses, fun _ => rfl⟩
  | refused reserve prepares =>
    exact prepared reserve prepares (refl_of Evolves target).submits
  | nothing reserve prepares =>
    exact prepared reserve prepares (refl_of Evolves target).submits
  | @sent available reserved filled target frames woken reserve prepares room wake =>
    have waking := housekeeping_evolves.wakeTxIfNeeded frames.length
      (filled.commitTx (frames.map XdpTxFrame.desc))
    rw [wake] at waking
    exact prepared reserve prepares
      (submits_commitTx (refl_of Evolves filled) (by rwa [List.length_map]) waking)

end Batch

end FastSocket.Xdp
