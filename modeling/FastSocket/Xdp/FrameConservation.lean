import FastSocket.Xdp.FramePlaces
import FastSocket.Xdp.MemberSend

/-!
# Frames are conserved

From opening on, every frame of an aggregate is in exactly one place.
-/

namespace FastSocket.Xdp

open Packet Spsc Transition

/-! ## Opened sockets -/

namespace XdpSocketConfig

variable {config : XdpSocketConfig} {layout : FrameLayout} {base : Nat}
  {rxRemoteCapacity txRemoteCapacity : Nat}

/-- A new socket of the frames of a layout. -/
abbrev newMember (config : XdpSocketConfig) (layout : FrameLayout) (base : Nat)
    (rxRemoteCapacity txRemoteCapacity : Nat) : XdpSocket :=
  config.newSocket layout.umem layout.reclaim base rxRemoteCapacity txRemoteCapacity

/-- The frames with the indices of a range. -/
def frameRange (layout : FrameLayout) (start count : Nat) : List Addr :=
  (List.range' start count).map layout.umem.frameOffset

theorem entries_fill_newMember (opens : config.Opens) :
    (config.newMember layout base rxRemoteCapacity txRemoteCapacity).fill.entries =
      frameRange layout base config.rxFrames := by
  have fits : (frameRange layout base config.rxFrames).length ≤
      (ProducerQueue.empty config.rings.fill : ProducerQueue Addr).available := by
    have room := opens.2.2.2
    simpa [frameRange, ProducerQueue.available, ProducerQueue.empty] using room
  exact ProducerQueue.entries_publish _ fits

theorem receiveFrames_newMember (opens : config.Opens) :
    (config.newMember layout base rxRemoteCapacity txRemoteCapacity).receiveFrames =
      ↑(frameRange layout base config.rxFrames) := by
  rw [XdpSocket.receiveFrames, entries_fill_newMember opens]
  simp [newSocket, ConsumerQueue.entries, ConsumerQueue.empty, FrameReclaim.frames,
    FrameReclaim.withRemoteCapacity, framesOf]

theorem transmitFrames_newMember :
    (config.newMember layout base rxRemoteCapacity txRemoteCapacity).transmitFrames =
      ↑(frameRange layout (base + config.rxFrames) (config.frameCount - config.rxFrames)) := by
  simp [XdpSocket.transmitFrames, newSocket, FrameReclaim.frames,
    FrameReclaim.withRemoteCapacity, framesOf, frameRange]

theorem inFlightFrames_newMember :
    (config.newMember layout base rxRemoteCapacity txRemoteCapacity).inFlightFrames = 0 := by
  simp [XdpSocket.inFlightFrames, newSocket, ProducerQueue.entries, ProducerQueue.empty,
    ConsumerQueue.entries, ConsumerQueue.empty]

theorem frameRange_append (layout : FrameLayout) (start first second : Nat) :
    frameRange layout start first ++ frameRange layout (start + first) second =
      frameRange layout start (first + second) := by
  rw [frameRange, frameRange, ← List.map_append, List.range'_append_1, frameRange]

theorem allFrames_newMember (opens : config.Opens) :
    (config.newMember layout base rxRemoteCapacity txRemoteCapacity).allFrames =
      ↑(frameRange layout base config.frameCount) := by
  rw [XdpSocket.allFrames, XdpSocket.sideFrames, XdpSocket.sideFrames,
    receiveFrames_newMember opens, transmitFrames_newMember, inFlightFrames_newMember, add_zero,
    Multiset.coe_add, frameRange_append, Nat.add_sub_cancel' config.rxFrames_le]

theorem mem_frameRange {start count : Nat} {frame : Addr}
    (member : frame ∈ frameRange layout start count) :
    ∃ index, start ≤ index ∧ index < start + count ∧ frame = layout.umem.frameOffset index := by
  obtain ⟨index, inside, rfl⟩ := List.mem_map.mp member
  obtain ⟨le, lt⟩ := List.mem_range'_1.mp inside
  exact ⟨index, le, lt, rfl⟩

/-- The position of a frame in its slice. -/
theorem mod_frameCount (aligned : config.frameCount ∣ base) {index : Nat} (le : base ≤ index)
    (lt : index < base + config.frameCount) : index % config.frameCount = index - base := by
  obtain ⟨member, rfl⟩ := aligned
  conv_lhs => rw [← Nat.sub_add_cancel le, Nat.add_mul_mod_self_left]
  exact Nat.mod_eq_of_lt (by omega)

theorem sound_newMember (opens : config.Opens)
    (slices : layout.Slices config.frameCount config.rxFrames) (aligned : config.frameCount ∣ base)
    (inside : base + config.frameCount ≤ layout.count) :
    (config.newMember layout base rxRemoteCapacity txRemoteCapacity).Sound := by
  have rx_le := config.rxFrames_le
  have inUse : ∀ index, index < base + config.frameCount →
      (config.newMember layout base rxRemoteCapacity txRemoteCapacity).InUse
        (layout.umem.frameOffset index) := by
    intro index lt
    exact layout.inUse_of_mem (List.mem_map_of_mem (List.mem_range.mpr (by omega)))
  refine ⟨⟨rfl, rfl⟩, ?_, ?_⟩
  · intro kind frame member
    cases kind with
    | rx =>
      rw [XdpSocket.sideFrames, receiveFrames_newMember opens] at member
      obtain ⟨index, le, lt, rfl⟩ := mem_frameRange (Multiset.mem_coe.mp member)
      refine ⟨inUse index (by omega), (slices index (by omega)).trans (if_pos ?_)⟩
      rw [mod_frameCount aligned le (by omega)]
      omega
    | tx =>
      rw [XdpSocket.sideFrames, transmitFrames_newMember] at member
      obtain ⟨index, le, lt, rfl⟩ := mem_frameRange (Multiset.mem_coe.mp member)
      refine ⟨inUse index (by omega), (slices index (by omega)).trans (if_neg ?_)⟩
      rw [mod_frameCount aligned (by omega) (by omega)]
      omega
  · intro frame member
    rw [inFlightFrames_newMember] at member
    cases Multiset.notMem_zero _ member

theorem fits_newMember (opens : config.Opens) :
    (config.newMember layout base rxRemoteCapacity txRemoteCapacity).Fits := by
  intro kind
  rw [XdpSocket.population, inFlightFrames_newMember, Multiset.filter_zero, Multiset.card_zero,
    Nat.add_zero]
  cases kind with
  | rx =>
    rw [XdpSocket.sideFrames, receiveFrames_newMember opens, Multiset.coe_card]
    refine ⟨rfl, Nat.le_of_eq ?_⟩
    simp [frameRange, XdpSocket.pool, newSocket, FrameReclaim.withRemoteCapacity]
  | tx =>
    rw [XdpSocket.sideFrames, transmitFrames_newMember, Multiset.coe_card]
    exact ⟨rfl, Nat.le_refl _⟩

/-- The slices of the members, one after the other, are all frames. -/
theorem sum_frameRange (layout : FrameLayout) (sliceLen members : Nat) :
    ((List.range members).map fun index =>
      (↑(frameRange layout (index * sliceLen) sliceLen) : Multiset Addr)).sum =
      ↑(frameRange layout 0 (sliceLen * members)) := by
  induction members with
  | zero => rfl
  | succ members ih =>
    rw [List.range_succ, List.map_append, List.sum_append, ih, List.map_singleton,
      List.sum_singleton, Multiset.coe_add, Nat.mul_succ, ← frameRange_append, Nat.zero_add,
      Nat.mul_comm members]

theorem frames_eq_frameRange (layout : FrameLayout) :
    layout.frames = frameRange layout 0 layout.count := by
  rw [FrameLayout.frames, List.range_eq_range', frameRange]

/-- New sockets with slices of a layout share its frames. -/
theorem distributed_newMembers (opens : config.Opens)
    (slices : layout.Slices config.frameCount config.rxFrames) {members : Nat}
    (count : layout.count = config.frameCount * members) :
    Distributed layout 0 ((List.range members).map fun index =>
      config.newMember layout (index * config.frameCount) rxRemoteCapacity txRemoteCapacity) where
  umem := by simp [newSocket]
  reclaim := by simp [newSocket]
  sound := by
    rw [List.forall_mem_map]
    intro index inside
    apply sound_newMember opens slices (Nat.dvd_mul_left _ _)
    rw [count, ← Nat.succ_mul, Nat.mul_comm]
    exact Nat.mul_le_mul_left _ (List.mem_range.mp inside)
  frames := by
    rw [add_zero, total, List.map_map, frames_eq_frameRange, count, ← sum_frameRange]
    congr 1
    apply List.map_congr_left
    intro index _
    exact allFrames_newMember opens

/-- A new socket has frames in the FILL ring and in the free list for transmission
only. -/
theorem framesAt_newMember {place : FramePlace} (notFill : place ≠ .fillRing)
    (notFree : place ≠ .txFree) :
    (config.newMember layout base rxRemoteCapacity txRemoteCapacity).framesAt place = [] := by
  cases place with
  | fillRing => exact absurd rfl notFill
  | txFree => exact absurd rfl notFree
  | _ => rfl

/-- Every member of an aggregate opens with a slice of the frames of one layout. -/
theorem openSharedMembers_spec {queues : List QueueId} {members : Members}
    (opened : config.openSharedMembers queues = some members) :
    config.Opens ∧ ∃ layout : FrameLayout, layout.count = config.frameCount * queues.length ∧
      Distributed layout 0 members ∧
      ∀ socket ∈ members, ∃ base rxRemoteCapacity txRemoteCapacity,
        socket = config.newMember layout base rxRemoteCapacity txRemoteCapacity := by
  rw [openSharedMembers] at opened
  obtain ⟨⟨_, _, opens, _⟩, opened⟩ := Option.ite_none_right_eq_some.mp opened
  split at opened
  case isTrue fits =>
    cases opened
    refine ⟨opens, sharedLayout fits, rfl, ?_, ?_⟩
    · exact distributed_newMembers opens (slices_sharedLayout fits opens.2.1) rfl
    · rw [List.forall_mem_map]
      exact fun index _ => ⟨_, _, _, rfl⟩
  case isFalse => cases opened

end XdpSocketConfig

/-! ## Steps -/

/-- The member that an action sends through, and the buffers of its batch. -/
def MemberAction.submission? : MemberAction → Option (Nat × List OwnedFrame)
  | .send member _ _ _ batch _ => some (member, slotFrames (·.packet) batch)
  | .sendUdp member _ batch _ => some (member, slotFrames (·.packet) batch)
  | .sendToUdpEndpoint member _ _ batch _ => some (member, slotFrames (·.packet) batch)
  | _ => none

/-- What a step does: it changes one member without a submission, or it is a send. -/
inductive Members.Moves (members : Members) (action : MemberAction) : Members → Prop
  | evolves {member : Nat} {socket target : XdpSocket} (found : members[member]? = some socket)
      (evolves : Evolves socket target) : Moves members action (members.set member target)
  | sends {κ α : Type} {packet : α → XdpPacketBuf} {batch : List (TxSlot α)}
      {program : StateM XdpSocket (Option (SendOutcome κ α))} {member : Nat} {turns : List Turn}
      {next : Members} (guarantee : SubmitsPrefix packet batch program)
      (submission : action.submission? = some (member, slotFrames packet batch))
      (sent : members.send member turns packet batch program = some next) :
      Moves members action next

namespace Members

variable {members next : Members} {action : MemberAction}

theorem moves_call {β : Type} {member : Nat} {turns : List Turn} {program : StateM XdpSocket β}
    (follows : Follows Evolves program)
    (called : (members.call member turns program).map Prod.snd = some next) :
    Moves members action next := by
  obtain ⟨ended, returned, rfl⟩ := Option.map_eq_some_iff.mp called
  obtain ⟨socket, found, _, stateEq⟩ := call_eq_some returned
  rw [stateEq]
  exact .evolves found (trans_of Evolves (socket.shuffles_turns turns).evolves (follows _))

theorem moves_step (taken : members.step action = some next) : Moves members action next := by
  cases action with
  | environment member action =>
    simp only [step, Option.bind_eq_bind, Option.bind_eq_some_iff] at taken
    obtain ⟨socket, found, target, moved, ⟨⟩⟩ := taken
    exact .evolves found (XdpSocket.shuffles_environmentStep moved).evolves
  | drop member buffer =>
    obtain ⟨socket, found, isHeld, rfl⟩ := withHeld_eq_some taken
    exact .evolves found (XdpSocket.shuffles_dropBuffer isHeld).evolves
  | allocateTxBatch member max turns => exact moves_call (follows_allocateTxBatchInner max) taken
  | recv member parse remaining turns => exact moves_call (follows_recvInner parse remaining) taken
  | drainTxCompletions member turns =>
    exact moves_call housekeeping_evolves.drainTxCompletionsInner taken
  | notifyTx member turns => exact moves_call housekeeping_evolves.wakeTx taken
  | send member ifindex queueId mtu batch turns =>
    exact .sends (submitsPrefix_sendInner ifindex queueId mtu batch) rfl taken
  | sendUdp member udp batch turns => exact .sends (submitsPrefix_sendUdpInner udp batch) rfl taken
  | sendToUdpEndpoint member udp endpoint batch turns =>
    obtain ⟨hasHeader, sent⟩ := Option.ite_none_right_eq_some.mp taken
    exact .sends (submitsPrefix_sendUdpEndpointInner udp hasHeader batch) rfl sent

end Members

/-! ## Runs -/

variable {layout : FrameLayout} {loose : Multiset Addr} {members next : Members}

theorem Distributed.move {action : MemberAction} (distributed : Distributed layout loose members)
    (moves : members.Moves action next) : Distributed layout loose next := by
  cases moves with
  | evolves found evolves => exact distributed.evolve found evolves
  | sends guarantee _ sent => exact distributed.send guarantee sent

theorem Distributed.run {actions : List MemberAction} (distributed : Distributed layout 0 members)
    (reached : run Members.step members actions = some next) : Distributed layout 0 next :=
  run_invariant_of_step (fun _ _ _ holds taken => holds.move (Members.moves_step taken))
    distributed reached

/-- The members of an aggregate open with each of their frames, and no other frame of
the UMEM, in a FILL ring or in a free list for transmission; in every run each of the
frames is in one place of one member, and no other frame is in any place. -/
theorem shared_frames_in_one_place {config : XdpSocketConfig} {queues : List QueueId}
    {opened members : Members} {actions : List MemberAction}
    (opening : config.openSharedMembers queues = some opened)
    (reached : run Members.step opened actions = some members) :
    ∃ layout : FrameLayout, layout.count = config.frameCount * queues.length ∧
      (∀ socket ∈ members, socket.umem = layout.umem) ∧
      Partitions opened.framesAt layout.frames ∧
      (∀ spot, spot.2 ≠ .fillRing → spot.2 ≠ .txFree → opened.framesAt spot = 0) ∧
      Partitions members.framesAt layout.frames := by
  obtain ⟨_, layout, count, distributed, new⟩ := XdpSocketConfig.openSharedMembers_spec opening
  have later := distributed.run reached
  refine ⟨layout, count, later.umem, distributed.partitions, ?_, later.partitions⟩
  intro spot notFill notFree
  obtain ⟨base, rxRemoteCapacity, txRemoteCapacity, isNew⟩ :=
    new opened[spot.1] (List.getElem_mem spot.1.isLt)
  rw [Members.framesAt, isNew, XdpSocketConfig.framesAt_newMember notFill notFree, Multiset.coe_nil]

/-! ## A run -/

/-- Sockets of two frames of 64 bytes. -/
def smallConfig : XdpSocketConfig where
  frameSize := 64
  frameSize_pow := Umem.fourFrames.frameSize_pow
  frameSize_lt := Umem.fourFrames.frameSize_lt
  frameCount := 2
  frameCount_lt := by decide
  rings := { fill := 2, completion := 2, rx := 2, tx := 2 }
  rxL2Headroom := 14
  txDataOffset := 42

/-- The buffer of a received frame, with a payload of one byte. -/
def receivedBuffer (member : Nat) (frameAddr : Addr) : XdpPacketBuf where
  member := member
  pool := .rx
  frameAddr := some frameAddr
  l2Headroom := 14
  front := List.replicate 42 0
  packet := [1]
  back := List.replicate 21 0
  l2Headroom_le := by decide

def sampleUdpConfig : XdpUdpConfig :=
  { localAddr := sampleLocalAddr, ttl := 64#8, routeContext := sampleContext
    resolveUdpL2 := sampleRouter, routeGeneration := 1 }

def sampleTransmit (packet : XdpPacketBuf) : UdpTransmit XdpPacketBuf :=
  { packet := packet
    destination := .v4 { ip := 0xc6336414#32, port := 4433#16 }
    sourceIp := none
    sourcePort := none
    ecn := none
    gsoSegmentSize := none }

/-- The kernel delivers a packet in the posted frame of a member, and the application
receives it. -/
def receiveOne (member : Nat) (frameAddr : Addr) : List MemberAction :=
  [.environment member (.takeFill 1),
    .environment member (.deliver 0 { addr := frameAddr + 42, len := 1, options := 0 }),
    .recv member (fun _ => some (0, 1)) 1 []]

/-- The packets received by two members are sent through the second of them, and their
frames are completed there. -/
def crossedSends : List MemberAction :=
  receiveOne 0 0 ++ receiveOne 1 128 ++
    [.sendUdp 1 sampleUdpConfig
        [.ready (sampleTransmit (receivedBuffer 0 0)),
          .ready (sampleTransmit (receivedBuffer 1 128))] [],
      .environment 1 (.takeTx 2), .environment 1 (.complete 0), .environment 1 (.complete 0),
      .drainTxCompletions 1 []]

theorem shared_frames_in_one_place_crossed :
    ∃ opened members, smallConfig.openSharedMembers [0, 1] = some opened ∧
      run Members.step opened crossedSends = some members ∧
      ∃ layout : FrameLayout, layout.count = 4 ∧ Partitions members.framesAt layout.frames := by
  have finishes : ((smallConfig.openSharedMembers [0, 1]).bind fun opened =>
      run Members.step opened crossedSends).isSome = true := by decide +kernel
  obtain ⟨members, finished⟩ := Option.isSome_iff_exists.mp finishes
  obtain ⟨opened, opening, reached⟩ := Option.bind_eq_some_iff.mp finished
  obtain ⟨layout, count, _, _, _, partitions⟩ := shared_frames_in_one_place opening reached
  exact ⟨opened, members, opening, reached, layout, count, partitions⟩

end FastSocket.Xdp
