import FastSocket.Xdp.DirectFlow

/-!
# The frames of a single socket

From opening on, every frame of a socket is in one place, as long as the callbacks of
direct batches drop no transmit buffer.
-/

namespace FastSocket.Xdp

open Packet Spsc Transition

/-- A step of the system of one socket. -/
inductive SocketAction where
  | call (action : MemberAction)
  | sendDirect (udp : XdpUdpConfig) (endpoint : XdpUdpEndpoint) (max : Nat)
      (fill : Nat → FillCall) (turns : List Turn)

/-- One step, if it is enabled.  A socket of its own is an aggregate of one member. -/
def XdpSocket.step : Step XdpSocket SocketAction
  | socket, .call action =>
    match Members.step [socket] action with
    | some [next] => some next
    | _ => none
  | socket, .sendDirect udp endpoint max fill turns =>
    let ended := (sendUdpEndpointDirectBatch udp endpoint max fill).run
      { socket with turns := turns }
    ended.1.2.map fun _ => ended.2

/-- The callback of a direct batch drops receive buffers only. -/
def SocketAction.KeepsTransmitBuffers : SocketAction → Prop
  | .call _ => True
  | .sendDirect _ _ _ fill _ => Xdp.KeepsTransmitBuffers fill

theorem loses_sendUdpEndpointDirectBatch (udp : XdpUdpConfig) (endpoint : XdpUdpEndpoint)
    (max : Nat) (fill : Nat → FillCall) {socket : XdpSocket} (sound : socket.Sound) :
    ∃ lost, Loses lost socket ((sendUdpEndpointDirectBatch udp endpoint max fill).run socket).2 ∧
      (KeepsTransmitBuffers fill → lost = 0) := by
  have unchanged : ∃ lost, Loses lost socket socket ∧ (KeepsTransmitBuffers fill → lost = 0) :=
    ⟨0, (refl_of Evolves socket).loses, fun _ => rfl⟩
  rw [sendUdpEndpointDirectBatch]
  split
  · exact unchanged
  · split
    · exact unchanged
    · split
      · exact unchanged
      · next batch _ =>
          obtain ⟨_, _, sends⟩ := directSends_sendDirect batch max fill socket
          exact sends.loses sound

variable {layout : FrameLayout} {socket target : XdpSocket} {before : Multiset Addr}
  {config : XdpSocketConfig}

theorem Distributed.lose {lost : Multiset Addr} (distributed : Distributed layout before [socket])
    (loses : Loses lost socket target) : Distributed layout (before + lost) [target] := by
  obtain ⟨sound, umem, reclaim, frames⟩ :=
    loses (distributed.sound socket (List.mem_singleton.mpr rfl))
  have found : [socket][0]? = some socket := rfl
  refine distributed.replace found umem reclaim sound ?_
  rw [frames, add_comm before, add_assoc]

/-- A step keeps the frames distributed, apart from those that a direct batch loses. -/
theorem Distributed.socketStep {action : SocketAction}
    (distributed : Distributed layout before [socket]) (taken : socket.step action = some target) :
    ∃ lost, Distributed layout (before + lost) [target] ∧
      (action.KeepsTransmitBuffers → lost = 0) := by
  cases action with
  | call action =>
    rw [XdpSocket.step] at taken
    split at taken
    case h_1 next stepped =>
      cases taken
      refine ⟨0, ?_, fun _ => rfl⟩
      rw [add_zero]
      exact distributed.move (Members.moves_step stepped)
    case h_2 => cases taken
  | sendDirect udp endpoint max fill turns =>
    obtain ⟨_, _, rfl⟩ := Option.map_eq_some_iff.mp taken
    have turned := (socket.shuffles_turns turns).evolves
    have sound := distributed.sound socket (List.mem_singleton.mpr rfl)
    obtain ⟨lost, loses, none⟩ :=
      loses_sendUdpEndpointDirectBatch udp endpoint max fill (turned sound).1
    have total := turned.loses.trans loses
    rw [zero_add] at total
    exact ⟨lost, distributed.lose total, none⟩

/-- The opened socket has all frames of its UMEM. -/
theorem XdpSocketConfig.openLive_spec (opened : config.openLive = some socket) :
    Distributed config.localLayout 0 [socket] := by
  rw [openLive] at opened
  obtain ⟨opens, ⟨⟩⟩ := Option.ite_none_right_eq_some.mp opened
  have distributed : Distributed config.localLayout 0 ((List.range 1).map fun index =>
      config.newMember config.localLayout (index * config.frameCount) config.rxFrames
        (config.frameCount - config.rxFrames)) :=
    distributed_newMembers opens config.slices_localLayout (Nat.mul_one _).symm
  rw [List.range_one, List.map_singleton, Nat.zero_mul] at distributed
  exact distributed

/-- The counters and pools of an opened socket agree with its rings in every run. -/
theorem sound_of_reached {opened : XdpSocket} {actions : List SocketAction}
    (opening : config.openLive = some opened)
    (reached : run XdpSocket.step opened actions = some socket) : socket.Sound := by
  have preserved : ∀ (source : XdpSocket) (action : SocketAction) (target : XdpSocket),
      (∃ lost, Distributed config.localLayout lost [source]) →
        source.step action = some target → ∃ lost, Distributed config.localLayout lost [target] := by
    rintro source action target ⟨before, distributed⟩ taken
    obtain ⟨lost, later, _⟩ := distributed.socketStep taken
    exact ⟨before + lost, later⟩
  obtain ⟨_, distributed⟩ := run_invariant_of_step preserved
    ⟨0, XdpSocketConfig.openLive_spec opening⟩ reached
  exact distributed.sound socket (List.mem_singleton.mpr rfl)

/-- In every run of an opened socket whose direct batches drop no transmit buffer, each
frame is in one place, and the counter of frames in flight agrees with the rings. -/
theorem socket_frames_in_one_place {config : XdpSocketConfig} {opened : XdpSocket}
    {actions : List SocketAction} (opening : config.openLive = some opened)
    (reached : run XdpSocket.step opened actions = some socket)
    (keeps : ∀ action ∈ actions, action.KeepsTransmitBuffers) :
    socket.umem = config.umem ∧
      Partitions (fun place => (↑(socket.framesAt place) : Multiset Addr))
        config.localLayout.frames ∧
      socket.txInFlight + socket.completion.taken = socket.tx.committed.length := by
  have preserved : ∀ (source : XdpSocket) (action : SocketAction) (target : XdpSocket),
      Distributed config.localLayout 0 [source] → action.KeepsTransmitBuffers →
        source.step action = some target → Distributed config.localLayout 0 [target] := by
    intro source action target distributed kept taken
    obtain ⟨lost, later, none⟩ := distributed.socketStep taken
    rwa [none kept, add_zero] at later
  have distributed := run_invariant preserved (XdpSocketConfig.openLive_spec opening) reached
    (.of_forall fun action member _ => keeps action member)
  have isMember : socket ∈ [socket] := List.mem_singleton.mpr rfl
  refine ⟨distributed.umem socket isMember, ?_, (distributed.sound socket isMember).balanced.1⟩
  apply partitions_of_sum config.localLayout.nodup_frames
  rw [XdpSocket.sum_framesAt, ← distributed.frames, add_zero]
  exact (add_zero _).symm

/-! ## Runs -/

/-- A socket of four frames of 2048 bytes. -/
def directConfig : XdpSocketConfig where
  frameSize := 2048
  frameSize_pow := ⟨11, rfl⟩
  frameSize_lt := by decide
  frameCount := 4
  frameCount_lt := Umem.fourFrames.frameCount_lt
  rings := { fill := 4, completion := 4, rx := 4, tx := 4 }
  rxL2Headroom := 14
  txDataOffset := 42

/-- An endpoint whose header has not been built yet. -/
def sampleEndpoint : XdpUdpEndpoint :=
  { spec := sampleEndpointSpec 0xc6336414#32
    info := { mtu := 0, payloadLen := none, gsoSegmentSize := none }
    cached := none }

/-- One packet is sent by a callback that drops the buffers of `drops`, while the
application holds a transmit buffer. -/
def directBatchDropping (drops : List HeldFrame) : List SocketAction :=
  [.call (.allocateTxBatch 0 1 []),
    .sendDirect sampleUdpConfig sampleEndpoint 1 (fun _ => { payload := [1], drops := drops }) []]

theorem socket_frames_in_one_place_direct :
    ∃ opened socket, directConfig.openLive = some opened ∧
      run XdpSocket.step opened (directBatchDropping []) = some socket ∧
      Partitions (fun place => (↑(socket.framesAt place) : Multiset Addr))
        directConfig.localLayout.frames := by
  have finishes : (directConfig.openLive.bind fun opened =>
      run XdpSocket.step opened (directBatchDropping [])).isSome = true := by decide +kernel
  obtain ⟨socket, finished⟩ := Option.isSome_iff_exists.mp finishes
  obtain ⟨opened, opening, reached⟩ := Option.bind_eq_some_iff.mp finished
  have keeps : ∀ action ∈ directBatchDropping [], action.KeepsTransmitBuffers := by
    simp [directBatchDropping, SocketAction.KeepsTransmitBuffers, KeepsTransmitBuffers]
  exact ⟨opened, socket, opening, reached,
    (socket_frames_in_one_place opening reached keeps).2.1⟩

/-- The frame of a transmit buffer that the callback drops is lost. -/
theorem directBatch_loses_frame :
    ∃ opened socket, directConfig.openLive = some opened ∧
      run XdpSocket.step opened (directBatchDropping [⟨.tx, 6144#64⟩]) = some socket ∧
      ∃ frame ∈ directConfig.localLayout.frames, ∀ place, frame ∉ socket.framesAt place := by
  have left : (directConfig.openLive.bind fun opened =>
      run XdpSocket.step opened (directBatchDropping [⟨.tx, 6144#64⟩])).map
        (fun socket => FramePlace.all.flatMap socket.framesAt) =
      some [0#64, 2048#64, 4096#64] := by decide +kernel
  obtain ⟨socket, finished, places⟩ := Option.map_eq_some_iff.mp left
  obtain ⟨opened, opening, reached⟩ := Option.bind_eq_some_iff.mp finished
  refine ⟨opened, socket, opening, reached, 6144#64, by decide, ?_⟩
  intro place member
  have somewhere := List.mem_flatMap.mpr ⟨place, FramePlace.mem_all place, member⟩
  rw [places] at somewhere
  exact absurd somewhere (by decide)

end FastSocket.Xdp
