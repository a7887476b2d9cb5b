import FastSocket.Xdp.SameFrames

/-!
# Frames of a whole batch

When every packet of a batch is framed with one header, a send publishes that header in
front of as many payloads as the TX ring has room for, on the slot paths and in a direct
batch.
-/

namespace FastSocket.Xdp

open Packet Transition

variable {κ α : Type}

/-! ## Batches of slots -/

/-- The TX slots that a send reserves. -/
def XdpSocket.reservable (socket : XdpSocket) : Nat :=
  (reserveBatch.run socket).1.toOption.getD 0

variable {socket target : XdpSocket}

theorem XdpSocket.reservable_of_ok {available : Nat}
    (reserve : reserveBatch.run socket = (.ok available, target)) :
    socket.reservable = available := by
  rw [reservable, reserve]
  rfl

section Slots

variable {prepare : κ → α → Prepared κ α} {cache : κ} {header : List Byte}
  {make : XdpPacketBuf → α} {packets : List XdpPacketBuf}

/-- A loop that prepares each packet with the same header keeps the cache and skips none. -/
theorem prepareSlots_of_forall
    (kept : ∀ item, (prepare cache item).cache = cache)
    (each : ∀ packet ∈ packets, ∃ frame, (prepare cache (make packet)).frame = .ok frame ∧
      frame.bytes = header ++ packet.packet) :
    (prepareSlots prepare cache (packets.map fun packet => .ready (make packet))).frames.map
        XdpTxFrame.bytes = packets.map fun packet => header ++ packet.packet := by
  induction packets with
  | nil => rfl
  | cons packet rest ih =>
    obtain ⟨⟨frame, prepared, bytes⟩, others⟩ := List.forall_mem_cons.mp each
    have same := kept (make packet)
    rw [List.map_cons, prepareSlots]
    generalize prepare cache (make packet) = result at prepared same
    obtain ⟨next, left, outcome⟩ := result
    cases same
    cases prepared
    exact congrArg₂ List.cons bytes (ih others)

/-- A send publishes the frames of as many packets as it has reserved slots. -/
theorem Sends.sent_of_forall {outcome : SendOutcome κ α}
    (sends : Sends prepare cache (packets.map fun packet => .ready (make packet)) socket outcome
      target) (kept : ∀ item, (prepare cache item).cache = cache)
    (each : ∀ packet ∈ packets, ∃ frame, (prepare cache (make packet)).frame = .ok frame ∧
      frame.bytes = header ++ packet.packet) :
    outcome.sent.map XdpTxFrame.bytes =
      (packets.take socket.reservable).map fun packet => header ++ packet.packet := by
  have frames : ∀ available, (prepareSlots prepare cache ((packets.map fun packet =>
      .ready (make packet)).take available)).frames.map XdpTxFrame.bytes =
        (packets.take available).map fun packet => header ++ packet.packet := by
    intro available
    rw [← List.map_take]
    exact prepareSlots_of_forall kept fun packet member =>
      each packet (List.mem_of_mem_take member)
  cases sends with
  | failed reserve =>
    rw [XdpSocket.reservable, reserve]
    rfl
  | @nothing available _ _ reserve loop noFrames =>
    have none := frames available
    rw [loop, noFrames] at none
    rw [XdpSocket.reservable_of_ok reserve]
    exact none
  | @sent available _ _ _ _ reserve loop someFrames fits wake =>
    rw [XdpSocket.reservable_of_ok reserve, ← loop]
    exact frames available

end Slots

/-! ## Direct batches -/

/-- The free frames that a direct batch fills. -/
def XdpSocket.directFrames (socket : XdpSocket) (max : Nat) : Nat :=
  let count := min max socket.reservable
  min count ((reserveBatch.run socket).2.takeTurn.2.fetchTx count).txReclaim.free.length

section Direct

variable {write : Addr → List Byte → Except Error XdpTxFrame} {fill : Nat → FillCall}
  {header : List Byte}

/-- A loop in which every payload can be written fills all frames. -/
theorem fillFrames_of_forall {written : Nat} {addrs : List Addr} (socket : XdpSocket)
    (each : ∀ index, index < written + addrs.length → ∀ addr,
      ∃ frame, write addr (fill index).payload = .ok frame ∧
        frame.bytes = header ++ (fill index).payload) :
    ∃ frames, (fillFrames write fill written addrs socket).1 = .ok frames ∧
      frames.map XdpTxFrame.bytes =
        (List.range' written addrs.length).map fun index => header ++ (fill index).payload := by
  induction addrs generalizing written socket with
  | nil => exact ⟨[], rfl, rfl⟩
  | cons addr rest ih =>
    rw [List.length_cons] at each
    obtain ⟨frame, wrote, bytes⟩ := each written (by omega) addr
    obtain ⟨frames, filled, rests⟩ := @ih (written + 1)
      ((fill written).drops.foldl XdpSocket.dropIfHeld socket)
      (fun index inside => each index (by omega))
    refine ⟨frame :: frames, ?_, ?_⟩
    · rw [fillFrames]
      dsimp only
      rw [wrote]
      dsimp only
      rw [filled]
      rfl
    · rw [List.map_cons, List.length_cons, List.range'_succ, List.map_cons, bytes, rests]

theorem sent_of_commitFrames {frames : List XdpTxFrame} {outcome : DirectOutcome}
    (committed : ((commitFrames frames).run socket).1 = some outcome) : outcome.sent = frames := by
  rw [commitFrames, run_bind, run_modifyGet] at committed
  split at committed
  · cases committed
    rfl
  · cases committed

variable {batch : EndpointBatch} {max : Nat}

/-- A batch with room in front of its payloads, all of which can be written, fills as many
frames as are wanted and free. -/
theorem prepareEndpointBatch_of_forall (socket : XdpSocket)
    (admits : batch.Admits socket.txDataOffset socket.umem.frameSize)
    (each : ∀ index < max, ∀ headerStart addr,
      ∃ frame, batch.writeFrame headerStart addr (fill index).payload = .ok frame ∧
        frame.bytes = header ++ (fill index).payload) :
    ∃ frames, (socket.prepareEndpointBatch batch max fill).1 = .ok frames ∧
      frames.map XdpTxFrame.bytes =
        (List.range (min max (socket.fetchTx max).txReclaim.free.length)).map
          fun index => header ++ (fill index).payload := by
  by_cases zero : max = 0
  · subst zero
    rw [Nat.zero_min]
    exact ⟨[], rfl, rfl⟩
  · rw [XdpSocket.prepareEndpointBatch, if_neg zero, if_pos admits]
    dsimp only
    generalize (socket.fetchTx max).txReclaim.free = free
    have length : (free.drop (free.length - min max free.length)).reverse.length =
        min max free.length := by
      rw [List.length_reverse, List.length_drop]
      omega
    obtain ⟨frames, filled, bytes⟩ := @fillFrames_of_forall _ fill header 0
      (free.drop (free.length - min max free.length)).reverse (socket.fetchTx max)
      (fun index inside => each index (by omega) (socket.txDataOffset - batch.header.length))
    rw [length, ← List.range_eq_range'] at bytes
    refine ⟨frames, ?_, bytes⟩
    rw [filled]

/-- The size of the frames and the place of the payloads in them. -/
def SameGeometry (source target : XdpSocket) : Prop :=
  target.umem = source.umem ∧ target.txDataOffset = source.txDataOffset

instance : Std.Refl SameGeometry :=
  ⟨fun _ => ⟨rfl, rfl⟩⟩

instance : IsTrans XdpSocket SameGeometry :=
  ⟨fun _ _ _ first second => ⟨second.1.trans first.1, second.2.trans first.2⟩⟩

theorem sameGeometry_takeTurn (socket : XdpSocket) : SameGeometry socket socket.takeTurn.2 := by
  refine XdpSocket.respects_takeTurn (fun _ _ => ⟨rfl, rfl⟩) ?_ socket
  intro socket next action taken
  obtain ⟨_, _, _, _, _, _, _, _, _, _, _, rfl⟩ := socket.environmentStep_frame taken
  exact ⟨rfl, rfl⟩

theorem reserving_sameGeometry : Reserving SameGeometry where
  turn := sameGeometry_takeTurn
  drain socket := by
    obtain ⟨_, _, _, _, _, drained⟩ := socket.reclaimCompletions_frame
    rw [drained]
    exact ⟨rfl, rfl⟩
  count _ := ⟨rfl, rfl⟩

/-- A direct batch with room for its headers and payloads publishes all frames that it can
fill. -/
theorem sendDirect_of_forall (socket : XdpSocket)
    (admits : batch.Admits socket.txDataOffset socket.umem.frameSize)
    (each : ∀ index < max, ∀ headerStart addr,
      ∃ frame, batch.writeFrame headerStart addr (fill index).payload = .ok frame ∧
        frame.bytes = header ++ (fill index).payload) :
    ∃ outcome, ((sendDirect batch max fill).run socket).1 = some outcome ∧
      outcome.sent.map XdpTxFrame.bytes =
        (List.range (socket.directFrames max)).map fun index => header ++ (fill index).payload := by
  obtain ⟨outcome, returned, _⟩ := directSends_sendDirect batch max fill socket
  refine ⟨outcome, returned, ?_⟩
  have geometry := trans_of SameGeometry (reserving_sameGeometry.reserveBatch socket)
    (sameGeometry_takeTurn _)
  rw [← geometry.1, ← geometry.2] at admits
  rw [XdpSocket.directFrames, XdpSocket.reservable]
  rw [sendDirect, run_bind] at returned
  generalize reserveBatch.run socket = reserve at returned admits ⊢
  obtain ⟨_ | available, reserved⟩ := reserve
  · cases returned
    change [] = List.map _ (List.range (min (min max 0) _))
    rw [Nat.min_zero, Nat.zero_min]
    rfl
  · dsimp only at returned admits ⊢
    change _ = List.map _ (List.range (min (min max available)
      (reserved.takeTurn.2.fetchTx (min max available)).txReclaim.free.length))
    by_cases full : available = 0
    · subst full
      cases returned
      rw [Nat.min_zero, Nat.zero_min]
      rfl
    · have few : ∀ index < min max available, index < max :=
        fun index inside => Nat.lt_of_lt_of_le inside (Nat.min_le_left _ _)
      obtain ⟨frames, prepared, bytes⟩ := prepareEndpointBatch_of_forall reserved.takeTurn.2 admits
        (fun index inside => each index (few index inside))
      rw [if_neg full, run_bind, interleave, run_modifyGet, run_bind, run_modifyGet,
        prepared] at returned
      rw [← bytes]
      by_cases noFrames : frames = []
      · subst noFrames
        cases returned
        rfl
      · dsimp only at returned
        rw [if_neg noFrames] at returned
        rw [sent_of_commitFrames returned]

end Direct

end FastSocket.Xdp
