import FastSocket.Xdp.CorruptCompletions
import FastSocket.Xdp.FrameBuf
import FastSocket.Xdp.PrepareBatch

/-!
# Direct batches are prepared as a whole

A preparation takes frames out of the pool for all of its payloads or for none.
-/

namespace FastSocket.Xdp

open Packet

/-- The frames of a pool, on its own list and dropped by other threads. -/
def XdpTxPool.frames (pool : XdpTxPool) : Multiset Addr :=
  match pool.live with
  | none => 0
  | some live => live.reclaim.frames

/-- A preparation that has taken frames out of the pool: as many as there are up to `max`,
with one descriptor for each of them in the order of the callback's calls. -/
structure TakesFrames (pool : XdpTxPool) (out : List XdpDesc) (batch : EndpointBatch) (max : Nat)
    (fillPayload : Nat → List Byte) (taken : List Addr) (prepared : Preparation) : Prop where
  result : prepared.result = .ok {
    prepared := taken.length
    txBytes := ((List.range taken.length).map fun index =>
      batch.header.length - batch.l2Len + (fillPayload index).length).sum }
  count : taken.length = min max pool.frames.card
  removed : prepared.pool.frames + ↑taken = pool.frames
  distinct : taken.Nodup
  descs : prepared.out = out ++ taken.mapIdx fun index frameAddr =>
    { addr := frameAddr + BitVec.ofNat 64 (pool.dataOffset - batch.header.length)
      len := batch.header.length + (fillPayload index).length
      options := 0 }
  inside : ∀ live, pool.live = some live → ∀ index frameAddr, taken[index]? = some frameAddr →
    let start := (frameAddr + BitVec.ofNat 64 (pool.dataOffset - batch.header.length)).toNat
    frameAddr.toNat ≤ start ∧
      start + (batch.header.length + (fillPayload index).length) ≤
        frameAddr.toNat + live.umem.frameSize

section Fetch

variable (live : LiveTxPool) (max : Nat)

theorem LiveTxPool.frames_fetch : (live.fetch max).reclaim.frames = live.reclaim.frames := by
  rw [fetch]
  split
  · exact live.reclaim.frames_drainRemote
  · rfl

theorem LiveTxPool.umem_fetch : (live.fetch max).umem = live.umem := by
  rw [fetch]
  split <;> rfl

/-- The free list has `max` frames, or all frames of the pool. -/
theorem LiveTxPool.min_length_fetch :
    min max (live.fetch max).reclaim.free.length = min max live.reclaim.frames.card := by
  rw [fetch]
  split
  · simp [FrameReclaim.drainRemote, FrameReclaim.frames]
  · rename_i enough
    simp only [FrameReclaim.frames, Multiset.card_add, Multiset.coe_card]
    omega

theorem LiveTxPool.frames_retain (retainLen : Nat) :
    (live.retain retainLen).reclaim.frames + ↑(live.reclaim.free.drop retainLen).reverse =
      live.reclaim.frames := by
  simp only [retain, FrameReclaim.frames, Multiset.coe_reverse]
  conv_rhs => rw [← List.take_append_drop retainLen live.reclaim.free, ← Multiset.coe_add]
  abel

end Fetch

theorem bases_of_ofCache {header : List Byte} {l2Len : Nat} {patch : XdpEndpointHeaderPatch}
    (built : XdpEndpointHeaderPatch.ofCache header l2Len = some patch) :
    patch.transportLenBase.toNat ≤ patch.totalLenBase.toNat := by
  simp only [XdpEndpointHeaderPatch.ofCache, XdpEndpointHeaderPatch.new, Option.bind_eq_bind,
    Option.bind_eq_some_iff] at built
  obtain ⟨_, _, _, _, _, _, _, _, _, _, built⟩ := built
  split at built
  · cases built
  · cases built
    exact (by decide : (BitVec.ofNat 16 udpHeaderLen).toNat ≤
      (BitVec.ofNat 16 (ipv4MinHeaderLen + udpHeaderLen)).toNat)

/-- A descriptor of a frame of the UMEM lies in the frame. -/
theorem start_in_frame {umem : Umem} {frameAddr : Addr} (isFrame : umem.IsFrame frameAddr)
    {headerStart len : Nat} (fits : headerStart + len ≤ umem.frameSize) :
    frameAddr.toNat ≤ (frameAddr + BitVec.ofNat 64 headerStart).toNat ∧
      (frameAddr + BitVec.ofNat 64 headerStart).toNat + len ≤
        frameAddr.toNat + umem.frameSize := by
  have ends := isFrame.end_le
  have width := umem.byteLen_lt
  have start : (frameAddr + BitVec.ofNat 64 headerStart).toNat =
      frameAddr.toNat + headerStart := by
    rw [BitVec.toNat_add, BitVec.toNat_ofNat, Nat.add_mod_mod, Nat.mod_eq_of_lt (by omega)]
  omega

theorem map_mapIdx_eq_map_range {α β γ : Type*} {entries : List α} {change : Nat → α → β}
    {read : β → γ} {value : Nat → γ} (reads : ∀ index entry, read (change index entry) = value index) :
    (entries.mapIdx change).map read = (List.range entries.length).map value := by
  apply List.ext_getElem
  · simp
  · intro index _ _
    simp [reads]

variable {pool : XdpTxPool} {batch : EndpointBatch} {max : Nat} {live : LiveTxPool}

/-- Accepted payloads take the last frames of the free list. -/
theorem takesFrames_of_writeFrames {out : List XdpDesc} {count : Nat}
    {fillPayload : Nat → List Byte} {fetched : LiveTxPool} {frames : List XdpTxFrame}
    (isLive : pool.live = some live) (admits : batch.Admits pool.dataOffset live.umem.frameSize)
    (distinct : pool.frames.Nodup) (bases : ∀ frameAddr ∈ pool.frames, live.umem.IsFrame frameAddr)
    (sameFrames : fetched.reclaim.frames = live.reclaim.frames)
    (isCount : count = min max live.reclaim.frames.card)
    (enough : count ≤ fetched.reclaim.free.length)
    (wrote : batch.writeFrames (pool.dataOffset - batch.header.length) fillPayload 0
      (fetched.reclaim.free.drop (fetched.reclaim.free.length - count)).reverse = .ok frames) :
    TakesFrames pool out batch max fillPayload
      (fetched.reclaim.free.drop (fetched.reclaim.free.length - count)).reverse {
        result := .ok { prepared := frames.length, txBytes := 0 + batch.l3Bytes frames }
        pool := { pool with
          live := some (fetched.retain (fetched.reclaim.free.length - count)) }
        out := out ++ frames.map XdpTxFrame.desc } := by
  have poolFrames : pool.frames = live.reclaim.frames := by
    rw [XdpTxPool.frames, isLive]
  have removed := fetched.frames_retain (fetched.reclaim.free.length - count)
  have length : (fetched.reclaim.free.drop
      (fetched.reclaim.free.length - count)).reverse.length = count := by
    rw [List.length_reverse, List.length_drop]
    omega
  generalize (fetched.reclaim.free.drop (fetched.reclaim.free.length - count)).reverse = taken
    at wrote removed length ⊢
  rw [sameFrames, ← poolFrames] at removed
  obtain ⟨rfl, small⟩ := EndpointBatch.writeFrames_eq_ok wrote
  obtain ⟨headerFits, frameFits, l2Fits, _, _⟩ := admits
  simp only [Nat.zero_add] at small ⊢
  exact {
    result := by
      have bytes : batch.l3Bytes (taken.mapIdx fun index frameAddr =>
          batch.frameFor (pool.dataOffset - batch.header.length) frameAddr (fillPayload index)) =
          ((List.range taken.length).map fun index =>
            batch.header.length - batch.l2Len + (fillPayload index).length).sum := by
        rw [EndpointBatch.l3Bytes]
        refine congrArg List.sum (map_mapIdx_eq_map_range fun index frameAddr => ?_)
        exact Nat.sub_add_comm l2Fits
      rw [bytes, List.length_mapIdx]
    count := by rw [length, isCount, poolFrames]
    removed := removed
    distinct := by
      rw [← removed] at distinct
      exact Multiset.coe_nodup.mp (Multiset.nodup_of_le (Multiset.le_add_left _ _) distinct)
    descs := by
      refine congrArg (out ++ ·) (List.ext_getElem (by simp) fun index _ _ => ?_)
      simp only [List.getElem_map, List.getElem_mapIdx]
      rfl
    inside := by
      intro other isOther index frameAddr isTaken
      rw [isLive] at isOther
      cases isOther
      obtain ⟨lt, _⟩ := List.getElem?_eq_some_iff.mp isTaken
      have inCapacity := (small index lt).trans (Nat.min_le_left _ _)
      apply start_in_frame _ (by omega)
      apply bases
      rw [← removed]
      exact Multiset.mem_add.mpr (.inr (Multiset.mem_coe.mpr (List.mem_of_getElem? isTaken))) }

theorem prepareEndpointBatch_of_not_admits (out : List XdpDesc) (fillPayload : Nat → List Byte)
    (positive : max ≠ 0) (isLive : pool.live = some live)
    (refuses : ¬ batch.Admits pool.dataOffset live.umem.frameSize) :
    pool.prepareEndpointBatch out batch max fillPayload =
      .ok { result := .error .invalidPacket, pool, out } := by
  rw [XdpTxPool.prepareEndpointBatch, if_neg positive, isLive]
  exact if_neg refuses

/-- What a preparation does that passes its first checks. -/
theorem prepareEndpointBatch_of_admits (out : List XdpDesc) (fillPayload : Nat → List Byte)
    (positive : max ≠ 0) (isLive : pool.live = some live)
    (admits : batch.Admits pool.dataOffset live.umem.frameSize)
    (built : XdpEndpointHeaderPatch.ofCache batch.header batch.l2Len = some batch.headerPatch) :
    pool.prepareEndpointBatch out batch max fillPayload =
      let fetched := live.fetch max
      let retainLen := fetched.reclaim.free.length - min max fetched.reclaim.free.length
      match batch.writeFrames (pool.dataOffset - batch.header.length) fillPayload 0
          (fetched.reclaim.free.drop retainLen).reverse with
      | .error kind =>
        .ok { result := .error kind, pool := { pool with live := some fetched }, out }
      | .ok frames =>
        .ok {
          result := .ok { prepared := frames.length, txBytes := 0 + batch.l3Bytes frames }
          pool := { pool with live := some (fetched.retain retainLen) }
          out := out ++ frames.map XdpTxFrame.desc } := by
  rw [XdpTxPool.prepareEndpointBatch, if_neg positive, isLive]
  simp only
  rw [if_pos admits, live.umem_fetch]
  generalize live.fetch max = fetched
  have enough : min max fetched.reclaim.free.length ≤ fetched.reclaim.free.length :=
    Nat.min_le_right _ _
  generalize min max fetched.reclaim.free.length = count at enough ⊢
  have length : (fetched.reclaim.free.drop
      (fetched.reclaim.free.length - count)).reverse.length = count := by
    rw [List.length_reverse, List.length_drop]
    omega
  have loop := @prepareLoop_eq _ _ _ _ fillPayload 0 0 [] _ admits live.umem.frameSize_lt
    (bases_of_ofCache built) fun index lt => getElem?_cursor enough (length ▸ lt)
  rw [length] at loop
  rw [loop]
  cases batch.writeFrames (pool.dataOffset - batch.header.length) fillPayload 0
      (fetched.reclaim.free.drop (fetched.reclaim.free.length - count)).reverse with
  | error kind => rfl
  | ok frames => rfl

/-- A preparation either fails and leaves the frames of the pool and the descriptors as
they were, or takes as many frames as it can.  None of its sums overflows and none of
its accesses leaves the free list or a frame. -/
theorem prepareEndpointBatch_atomic (pool : XdpTxPool) (out : List XdpDesc)
    (batch : EndpointBatch) (max : Nat) (fillPayload : Nat → List Byte)
    (built : XdpEndpointHeaderPatch.ofCache batch.header batch.l2Len = some batch.headerPatch)
    (distinct : pool.frames.Nodup)
    (bases : ∀ live, pool.live = some live → ∀ frameAddr ∈ pool.frames,
      live.umem.IsFrame frameAddr) :
    ∃ prepared, pool.prepareEndpointBatch out batch max fillPayload = .ok prepared ∧
      ((∃ kind, prepared.result = .error kind ∧ prepared.pool.frames = pool.frames ∧
          prepared.out = out) ∨
        ∃ taken, TakesFrames pool out batch max fillPayload taken prepared) := by
  by_cases zero : max = 0
  · refine ⟨_, if_pos zero, .inr ⟨[], ⟨rfl, ?_, add_zero _, List.nodup_nil,
      (List.append_nil _).symm, ?_⟩⟩⟩
    · rw [zero, Nat.zero_min, List.length_nil]
    · intro live _ index frameAddr none
      cases none
  · cases isLive : pool.live with
    | none =>
      rw [XdpTxPool.prepareEndpointBatch, if_neg zero, isLive]
      exact ⟨_, rfl, .inl ⟨_, rfl, rfl, rfl⟩⟩
    | some live =>
      by_cases admits : batch.Admits pool.dataOffset live.umem.frameSize
      · rw [prepareEndpointBatch_of_admits out fillPayload zero isLive admits built]
        simp only
        split
        case h_1 kind refused =>
          refine ⟨_, rfl, .inl ⟨kind, rfl, ?_, rfl⟩⟩
          rw [XdpTxPool.frames, XdpTxPool.frames, isLive]
          exact live.frames_fetch max
        case h_2 frames wrote =>
          exact ⟨_, rfl, .inr ⟨_, takesFrames_of_writeFrames isLive admits distinct
            (bases live isLive) (live.frames_fetch max) (live.min_length_fetch max)
            (Nat.min_le_right _ _) wrote⟩⟩
      · exact ⟨_, prepareEndpointBatch_of_not_admits out fillPayload zero isLive admits,
          .inl ⟨_, rfl, rfl, rfl⟩⟩

/-- Two transmit frames of 64 bytes, one of them dropped by another thread. -/
def sampleTxPool : XdpTxPool where
  dataOffset := 42
  live := some {
    umem := .fourFrames
    reclaim := {
      free := [128#64]
      capacity := 2
      remote := [192#64]
      remoteCapacity := 2
      inBounds := true } }

/-- A batch behind an untagged header, with payloads of up to 8 bytes. -/
def sampleTxBatch : EndpointBatch where
  header := List.replicate 42 0#8
  l2Len := 14
  payloadCapacity := 8
  expectedPayloadLen := none
  headerPatch := {
    totalLenOffset := 16
    checksumOffset := 24
    transportLenOffset := 38
    totalLenBase := 28#16
    transportLenBase := 8#16
    oldTotalLen := 0#16
    oldChecksum := 0#16 }

theorem prepareEndpointBatch_atomic_of_refused_payload :
    ∃ prepared, sampleTxPool.prepareEndpointBatch [] sampleTxBatch 2
        (fun index => List.replicate (3 + 6 * index) 1#8) = .ok prepared ∧
      ((∃ kind, prepared.result = .error kind ∧ prepared.pool.frames = sampleTxPool.frames ∧
          prepared.out = []) ∨
        ∃ taken, TakesFrames sampleTxPool [] sampleTxBatch 2
          (fun index => List.replicate (3 + 6 * index) 1#8) taken prepared) := by
  apply prepareEndpointBatch_atomic
  · decide +kernel
  · decide +kernel
  · intro live isLive frameAddr member
    cases isLive
    have isOne : frameAddr = 128#64 ∨ frameAddr = 192#64 := by
      simpa [sampleTxPool, XdpTxPool.frames, FrameReclaim.frames] using member
    rcases isOne with rfl | rfl
    · decide
    · decide

/-! ## The frames of a socket -/

section Socket

variable (socket : XdpSocket) (batch : EndpointBatch) (max : Nat)
  (fillPayload : Nat → List Byte)

/-- The transmit pool of a socket. -/
def XdpSocket.txPool : XdpTxPool :=
  { dataOffset := socket.txDataOffset
    live := some { umem := socket.umem, reclaim := socket.txReclaim } }

/-- The descriptors of a preparation that may have failed. -/
def preparedDescs : Except Error (List XdpTxFrame) → List XdpDesc
  | .error _ => []
  | .ok frames => frames.map XdpTxFrame.desc

/-- A callback that only writes payloads. -/
def quietFill : Nat → FillCall := fun index =>
  { payload := fillPayload index, drops := [] }

theorem fillFrames_quietFill (headerStart written : Nat) (addrs : List Addr) :
    fillFrames (batch.writeFrame headerStart) (quietFill fillPayload) written addrs socket =
      (batch.writeFrames headerStart fillPayload written addrs, socket) := by
  induction addrs generalizing written with
  | nil => rfl
  | cons frameAddr rest ih =>
    have called : (quietFill fillPayload written).drops.foldl XdpSocket.dropIfHeld socket =
        socket := rfl
    have payload : (quietFill fillPayload written).payload = fillPayload written := rfl
    rw [fillFrames, EndpointBatch.writeFrames]
    simp only [called, payload, ih]
    cases batch.writeFrame headerStart frameAddr (fillPayload written) with
    | error kind => rfl
    | ok frame => rfl

end Socket

end FastSocket.Xdp
