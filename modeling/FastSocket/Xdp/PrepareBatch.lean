import FastSocket.Xdp.DirectBatch

/-!
# Preparing a direct batch

The loop of a direct endpoint batch with its raw accesses and its machine arithmetic.
The loop reads the free list through a cursor and leaves it as it is; the list is cut and
the descriptors become part of the descriptor vector when all payloads are accepted.
-/

namespace FastSocket.Xdp

open Packet

/-- What would stop the program: a sum that overflows, or an access outside of the free
list or of a frame. -/
inductive PrepareFault where
  | overflow
  | outOfBounds
deriving DecidableEq, Repr

/-- A sum of machine words of a width. -/
def addWidth (width left right : Nat) : Except PrepareFault Nat :=
  if left + right < 2 ^ width then .ok (left + right) else .error .overflow

/-- An access to bytes of a frame. -/
def checkFrame (frameSize start len : Nat) : Except PrepareFault Unit :=
  if start + len ≤ frameSize then .ok () else .error .outOfBounds

/-- Patches a copied header, with its sums checked. -/
def XdpEndpointHeaderPatch.patchChecked (self : XdpEndpointHeaderPatch) (header : List Byte)
    (payloadLen : Nat) : Except PrepareFault (List Byte) := do
  let _ ← addWidth 16 self.totalLenBase.toNat (payloadLen % 2 ^ 16)
  let _ ← addWidth 16 self.transportLenBase.toNat (payloadLen % 2 ^ 16)
  return self.patch header payloadLen

structure XdpPreparedTxBatch where
  prepared : Nat
  txBytes : Nat
deriving DecidableEq, Repr

/-- The half of a transmit pool that lies in a UMEM. -/
structure LiveTxPool where
  umem : Umem
  reclaim : FrameReclaim

/-- A transmit pool and the offset at which its buffers start. -/
structure XdpTxPool where
  dataOffset : Nat
  live : Option LiveTxPool

/-- The loop over the frames.  The cursor starts behind the end of the free list and moves
down before each read.  `frames` and `txBytes` are what the loop has written so far. -/
def prepareLoop (batch : EndpointBatch) (payloadStart frameSize : Nat) (free : List Addr)
    (fillPayload : Nat → List Byte) :
    (remaining written : Nat) → List XdpTxFrame → (txBytes : Nat) →
      Except PrepareFault (Except Error (List XdpTxFrame × Nat))
  | 0, _, frames, txBytes => .ok (.ok (frames, txBytes))
  | remaining + 1, written, frames, txBytes =>
    let headerStart := payloadStart - batch.header.length
    match free[free.length - (written + 1)]? with
    | none => .error .outOfBounds
    | some frameAddr => do
        checkFrame frameSize payloadStart batch.payloadCapacity
        let payload := fillPayload written
        if batch.expectedPayloadLen.any (· ≠ payload.length) then
          return .error .invalidPacket
        else if payload.length > batch.payloadLenLimit then
          return .error .oversizeForMtu
        else
          checkFrame frameSize headerStart batch.header.length
          let header ← batch.headerPatch.patchChecked batch.header payload.length
          let descLen ← addWidth 32 batch.header.length (payload.length % 2 ^ 32)
          let frame : XdpTxFrame :=
            { descAddr := frameAddr + BitVec.ofNat 64 headerStart
              len := descLen
              bytes := header ++ payload }
          prepareLoop batch payloadStart frameSize free fillPayload remaining (written + 1)
            (frames ++ [frame]) (txBytes + (batch.header.length - batch.l2Len + payload.length))

/-- The pool and the descriptor vector that a preparation leaves, and its result. -/
structure Preparation where
  result : Except Error XdpPreparedTxBatch
  pool : XdpTxPool
  out : List XdpDesc

/-- A preparation that has changed nothing. -/
def XdpTxPool.unprepared (pool : XdpTxPool) (out : List XdpDesc)
    (result : Except Error XdpPreparedTxBatch) : Preparation :=
  { result, pool, out }

/-- Fetches the frames of other threads when fewer than `max` frames are free. -/
def LiveTxPool.fetch (live : LiveTxPool) (max : Nat) : LiveTxPool :=
  if live.reclaim.free.length < max then
    { live with reclaim := live.reclaim.drainRemote }
  else
    live

/-- Cuts the free list to a length. -/
def LiveTxPool.retain (live : LiveTxPool) (retainLen : Nat) : LiveTxPool :=
  { live with reclaim := { live.reclaim with free := live.reclaim.free.take retainLen } }

def XdpTxPool.prepareEndpointBatch (pool : XdpTxPool) (out : List XdpDesc)
    (batch : EndpointBatch) (max : Nat) (fillPayload : Nat → List Byte) :
    Except PrepareFault Preparation :=
  if max = 0 then
    .ok (pool.unprepared out (.ok { prepared := 0, txBytes := 0 }))
  else
    match pool.live with
    | none => .ok (pool.unprepared out (.error .invalidPacket))
    | some live =>
      if batch.Admits pool.dataOffset live.umem.frameSize then do
        let live := live.fetch max
        let freeLen := live.reclaim.free.length
        let count := min max freeLen
        match ← prepareLoop batch pool.dataOffset live.umem.frameSize live.reclaim.free
            fillPayload count 0 [] 0 with
        | .error kind =>
          return { result := .error kind, pool := { pool with live := some live }, out }
        | .ok (frames, txBytes) =>
          return {
            result := .ok { prepared := frames.length, txBytes }
            pool := { pool with live := some (live.retain (freeLen - count)) }
            out := out ++ frames.map XdpTxFrame.desc }
      else
        .ok (pool.unprepared out (.error .invalidPacket))

/-! ## The loop -/

/-- The frame of an accepted payload. -/
def EndpointBatch.frameFor (batch : EndpointBatch) (headerStart : Nat) (frameAddr : Addr)
    (payload : List Byte) : XdpTxFrame :=
  { descAddr := frameAddr + BitVec.ofNat 64 headerStart
    len := batch.header.length + payload.length
    bytes := batch.headerPatch.patch batch.header payload.length ++ payload }

section Loop

variable {batch : EndpointBatch} {payloadStart frameSize : Nat} {free : List Addr}
  {fillPayload : Nat → List Byte} {headerStart written txBytes : Nat} {frameAddr : Addr}
  {frames : List XdpTxFrame} {addrs : List Addr}

theorem EndpointBatch.writeFrame_eq_ok {payload : List Byte} {frame : XdpTxFrame}
    (wrote : batch.writeFrame headerStart frameAddr payload = .ok frame) :
    frame = batch.frameFor headerStart frameAddr payload ∧
      payload.length ≤ batch.payloadLenLimit := by
  rw [writeFrame] at wrote
  split at wrote
  · cases wrote
  · split at wrote
    · cases wrote
    · rename_i small
      cases wrote
      exact ⟨rfl, not_lt.mp small⟩

/-- The limit of the payloads keeps the patched lengths below the width of their
fields. -/
theorem patchChecked_eq {payloadLen : Nat} (small : payloadLen ≤ batch.payloadLenLimit)
    (bases : batch.headerPatch.transportLenBase.toNat ≤ batch.headerPatch.totalLenBase.toNat) :
    batch.headerPatch.patchChecked batch.header payloadLen =
      .ok (batch.headerPatch.patch batch.header payloadLen) := by
  have limit : payloadLen ≤ 65535 - batch.headerPatch.totalLenBase.toNat :=
    small.trans (Nat.min_le_right _ _)
  have width := batch.headerPatch.totalLenBase.isLt
  have narrow : payloadLen % 2 ^ 16 = payloadLen := Nat.mod_eq_of_lt (by omega)
  rw [XdpEndpointHeaderPatch.patchChecked, narrow, addWidth, addWidth, if_pos (by omega),
    if_pos (by omega)]
  rfl

/-- A round of the loop writes a frame or stops at the payload. -/
theorem prepareLoop_succ (admits : batch.Admits payloadStart frameSize)
    (sizeLt : frameSize < 2 ^ 32)
    (bases : batch.headerPatch.transportLenBase.toNat ≤ batch.headerPatch.totalLenBase.toNat)
    {remaining : Nat} (isNext : free[free.length - (written + 1)]? = some frameAddr) :
    prepareLoop batch payloadStart frameSize free fillPayload (remaining + 1) written frames
        txBytes =
      match batch.writeFrame (payloadStart - batch.header.length) frameAddr
          (fillPayload written) with
      | .error kind => .ok (.error kind)
      | .ok frame =>
        prepareLoop batch payloadStart frameSize free fillPayload remaining (written + 1)
          (frames ++ [frame]) (txBytes + (frame.len - batch.l2Len)) := by
  obtain ⟨headerFits, frameFits, l2Fits, _, _⟩ := admits
  have payloadInside : checkFrame frameSize payloadStart batch.payloadCapacity = .ok () :=
    if_pos (by omega)
  have headerInside : checkFrame frameSize (payloadStart - batch.header.length)
      batch.header.length = .ok () :=
    if_pos (by omega)
  rw [prepareLoop, isNext]
  simp only [payloadInside, headerInside, EndpointBatch.writeFrame, bind, Except.bind]
  split
  · rfl
  · split
    · rfl
    · rename_i small
      have small := not_lt.mp small
      have inCapacity : (fillPayload written).length ≤ batch.payloadCapacity :=
        small.trans (Nat.min_le_left _ _)
      have narrow : (fillPayload written).length % 2 ^ 32 = (fillPayload written).length :=
        Nat.mod_eq_of_lt (by omega)
      have sum : addWidth 32 batch.header.length (fillPayload written).length =
          .ok (batch.header.length + (fillPayload written).length) :=
        if_pos (by omega)
      rw [patchChecked_eq small bases, narrow, sum]
      simp only
      rw [Nat.sub_add_comm l2Fits]

/-- The frames of the payloads, one for each address, or the error of the first payload
that is refused. -/
def EndpointBatch.writeFrames (batch : EndpointBatch) (headerStart : Nat)
    (fillPayload : Nat → List Byte) : (written : Nat) → List Addr → Except Error (List XdpTxFrame)
  | _, [] => .ok []
  | written, frameAddr :: rest =>
    match batch.writeFrame headerStart frameAddr (fillPayload written) with
    | .error kind => .error kind
    | .ok frame =>
      (batch.writeFrames headerStart fillPayload (written + 1) rest).map (frame :: ·)

theorem EndpointBatch.writeFrames_eq_ok
    (wrote : batch.writeFrames headerStart fillPayload written addrs = .ok frames) :
    frames = addrs.mapIdx (fun index frameAddr =>
        batch.frameFor headerStart frameAddr (fillPayload (written + index))) ∧
      ∀ index < addrs.length,
        (fillPayload (written + index)).length ≤ batch.payloadLenLimit := by
  induction addrs generalizing written frames with
  | nil =>
    cases wrote
    exact ⟨rfl, fun index none => absurd none (Nat.not_lt_zero index)⟩
  | cons frameAddr rest ih =>
    rw [writeFrames] at wrote
    split at wrote
    · cases wrote
    · rename_i frame wroteFirst
      cases others : batch.writeFrames headerStart fillPayload (written + 1) rest with
      | error kind =>
        rw [others] at wrote
        cases wrote
      | ok restFrames =>
        rw [others] at wrote
        cases wrote
        obtain ⟨rfl, small⟩ := writeFrame_eq_ok wroteFirst
        obtain ⟨rfl, restSmall⟩ := ih others
        constructor
        · rw [List.mapIdx_cons]
          simp only [Nat.add_zero, Nat.add_assoc, Nat.add_comm 1]
        · intro index lt
          cases index with
          | zero => exact small
          | succ index =>
            rw [List.length_cons, Nat.succ_lt_succ_iff] at lt
            rw [Nat.add_comm index, ← Nat.add_assoc]
            exact restSmall index lt

/-- The L3 bytes of frames. -/
def EndpointBatch.l3Bytes (batch : EndpointBatch) (frames : List XdpTxFrame) : Nat :=
  (frames.map fun frame => frame.len - batch.l2Len).sum

/-- The loop writes one frame for each address that the cursor comes to. -/
theorem prepareLoop_eq (admits : batch.Admits payloadStart frameSize) (sizeLt : frameSize < 2 ^ 32)
    (bases : batch.headerPatch.transportLenBase.toNat ≤ batch.headerPatch.totalLenBase.toNat)
    (cursor : ∀ index < addrs.length,
      free[free.length - (written + index + 1)]? = addrs[index]?) :
    prepareLoop batch payloadStart frameSize free fillPayload addrs.length written frames txBytes =
      .ok ((batch.writeFrames (payloadStart - batch.header.length) fillPayload written addrs).map
        fun added => (frames ++ added, txBytes + batch.l3Bytes added)) := by
  induction addrs generalizing written frames txBytes with
  | nil =>
    rw [EndpointBatch.writeFrames, List.length_nil, prepareLoop]
    simp [EndpointBatch.l3Bytes, Except.map]
  | cons frameAddr rest ih =>
    have isNext : free[free.length - (written + 1)]? = some frameAddr :=
      cursor 0 (Nat.zero_lt_succ _)
    have restCursor : ∀ index < rest.length,
        free[free.length - (written + 1 + index + 1)]? = rest[index]? := by
      intro index lt
      have next := cursor (index + 1) (Nat.succ_lt_succ lt)
      rwa [List.getElem?_cons_succ, ← Nat.add_assoc, Nat.add_right_comm written index 1] at next
    rw [List.length_cons, prepareLoop_succ admits sizeLt bases isNext,
      EndpointBatch.writeFrames]
    cases batch.writeFrame (payloadStart - batch.header.length) frameAddr
        (fillPayload written) with
    | error kind => rfl
    | ok frame =>
      simp only
      rw [ih restCursor]
      cases batch.writeFrames (payloadStart - batch.header.length) fillPayload (written + 1)
          rest with
      | error kind => rfl
      | ok added =>
        simp [Except.map, EndpointBatch.l3Bytes, Nat.add_assoc]

end Loop

/-- The cursor comes to the last addresses of the free list, the last one first. -/
theorem getElem?_cursor {free : List Addr} {count index : Nat} (enough : count ≤ free.length)
    (lt : index < count) :
    free[free.length - (0 + index + 1)]? =
      ((free.drop (free.length - count)).reverse)[index]? := by
  have length : (free.drop (free.length - count)).length = count := by
    rw [List.length_drop]
    omega
  rw [List.getElem?_reverse (by omega), List.getElem?_drop, length]
  congr 1
  omega

end FastSocket.Xdp
