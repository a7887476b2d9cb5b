import FastSocket.Xdp.MemberFrames

/-!
# Direct endpoint batches

A batch whose payloads a callback writes straight into free transmit frames.  The
callback belongs to the application: while it fills a frame it may drop buffers.
The frames leave the free list when all of them are filled.
-/

namespace FastSocket.Xdp

open Packet Spsc Transition

/-- A call of the callback: the payload that it writes, and the buffers that it drops
meanwhile. -/
structure FillCall where
  payload : List Byte
  drops : List HeldFrame
deriving DecidableEq, Repr

/-- Drops a buffer if the application holds it. -/
def XdpSocket.dropIfHeld (socket : XdpSocket) (buffer : HeldFrame) : XdpSocket :=
  if buffer ∈ socket.held then socket.dropBuffer buffer else socket

/-- What the frames of a direct batch have in common. -/
structure EndpointBatch where
  header : List Byte
  l2Len : Nat
  payloadCapacity : Nat
  expectedPayloadLen : Option Nat
  headerPatch : XdpEndpointHeaderPatch
deriving DecidableEq, Repr

namespace EndpointBatch

variable (batch : EndpointBatch)

/-- The checks that are made before a frame is filled. -/
def Admits (payloadStart frameSize : Nat) : Prop :=
  batch.header.length ≤ payloadStart ∧
    payloadStart - batch.header.length + (batch.header.length + batch.payloadCapacity) ≤
      frameSize ∧
    batch.l2Len ≤ batch.header.length ∧
    batch.headerPatch.requiredHeaderLen ≤ batch.header.length ∧ batch.header.length < 2 ^ 32

instance (payloadStart frameSize : Nat) : Decidable (batch.Admits payloadStart frameSize) :=
  inferInstanceAs (Decidable (_ ∧ _))

def payloadLenLimit : Nat :=
  min batch.payloadCapacity (65535 - batch.headerPatch.totalLenBase.toNat)

/-- Checks a payload and writes the header in front of it. -/
def writeFrame (headerStart : Nat) (frameAddr : Addr) (payload : List Byte) :
    Except Error XdpTxFrame :=
  if batch.expectedPayloadLen.any (· ≠ payload.length) then
    .error .invalidPacket
  else if payload.length > batch.payloadLenLimit then
    .error .oversizeForMtu
  else
    .ok
      { descAddr := frameAddr + BitVec.ofNat 64 headerStart
        len := batch.header.length + payload.length
        bytes := batch.headerPatch.patch batch.header payload.length ++ payload }

end EndpointBatch

/-- The loop over the frames; `written` frames are filled already. -/
def fillFrames (write : Addr → List Byte → Except Error XdpTxFrame) (fill : Nat → FillCall) :
    (written : Nat) → List Addr → XdpSocket → Except Error (List XdpTxFrame) × XdpSocket
  | _, [], socket => (.ok [], socket)
  | written, frameAddr :: rest, socket =>
    let call := fill written
    let socket := call.drops.foldl XdpSocket.dropIfHeld socket
    match write frameAddr call.payload with
    | .error kind => (.error kind, socket)
    | .ok frame =>
      let filled := fillFrames write fill (written + 1) rest socket
      (filled.1.map (frame :: ·), filled.2)

namespace XdpSocket

variable (socket : XdpSocket)

/-- Fetches frames of other threads when fewer than `max` frames are free. -/
def fetchTx (max : Nat) : XdpSocket :=
  if socket.txReclaim.free.length < max then
    { socket with txReclaim := socket.txReclaim.drainRemote }
  else
    socket

/-- Cuts the free transmit frames to a length. -/
def retainTx (retainLen : Nat) : XdpSocket :=
  { socket with
    txReclaim := { socket.txReclaim with free := socket.txReclaim.free.take retainLen } }

/-- Fills free frames, the last one first.  The free list is cut to the length that it
had without them when all are filled, and left as it is after an error. -/
def prepareEndpointBatch (batch : EndpointBatch) (max : Nat) (fill : Nat → FillCall) :
    Except Error (List XdpTxFrame) × XdpSocket :=
  if max = 0 then
    (.ok [], socket)
  else if batch.Admits socket.txDataOffset socket.umem.frameSize then
    let headerStart := socket.txDataOffset - batch.header.length
    let fetched := socket.fetchTx max
    let free := fetched.txReclaim.free
    let retainLen := free.length - min max free.length
    let filled := fillFrames (batch.writeFrame headerStart) fill 0 (free.drop retainLen).reverse
      fetched
    match filled.1 with
    | .error kind => (.error kind, filled.2)
    | .ok frames => (.ok frames, filled.2.retainTx retainLen)
  else
    (.error .invalidPacket, socket)

end XdpSocket

/-- The outcome of a direct batch: its result and the frames that it has published. -/
structure DirectOutcome where
  result : Except SendError Nat
  sent : List XdpTxFrame

def DirectOutcome.unsent (result : Except Error Unit) : DirectOutcome :=
  { result := sendResult 0 result, sent := [] }

/-- Publishes filled frames.  The result is `none` when the ring does not take all of
them, which stops the program. -/
def commitFrames (frames : List XdpTxFrame) : StateM XdpSocket (Option DirectOutcome) := do
  let enqueued ← modifyGet (XdpSocket.enqueueTxBatch · (frames.map XdpTxFrame.desc))
  if enqueued then
    let woken ← wakeTxIfNeeded frames.length
    return some { result := sendResult frames.length woken, sent := frames }
  else
    return none

/-- A direct batch behind a refreshed endpoint. -/
def sendDirect (batch : EndpointBatch) (max : Nat) (fill : Nat → FillCall) :
    StateM XdpSocket (Option DirectOutcome) := do
  match ← reserveBatch with
  | .error kind => return some (.unsent (.error kind))
  | .ok available =>
    if available = 0 then
      return some (.unsent (.ok ()))
    else
      let _ ← interleave
      match ← modifyGet (XdpSocket.prepareEndpointBatch · batch (min max available) fill) with
      | .error kind => return some (.unsent (.error kind))
      | .ok frames =>
        if frames = [] then
          return some (.unsent (.ok ()))
        else
          commitFrames frames

/-- The batch of an endpoint, if its cached header can be patched. -/
def EndpointBatch.ofCache (info : UdpEndpointInfo) (cache : XdpUdpEndpointCache) :
    Option EndpointBatch :=
  (XdpEndpointHeaderPatch.ofCache cache.header cache.l2Len).map fun headerPatch =>
    { header := cache.header
      l2Len := cache.l2Len
      payloadCapacity := info.mtu
      expectedPayloadLen := info.payloadLen
      headerPatch := headerPatch }

/-- The direct batch of an endpoint; the endpoint that it leaves is returned beside its
outcome. -/
def sendUdpEndpointDirectBatch (udp : XdpUdpConfig) (endpoint : XdpUdpEndpoint) (max : Nat)
    (fill : Nat → FillCall) : StateM XdpSocket (XdpUdpEndpoint × Option DirectOutcome) := do
  if max = 0 then
    return (endpoint, some (.unsent (.ok ())))
  else
    match refreshUdpEndpointCache udp endpoint with
    | (endpoint, .error kind) => return (endpoint, some (.unsent (.error kind)))
    | (endpoint, .ok cache) =>
      match EndpointBatch.ofCache endpoint.info cache with
      | none => return (endpoint, some (.unsent (.error .invalidPacket)))
      | some batch =>
        let outcome ← sendDirect batch max fill
        return (endpoint, outcome)

/-! ## What a direct batch does -/

variable {socket target next : XdpSocket} {frames : List XdpTxFrame}
  {R : XdpSocket → XdpSocket → Prop} {action : EnvironmentAction} {fill : Nat → FillCall}

section Loop

variable {write : Addr → List Byte → Except Error XdpTxFrame} {written : Nat} {addrs : List Addr}

/-- Filled frames are written one for each free frame, in order. -/
theorem forall₂_fillFrames (filled : (fillFrames write fill written addrs socket).1 = .ok frames) :
    List.Forall₂ (fun addr frame => ∃ payload, write addr payload = .ok frame) addrs frames := by
  induction addrs generalizing written socket frames with
  | nil =>
    cases filled
    exact .nil
  | cons addr rest ih =>
    rw [fillFrames] at filled
    dsimp only at filled
    split at filled
    case h_1 => cases filled
    case h_2 frame wrote =>
      cases others : (fillFrames write fill (written + 1) rest
          ((fill written).drops.foldl XdpSocket.dropIfHeld socket)).1 with
      | error kind =>
        rw [others] at filled
        cases filled
      | ok restFrames =>
        rw [others] at filled
        cases filled
        exact .cons ⟨_, wrote⟩ (ih others)

/-- A preorder that the callback's drops respect is respected by the loop. -/
theorem respects_fillFrames [Std.Refl R] [IsTrans XdpSocket R]
    (drop : ∀ index, ∀ buffer ∈ (fill index).drops, ∀ socket : XdpSocket,
      R socket (socket.dropIfHeld buffer)) {result : Except Error (List XdpTxFrame)}
    (done : fillFrames write fill written addrs socket = (result, target)) : R socket target := by
  have drops : ∀ (buffers : List HeldFrame) (socket : XdpSocket),
      (∀ buffer ∈ buffers, ∀ socket : XdpSocket, R socket (socket.dropIfHeld buffer)) →
        R socket (buffers.foldl XdpSocket.dropIfHeld socket) := by
    intro buffers
    induction buffers with
    | nil => exact fun socket _ => refl_of R socket
    | cons buffer rest ih =>
      intro socket each
      obtain ⟨first, others⟩ := List.forall_mem_cons.mp each
      exact trans_of R (first socket) (ih _ others)
  induction addrs generalizing written socket result with
  | nil =>
    cases done
    exact refl_of R _
  | cons addr rest ih =>
    have called := drops (fill written).drops socket (drop written)
    rw [fillFrames] at done
    dsimp only at done
    split at done
    · cases done
      exact called
    · cases done
      exact trans_of R called (ih rfl)

end Loop

/-- The free slots of the TX ring are counted as before. -/
def SameRoom (source target : XdpSocket) : Prop :=
  target.tx.available = source.tx.available

instance : Std.Refl SameRoom :=
  ⟨fun _ => rfl⟩

instance : IsTrans XdpSocket SameRoom :=
  ⟨fun _ _ _ first second => second.trans first⟩

/-- The environment only takes entries from the TX ring. -/
theorem tx_environmentStep (taken : socket.environmentStep action = some next) :
    next.tx = socket.tx ∨ ∃ count, next.tx = socket.tx.consume count := by
  cases action with
  | deliver index desc =>
    simp only [XdpSocket.environmentStep, Option.bind_eq_bind, Option.bind_eq_some_iff] at taken
    obtain ⟨frame, _, rx, _, taken⟩ := taken
    obtain ⟨_, ⟨⟩⟩ := Option.ite_none_right_eq_some.mp taken
    exact .inl rfl
  | complete index =>
    simp only [XdpSocket.environmentStep, Option.bind_eq_bind, Option.bind_eq_some_iff] at taken
    obtain ⟨addr, _, completion, _, ⟨⟩⟩ := taken
    exact .inl rfl
  | dropRemote index =>
    simp only [XdpSocket.environmentStep, Option.bind_eq_bind, Option.bind_eq_some_iff] at taken
    obtain ⟨⟨kind, frame⟩, _, reclaim, _, ⟨⟩⟩ := taken
    cases kind <;> exact .inl rfl
  | takeTx count =>
    cases taken
    exact .inr ⟨count, rfl⟩
  | _ =>
    cases taken
    exact .inl rfl

theorem sameRoom_environmentStep (taken : socket.environmentStep action = some next) :
    SameRoom socket next := by
  rcases tx_environmentStep taken with same | ⟨count, same⟩
  · rw [SameRoom, same]
  · rw [SameRoom, same, ProducerQueue.available_consume]

theorem sameRoom_takeTurn (socket : XdpSocket) : SameRoom socket socket.takeTurn.2 :=
  XdpSocket.respects_takeTurn (fun _ _ => rfl) (fun _ _ _ => sameRoom_environmentStep) socket

theorem sameRoom_dropIfHeld (socket : XdpSocket) (buffer : HeldFrame) :
    SameRoom socket (socket.dropIfHeld buffer) := by
  rw [XdpSocket.dropIfHeld]
  split
  · obtain ⟨kind, frame⟩ := buffer
    cases kind <;> rfl
  · rfl

/-- The ways a preparation can go: it stops before the loop, in the loop, or it fills
free frames and takes them from the list. -/
inductive PreparesDirect (batch : EndpointBatch) (max : Nat) (fill : Nat → FillCall)
    (socket : XdpSocket) : Except Error (List XdpTxFrame) → XdpSocket → Prop
  | stopped {result : Except Error (List XdpTxFrame)} (none : ∀ frames, result = .ok frames →
      frames = []) : PreparesDirect batch max fill socket result socket
  | refused {kind : Error} {addrs : List Addr} {target : XdpSocket}
      (loop : fillFrames (batch.writeFrame (socket.txDataOffset - batch.header.length)) fill 0
        addrs (socket.fetchTx max) = (.error kind, target)) :
      PreparesDirect batch max fill socket (.error kind) target
  | filled {retainLen : Nat} {frames : List XdpTxFrame} {target : XdpSocket}
      (admits : batch.Admits socket.txDataOffset socket.umem.frameSize)
      (retained : retainLen ≤ (socket.fetchTx max).txReclaim.free.length)
      (few : (socket.fetchTx max).txReclaim.free.length ≤ retainLen + max)
      (loop : fillFrames (batch.writeFrame (socket.txDataOffset - batch.header.length)) fill 0
        ((socket.fetchTx max).txReclaim.free.drop retainLen).reverse (socket.fetchTx max) =
          (.ok frames, target)) :
      PreparesDirect batch max fill socket (.ok frames) (target.retainTx retainLen)

theorem preparesDirect_prepareEndpointBatch (batch : EndpointBatch) (max : Nat)
    (fill : Nat → FillCall) (socket : XdpSocket) :
    PreparesDirect batch max fill socket (socket.prepareEndpointBatch batch max fill).1
      (socket.prepareEndpointBatch batch max fill).2 := by
  rw [XdpSocket.prepareEndpointBatch]
  split
  · exact .stopped fun frames done => (Except.ok.inj done).symm
  · split
    case isTrue admits =>
      dsimp only
      split
      case h_1 kind failed => exact .refused (Prod.ext failed rfl)
      case h_2 frames done => exact .filled admits (Nat.sub_le _ _) (by omega) (Prod.ext done rfl)
    case isFalse => exact .stopped fun _ done => nomatch done

theorem PreparesDirect.length_le {batch : EndpointBatch} {max : Nat}
    (prepares : PreparesDirect batch max fill socket (.ok frames) target) :
    frames.length ≤ max := by
  cases prepares with
  | stopped none => simp [none frames rfl]
  | filled admits retained few loop =>
    have length := (forall₂_fillFrames (congrArg Prod.fst loop)).length_eq
    rw [List.length_reverse, List.length_drop] at length
    omega

/-- A preorder that the steps of a preparation respect is respected by the preparation. -/
theorem respects_prepareEndpointBatch [Std.Refl R] [IsTrans XdpSocket R]
    (fetch : ∀ (socket : XdpSocket) max, R socket (socket.fetchTx max))
    (drop : ∀ index, ∀ buffer ∈ (fill index).drops, ∀ socket : XdpSocket,
      R socket (socket.dropIfHeld buffer))
    (retain : ∀ (socket : XdpSocket) retainLen, R socket (socket.retainTx retainLen))
    (batch : EndpointBatch) (max : Nat) (socket : XdpSocket) :
    R socket (socket.prepareEndpointBatch batch max fill).2 := by
  have prepares := preparesDirect_prepareEndpointBatch batch max fill socket
  generalize socket.prepareEndpointBatch batch max fill = prepared at prepares ⊢
  obtain ⟨result, target⟩ := prepared
  cases prepares with
  | stopped none => exact refl_of R _
  | refused failed => exact trans_of R (fetch socket max) (respects_fillFrames drop failed)
  | filled admits retained few done =>
    exact trans_of R (trans_of R (fetch socket max) (respects_fillFrames drop done))
      (retain _ _)

theorem sameRoom_prepareEndpointBatch (batch : EndpointBatch) (max : Nat) (fill : Nat → FillCall)
    (socket : XdpSocket) : SameRoom socket (socket.prepareEndpointBatch batch max fill).2 := by
  refine respects_prepareEndpointBatch ?_ ?_ (fun _ _ => rfl) batch max socket
  · intro socket max
    rw [XdpSocket.fetchTx]
    split <;> rfl
  · exact fun _ buffer _ socket => sameRoom_dropIfHeld socket buffer

/-- The ways a direct batch can go. -/
inductive DirectSends (batch : EndpointBatch) (max : Nat) (fill : Nat → FillCall)
    (socket : XdpSocket) : DirectOutcome → XdpSocket → Prop
  | failed {kind : Error} {target : XdpSocket}
      (reserve : reserveBatch.run socket = (.error kind, target)) :
      DirectSends batch max fill socket (.unsent (.error kind)) target
  | full {target : XdpSocket} (reserve : reserveBatch.run socket = (.ok 0, target)) :
      DirectSends batch max fill socket (.unsent (.ok ())) target
  | refused {available : Nat} {reserved target : XdpSocket} {kind : Error}
      (reserve : reserveBatch.run socket = (.ok available, reserved))
      (prepares : PreparesDirect batch (min max available) fill reserved.takeTurn.2 (.error kind)
        target) :
      DirectSends batch max fill socket (.unsent (.error kind)) target
  | nothing {available : Nat} {reserved target : XdpSocket}
      (reserve : reserveBatch.run socket = (.ok available, reserved))
      (prepares : PreparesDirect batch (min max available) fill reserved.takeTurn.2 (.ok [])
        target) :
      DirectSends batch max fill socket (.unsent (.ok ())) target
  | sent {available : Nat} {reserved prepared target : XdpSocket} {frames : List XdpTxFrame}
      {woken : Except Error Unit}
      (reserve : reserveBatch.run socket = (.ok available, reserved))
      (prepares : PreparesDirect batch (min max available) fill reserved.takeTurn.2 (.ok frames)
        prepared)
      (room : frames.length ≤ prepared.tx.available)
      (wake : (wakeTxIfNeeded frames.length).run
        (prepared.commitTx (frames.map XdpTxFrame.desc)) = (woken, target)) :
      DirectSends batch max fill socket
        { result := sendResult frames.length woken, sent := frames } target

theorem run_commitFrames (room : frames.length ≤ socket.tx.available) :
    (commitFrames frames).run socket =
      let woken := (wakeTxIfNeeded frames.length).run
        (socket.commitTx (frames.map XdpTxFrame.desc))
      (some { result := sendResult frames.length woken.1, sent := frames }, woken.2) := by
  have descRoom : (frames.map XdpTxFrame.desc).length ≤ socket.tx.available := by
    rwa [List.length_map]
  rw [commitFrames, run_bind, run_modifyGet, XdpSocket.enqueueTxBatch_of_le descRoom]
  rfl

theorem directSends_sendDirect (batch : EndpointBatch) (max : Nat) (fill : Nat → FillCall)
    (socket : XdpSocket) :
    ∃ outcome, ((sendDirect batch max fill).run socket).1 = some outcome ∧
      DirectSends batch max fill socket outcome ((sendDirect batch max fill).run socket).2 := by
  cases reserve : reserveBatch.run socket with
  | mk result reserved =>
    rw [sendDirect, run_bind, reserve]
    cases result with
    | error kind => exact ⟨_, rfl, .failed reserve⟩
    | ok available =>
      dsimp only
      by_cases full : available = 0
      · subst full
        rw [if_pos rfl]
        exact ⟨_, rfl, .full reserve⟩
      · have prepares := preparesDirect_prepareEndpointBatch batch (min max available) fill
          reserved.takeTurn.2
        have sameRoom := trans_of SameRoom (sameRoom_takeTurn reserved)
          (sameRoom_prepareEndpointBatch batch (min max available) fill _)
        rw [SameRoom, (counted_reserveBatch reserve).1] at sameRoom
        rw [if_neg full, run_bind, interleave, run_modifyGet, run_bind, run_modifyGet]
        generalize reserved.takeTurn.2.prepareEndpointBatch batch (min max available) fill =
          prepared at prepares sameRoom ⊢
        obtain ⟨result, target⟩ := prepared
        cases result with
        | error kind => exact ⟨_, rfl, .refused reserve prepares⟩
        | ok frames =>
          dsimp only at prepares sameRoom ⊢
          by_cases noFrames : frames = []
          · subst noFrames
            rw [if_pos rfl]
            exact ⟨_, rfl, .nothing reserve prepares⟩
          · have room : frames.length ≤ target.tx.available := by
              rw [sameRoom]
              exact le_trans prepares.length_le (Nat.min_le_right _ _)
            rw [if_neg noFrames, run_commitFrames room]
            exact ⟨_, rfl, .sent reserve prepares room rfl⟩

end FastSocket.Xdp
