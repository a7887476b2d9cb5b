import FastSocket.Xdp.LiveCalls
import FastSocket.Xdp.SendPrepare

/-!
# Sending a batch

The three send calls share one loop.  It reserves TX slots, prepares leading slots
of the batch until one fails, publishes the prepared frames at once, takes their
slots and rings the doorbell if needed; only then it reports the slot that failed.
-/

namespace FastSocket.Xdp

open Packet Spsc Transition

variable {κ α ν : Type}

/-! ## The loop over the slots -/

/-- The outcome of the loop: the slots as it leaves them, the prepared frames and
the error of the slot at which it stopped. -/
structure PreparedBatch (κ α : Type) where
  cache : κ
  slots : List (TxSlot α)
  frames : List XdpTxFrame
  deferred : Option Error

def prepareSlots (prepare : κ → α → Prepared κ α) : κ → List (TxSlot α) → PreparedBatch κ α
  | cache, [] => { cache := cache, slots := [], frames := [], deferred := none }
  | cache, .taken :: rest =>
    { cache := cache, slots := .taken :: rest, frames := [], deferred := some .invalidBatch }
  | cache, .ready item :: rest =>
    match prepare cache item with
    | ⟨cache, item, .error kind⟩ =>
      { cache := cache, slots := .ready item :: rest, frames := [], deferred := some kind }
    | ⟨cache, item, .ok frame⟩ =>
      let prepared := prepareSlots prepare cache rest
      { prepared with
        slots := .ready item :: prepared.slots
        frames := frame :: prepared.frames }

def XdpTxFrame.desc (frame : XdpTxFrame) : XdpDesc :=
  { addr := frame.descAddr, len := frame.len, options := 0 }

/-- The outcome of a send: its result, the batch and the cache as it leaves them, and
the frames that it has published. -/
structure SendOutcome (κ α : Type) where
  result : Except SendError Nat
  batch : List (TxSlot α)
  cache : κ
  sent : List XdpTxFrame

/-- A send that stops before it prepares a slot. -/
def SendOutcome.unsent (result : Except Error Unit) (cache : κ) (batch : List (TxSlot α)) :
    SendOutcome κ α :=
  { result := sendResult 0 result, batch := batch, cache := cache, sent := [] }

/-- Publishes the prepared frames.  The result is `none` when the ring does not take
all of them, which stops the program. -/
def commitPrepared (prepared : PreparedBatch κ α) (rest : List (TxSlot α)) :
    StateM XdpSocket (Option (SendOutcome κ α)) := do
  let batch := prepared.slots ++ rest
  let accepted := prepared.frames.length
  if accepted = 0 then
    return some (.unsent (deferredResult prepared.deferred) prepared.cache batch)
  else
    let enqueued ← modifyGet (XdpSocket.enqueueTxBatch · (prepared.frames.map XdpTxFrame.desc))
    if enqueued then
      let woken ← wakeTxIfNeeded accepted
      return some {
        result := sendResult accepted (woken.bind fun _ => deferredResult prepared.deferred)
        batch := takeSlots accepted batch
        cache := prepared.cache
        sent := prepared.frames }
    else
      return none

/-- The free TX slots for a send. -/
def reserveBatch : StateM XdpSocket (Except Error Nat) := do
  match ← drainCompletionsIfTxPressure with
  | .error kind => return .error kind
  | .ok _ => reserveTx

def sendBatch (prepare : κ → α → Prepared κ α) (cache : κ) (batch : List (TxSlot α)) :
    StateM XdpSocket (Option (SendOutcome κ α)) := do
  match ← reserveBatch with
  | .error kind => return some (.unsent (.error kind) cache batch)
  | .ok available =>
    if available = 0 then
      return some (.unsent (.ok ()) cache batch)
    else
      let limit := min batch.length available
      commitPrepared (prepareSlots prepare cache (batch.take limit)) (batch.drop limit)

/-! ## The send calls -/

/-- `XdpIpPacketSocket::send_inner`. -/
def sendInner (ifindex : IfIndex) (queueId : QueueId) (mtu : Nat) :
    List (TxSlot (IpPacketTransmit XdpPacketBuf XdpEgress)) →
      StateM XdpSocket (Option (SendOutcome Unit (IpPacketTransmit XdpPacketBuf XdpEgress))) :=
  sendBatch (fun _ => prepareIpTransmit ifindex queueId mtu) ()

/-- The parts of a UDP socket that are not shared with an IP socket, together with
what its router answers. -/
structure XdpUdpConfig where
  localAddr : SocketAddrV4
  ttl : Byte
  routeContext : XdpRouteContext
  resolveUdpL2 : ResolveUdpL2
  routeGeneration : Nat

def sendUdpInner (udp : XdpUdpConfig) :
    List (TxSlot (UdpTransmit XdpPacketBuf)) →
      StateM XdpSocket (Option (SendOutcome Unit (UdpTransmit XdpPacketBuf))) :=
  sendBatch (fun _ =>
    prepareUdpTransmit udp.resolveUdpL2 udp.localAddr udp.ttl udp.routeContext) ()

structure XdpUdpEndpoint where
  spec : UdpEndpointSpec
  info : UdpEndpointInfo
  cached : Option XdpUdpEndpointCache
deriving DecidableEq, Repr

/-- The cached header of an endpoint under the socket's routes. -/
def XdpUdpConfig.buildCache (udp : XdpUdpConfig) (spec : UdpEndpointSpec) :
    Except Error (XdpUdpEndpointCache × UdpEndpointInfo) :=
  buildXdpUdpEndpointCache udp.resolveUdpL2 udp.localAddr udp.ttl udp.routeContext
    udp.routeGeneration spec

def prepareXdpUdpEndpoint (udp : XdpUdpConfig) (spec : UdpEndpointSpec) :
    Except Error XdpUdpEndpoint :=
  (udp.buildCache spec).map fun built =>
    { spec := spec, info := built.2, cached := some built.1 }

/-- Brings the cache of an endpoint to the socket's routes.  On success the result is
the cache that the endpoint then has. -/
def refreshUdpEndpointCache (udp : XdpUdpConfig) (endpoint : XdpUdpEndpoint) :
    XdpUdpEndpoint × Except Error XdpUdpEndpointCache :=
  match endpoint.cached.filter (·.routeGeneration = udp.routeGeneration) with
  | some cached => (endpoint, .ok cached)
  | none =>
    match udp.buildCache endpoint.spec with
    | .error kind => ({ endpoint with cached := none }, .error kind)
    | .ok (cached, info) => ({ endpoint with info := info, cached := some cached }, .ok cached)

/-- The ways a refresh can go: the cache is current, or it is built anew. -/
theorem refreshUdpEndpointCache_cases (udp : XdpUdpConfig) (endpoint : XdpUdpEndpoint) :
    (∃ cached, endpoint.cached = some cached ∧ cached.routeGeneration = udp.routeGeneration ∧
      refreshUdpEndpointCache udp endpoint = (endpoint, .ok cached)) ∨
    (∀ cached ∈ endpoint.cached, cached.routeGeneration ≠ udp.routeGeneration) ∧
      ((∃ kind, udp.buildCache endpoint.spec = .error kind ∧
        refreshUdpEndpointCache udp endpoint = ({ endpoint with cached := none }, .error kind)) ∨
      ∃ cached info, udp.buildCache endpoint.spec = .ok (cached, info) ∧
        refreshUdpEndpointCache udp endpoint =
          ({ endpoint with info := info, cached := some cached }, .ok cached)) := by
  rw [refreshUdpEndpointCache]
  cases current : endpoint.cached.filter (·.routeGeneration = udp.routeGeneration) with
  | some cached =>
    obtain ⟨isCached, same⟩ := Option.filter_eq_some_iff.mp current
    exact .inl ⟨cached, isCached, of_decide_eq_true same, rfl⟩
  | none =>
    refine .inr ⟨?_, ?_⟩
    · intro cached isCached same
      exact Option.filter_eq_none_iff.mp current cached isCached (decide_eq_true same)
    · cases built : udp.buildCache endpoint.spec with
      | error kind => exact .inl ⟨kind, rfl, rfl⟩
      | ok pair => exact .inr ⟨pair.1, pair.2, rfl, rfl⟩

/-- Puts the header that the slots leave behind into the endpoint. -/
def SendOutcome.intoEndpoint (endpoint : XdpUdpEndpoint)
    (outcome : SendOutcome XdpUdpEndpointCache α) : SendOutcome XdpUdpEndpoint α :=
  { outcome with cache := { endpoint with cached := some outcome.cache } }

def sendUdpEndpointInner (udp : XdpUdpConfig) (endpoint : XdpUdpEndpoint)
    (batch : List (TxSlot (UdpEndpointTransmit XdpPacketBuf))) :
    StateM XdpSocket
      (Option (SendOutcome XdpUdpEndpoint (UdpEndpointTransmit XdpPacketBuf))) := do
  match refreshUdpEndpointCache udp endpoint with
  | (endpoint, .error kind) => return some (.unsent (.error kind) endpoint batch)
  | (endpoint, .ok cache) =>
    let outcome ← sendBatch (prepareEndpointTransmit endpoint.info) cache batch
    return outcome.map (SendOutcome.intoEndpoint endpoint)

/-! ## What a send does -/

/-- The state after a publication of reserved descriptors. -/
def XdpSocket.commitTx (socket : XdpSocket) (descs : List XdpDesc) : XdpSocket :=
  { socket with
    tx := socket.tx.publish descs
    txInFlight := socket.txInFlight + descs.length
    txSinceCompletionDrain := socket.txSinceCompletionDrain + descs.length }

variable {socket : XdpSocket} {keeps : κ → Prop} {meets : XdpTxFrame → Prop}

theorem XdpSocket.enqueueTxBatch_of_le {descs : List XdpDesc}
    (fits : descs.length ≤ socket.tx.available) :
    socket.enqueueTxBatch descs = (true, socket.commitTx descs) := by
  rw [enqueueTxBatch, ProducerQueue.produceMany_of_le _ fits]
  exact if_pos rfl

/-- The ways a send can go: it fails to reserve, it has nothing to send, or it
publishes the frames of the leading slots and wakes the kernel. -/
inductive Sends (prepare : κ → α → Prepared κ α) (cache : κ) (batch : List (TxSlot α))
    (socket : XdpSocket) : SendOutcome κ α → XdpSocket → Prop
  | failed {kind : Error} {target : XdpSocket}
      (reserve : reserveBatch.run socket = (.error kind, target)) :
      Sends prepare cache batch socket (.unsent (.error kind) cache batch) target
  | nothing {available : Nat} {target : XdpSocket} {prepared : PreparedBatch κ α}
      (reserve : reserveBatch.run socket = (.ok available, target))
      (loop : prepareSlots prepare cache (batch.take available) = prepared)
      (noFrames : prepared.frames = []) :
      Sends prepare cache batch socket
        (.unsent (deferredResult prepared.deferred) prepared.cache
          (prepared.slots ++ batch.drop available)) target
  | sent {available : Nat} {reserved target : XdpSocket} {prepared : PreparedBatch κ α}
      {woken : Except Error Unit}
      (reserve : reserveBatch.run socket = (.ok available, reserved))
      (loop : prepareSlots prepare cache (batch.take available) = prepared)
      (someFrames : prepared.frames ≠ [])
      (fits : prepared.frames.length ≤ reserved.tx.available)
      (wake : (wakeTxIfNeeded prepared.frames.length).run
        (reserved.commitTx (prepared.frames.map XdpTxFrame.desc)) = (woken, target)) :
      Sends prepare cache batch socket
        { result := sendResult prepared.frames.length
            (woken.bind fun _ => deferredResult prepared.deferred)
          batch := takeSlots prepared.frames.length (prepared.slots ++ batch.drop available)
          cache := prepared.cache
          sent := prepared.frames } target

theorem Reserving.reserveBatch {R : XdpSocket → XdpSocket → Prop} [Std.Refl R]
    [IsTrans XdpSocket R] (moves : Reserving R) : Follows R reserveBatch := by
  refine .bind moves.drainCompletionsIfTxPressure ?_
  rintro (kind | _)
  · exact .pure _
  · exact moves.reserveTx

/-- The free slots are counted with a refreshed cursor. -/
def XdpSocket.Counted (available : Nat) (socket : XdpSocket) : Prop :=
  socket.tx.available = available ∧ available = socket.tx.capacity - socket.tx.entries.length

theorem triple_txAvailable :
    Triple (fun _ => True) (modifyGet XdpSocket.txAvailable : StateM XdpSocket Nat)
      XdpSocket.Counted :=
  .modifyGet fun socket _ => ⟨rfl, socket.tx.available_sync⟩

/-- A reservation leaves the cursor refreshed. -/
theorem triple_reserveTx :
    Triple (fun _ => True) reserveTx fun result socket =>
      ∀ available, result = .ok available → socket.Counted available := by
  refine .skip fun _ => .bind triple_txAvailable fun available =>
    .ite (fun _ => .skip ?_) fun _ => ?_
  · rintro (kind | _)
    · exact .pure fun _ _ _ failed => nomatch failed
    · refine .skip fun _ => .bind triple_txAvailable fun available => .pure ?_
      rintro socket same _ ⟨⟩
      exact same
  · refine .pure ?_
    rintro socket same _ ⟨⟩
    exact same

theorem triple_reserveBatch :
    Triple (fun _ => True) reserveBatch fun result socket =>
      ∀ available, result = .ok available → socket.Counted available := by
  refine .skip ?_
  rintro (kind | _)
  · exact .pure fun _ _ _ failed => nomatch failed
  · exact triple_reserveTx

theorem counted_reserveBatch {reserved : XdpSocket} {available : Nat}
    (reserve : reserveBatch.run socket = (.ok available, reserved)) :
    reserved.Counted available := by
  have counted := triple_reserveBatch socket trivial
  rw [reserve] at counted
  exact counted available rfl

section Loop

variable {packet : α → XdpPacketBuf} {view : α → ν} {prepare : κ → α → Prepared κ α}

theorem length_frames_prepareSlots_le (prepare : κ → α → Prepared κ α) (cache : κ)
    (slots : List (TxSlot α)) :
    (prepareSlots prepare cache slots).frames.length ≤ slots.length := by
  fun_induction prepareSlots prepare cache slots with
  | case4 cache item rest next left frame _ prepared ih =>
    exact Nat.succ_le_succ ih
  | _ => exact Nat.zero_le _

theorem length_slots_prepareSlots (prepare : κ → α → Prepared κ α) (cache : κ)
    (slots : List (TxSlot α)) :
    (prepareSlots prepare cache slots).slots.length = slots.length := by
  fun_induction prepareSlots prepare cache slots with
  | case4 cache item rest next left frame _ prepared ih =>
    exact congrArg Nat.succ ih
  | _ => rfl

/-- The prepared frames lie in the buffers of the leading slots, in slot order. -/
theorem forall₂_prepareSlots (prepares : Prepares packet view prepare) (cache : κ)
    (slots : List (TxSlot α)) :
    List.Forall₂ (fun slot frame => ∃ item, slot = .ready item ∧ frame.InBuffer (packet item))
      (slots.take (prepareSlots prepare cache slots).frames.length)
      (prepareSlots prepare cache slots).frames := by
  fun_induction prepareSlots prepare cache slots with
  | case4 cache item rest next left frame step prepared ih =>
    refine .cons ⟨item, rfl, ?_⟩ ih
    exact prepares.inBuffer cache item frame (congrArg Prepared.frame step)
  | _ => exact .nil

/-- What preparing one slot keeps of the cache holds along the loop, and with it what
the cache gives for each frame. -/
theorem forall_prepareSlots (step : ∀ cache item, keeps cache → keeps (prepare cache item).cache ∧
      ∀ frame, (prepare cache item).frame = .ok frame → meets frame) (cache : κ)
    (slots : List (TxSlot α)) (kept : keeps cache) :
    keeps (prepareSlots prepare cache slots).cache ∧
      ∀ frame ∈ (prepareSlots prepare cache slots).frames, meets frame := by
  fun_induction prepareSlots prepare cache slots with
  | case3 cache item rest next left kind prepared =>
    have after := (step cache item kept).1
    rw [prepared] at after
    exact ⟨after, nofun⟩
  | case4 cache item rest next left frame prepared others ih =>
    obtain ⟨after, first⟩ := step cache item kept
    rw [prepared] at after first
    obtain ⟨last, frames⟩ := ih after
    exact ⟨last, List.forall_mem_cons.mpr ⟨first frame rfl, frames⟩⟩
  | _ => exact ⟨kept, nofun⟩

/-- Behind the prepared frames every slot looks as before. -/
theorem drop_prepareSlots (prepares : Prepares packet view prepare) (cache : κ)
    (slots : List (TxSlot α)) :
    let prepared := prepareSlots prepare cache slots
    (prepared.slots.drop prepared.frames.length).map (TxSlot.map view) =
      (slots.drop prepared.frames.length).map (TxSlot.map view) := by
  fun_induction prepareSlots prepare cache slots with
  | case3 cache item rest next left kind step =>
    have same := prepares.unsent cache item kind (congrArg Prepared.frame step)
    rw [step] at same
    simp [TxSlot.map, same]
  | case4 cache item rest next left frame step prepared ih => exact ih
  | _ => rfl

end Loop

/-- Publishing prepared frames for which there is room. -/
theorem run_commitPrepared {prepared : PreparedBatch κ α} (rest : List (TxSlot α))
    (someFrames : prepared.frames ≠ []) (fits : prepared.frames.length ≤ socket.tx.available) :
    (commitPrepared prepared rest).run socket =
      let woken := (wakeTxIfNeeded prepared.frames.length).run
        (socket.commitTx (prepared.frames.map XdpTxFrame.desc))
      (some {
        result := sendResult prepared.frames.length
          (woken.1.bind fun _ => deferredResult prepared.deferred)
        batch := takeSlots prepared.frames.length (prepared.slots ++ rest)
        cache := prepared.cache
        sent := prepared.frames }, woken.2) := by
  have room : (prepared.frames.map XdpTxFrame.desc).length ≤ socket.tx.available := by
    rwa [List.length_map]
  have enqueue := XdpSocket.enqueueTxBatch_of_le room
  rw [commitPrepared, if_neg (mt List.length_eq_zero_iff.mp someFrames), run_bind, run_modifyGet,
    enqueue]
  rfl

theorem take_drop_min {β : Type*} (list : List β) (count : Nat) :
    list.take (min list.length count) = list.take count ∧
      list.drop (min list.length count) = list.drop count := by
  rcases Nat.le_total list.length count with le | le
  · rw [Nat.min_eq_left le, List.take_length, List.drop_length, List.take_of_length_le le,
      List.drop_of_length_le le]
    exact ⟨rfl, rfl⟩
  · rw [Nat.min_eq_right le]
    exact ⟨rfl, rfl⟩

/-- A send publishes what it has prepared, since it prepares no more than it has
reserved. -/
theorem sends_sendBatch (prepare : κ → α → Prepared κ α) (cache : κ) (batch : List (TxSlot α))
    (socket : XdpSocket) :
    ∃ outcome, ((sendBatch prepare cache batch).run socket).1 = some outcome ∧
      Sends prepare cache batch socket outcome ((sendBatch prepare cache batch).run socket).2 := by
  cases reserve : reserveBatch.run socket with
  | mk result reserved =>
    rw [sendBatch, run_bind, reserve]
    cases result with
    | error kind => exact ⟨_, rfl, .failed reserve⟩
    | ok available =>
      have room := (counted_reserveBatch reserve).1
      dsimp only
      by_cases full : available = 0
      · subst full
        rw [if_pos rfl]
        exact ⟨_, rfl, .nothing reserve rfl rfl⟩
      · obtain ⟨taken, left⟩ := take_drop_min batch available
        rw [if_neg full, taken, left]
        by_cases noFrames : (prepareSlots prepare cache (batch.take available)).frames = []
        · rw [commitPrepared, if_pos (List.length_eq_zero_iff.mpr noFrames)]
          exact ⟨_, rfl, .nothing reserve rfl noFrames⟩
        · have fits : (prepareSlots prepare cache (batch.take available)).frames.length ≤
              reserved.tx.available := by
            rw [room]
            exact le_trans (length_frames_prepareSlots_le _ _ _) (List.length_take_le _ _)
          rw [run_commitPrepared _ noFrames fits]
          exact ⟨_, rfl, .sent reserve rfl noFrames fits rfl⟩

theorem Sends.forall_sent {prepare : κ → α → Prepared κ α} {cache : κ} {batch : List (TxSlot α)}
    {target : XdpSocket} {outcome : SendOutcome κ α}
    (sends : Sends prepare cache batch socket outcome target)
    (step : ∀ cache item, keeps cache → keeps (prepare cache item).cache ∧
      ∀ frame, (prepare cache item).frame = .ok frame → meets frame) (kept : keeps cache) :
    keeps outcome.cache ∧ ∀ frame ∈ outcome.sent, meets frame := by
  cases sends with
  | failed reserve => exact ⟨kept, nofun⟩
  | nothing reserve loop noFrames =>
    subst loop
    exact ⟨(forall_prepareSlots step cache _ kept).1, nofun⟩
  | sent reserve loop someFrames fits wake =>
    subst loop
    exact forall_prepareSlots step cache _ kept

end FastSocket.Xdp
