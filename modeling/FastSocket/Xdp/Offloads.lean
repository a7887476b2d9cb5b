import FastSocket.Os.Send
import FastSocket.Xdp.CorruptCompletions
import FastSocket.Xdp.FrameConservation
import FastSocket.Xdp.SameBatches

/-!
# Offloads that a socket does not support

The AF_XDP sockets report neither segmentation nor checksum offloads.  Their send loops
do not look at the fields that ask for them, so that a packet which passes the other
checks is sent as it is.  Endpoints and OS sockets refuse segmentation.
-/

namespace FastSocket.Xdp

open Packet Spsc Transition

variable {α : Type}

/-! ## Accepted slots -/

/-- The loop prepares a frame for the slot. -/
def slotPrepares (prepare : α → Prepared Unit α) : TxSlot α → Bool
  | .ready item => (prepare item).frame.toOption.isSome
  | .taken => false

/-- The loop stops at the first slot for which it cannot prepare a frame. -/
theorem length_frames_prepareSlots (prepare : α → Prepared Unit α) (slots : List (TxSlot α)) :
    (prepareSlots (fun _ => prepare) () slots).frames.length =
      (slots.takeWhile (slotPrepares prepare)).length := by
  induction slots with
  | nil => rfl
  | cons slot rest ih =>
    cases slot with
    | taken => rfl
    | ready item =>
      rw [prepareSlots]
      split
      case h_1 cache left kind prepared =>
        rw [List.takeWhile_cons_of_neg]
        · rfl
        · rw [slotPrepares, prepared]
          exact Bool.false_ne_true
      case h_2 cache left frame prepared =>
        rw [List.takeWhile_cons_of_pos, List.length_cons, List.length_cons, ih]
        rw [slotPrepares, prepared]
        rfl

theorem length_frames_of_deferred_eq_none {κ : Type} {prepare : κ → α → Prepared κ α} {cache : κ}
    {slots : List (TxSlot α)} (finished : (prepareSlots prepare cache slots).deferred = none) :
    (prepareSlots prepare cache slots).frames.length = slots.length := by
  fun_induction prepareSlots prepare cache slots with
  | case1 => rfl
  | case2 => cases finished
  | case3 => cases finished
  | case4 cache item rest next left frame step prepared ih => exact congrArg Nat.succ (ih finished)

section Sends

variable {κ : Type} {prepare : κ → α → Prepared κ α} {cache : κ} {batch : List (TxSlot α)}
  {socket target : XdpSocket} {outcome : SendOutcome κ α}

theorem Sends.acceptedCount_eq (sends : Sends prepare cache batch socket outcome target) :
    acceptedCount outcome.result =
      (prepareSlots prepare cache (batch.take socket.reservable)).frames.length := by
  cases sends with
  | failed reserve =>
    rw [XdpSocket.reservable, reserve]
    rfl
  | nothing reserve loop noFrames =>
    rw [XdpSocket.reservable_of_ok reserve, loop, noFrames]
    exact acceptedCount_sendResult _ _
  | sent reserve loop someFrames fits wake =>
    rw [XdpSocket.reservable_of_ok reserve, ← loop]
    exact acceptedCount_sendResult _ _

/-- A send without an error stops at the end of its batch or for lack of room. -/
theorem Sends.stops_of_ok (sends : Sends prepare cache batch socket outcome target) {count : Nat}
    (ok : outcome.result = .ok count) : socket.reservable ≤ count ∨ batch.length ≤ count := by
  have accepted := sends.acceptedCount_eq
  rw [ok, acceptedCount] at accepted
  have finished : (prepareSlots prepare cache (batch.take socket.reservable)).deferred = none := by
    cases sends with
    | failed reserve => cases ok
    | @nothing _ _ prepared reserve loop noFrames =>
      rw [XdpSocket.reservable_of_ok reserve, loop]
      cases deferred : prepared.deferred with
      | none => rfl
      | some kind =>
        rw [SendOutcome.unsent, deferred] at ok
        cases ok
    | @sent _ _ _ prepared woken reserve loop someFrames fits wake =>
      rw [XdpSocket.reservable_of_ok reserve, loop]
      cases deferred : prepared.deferred with
      | none => rfl
      | some kind =>
        rw [deferred] at ok
        cases woken <;> cases ok
  rw [length_frames_of_deferred_eq_none finished, List.length_take] at accepted
  omega

end Sends

/-! ## Unsupported items -/

/-- No accepted slot asks for something that is not supported.  Where a send stops without
an error in front of such a slot, it had no room for another one. -/
structure RefusesUnsupported (supported : α → Prop) (batch : List (TxSlot α)) (socket : XdpSocket)
    (result : Except SendError Nat) : Prop where
  accepted : ∀ item, .ready item ∈ batch.take (acceptedCount result) → supported item
  refused : ∀ count, result = .ok count → ∀ item, batch[count]? = some (.ready item) →
    supported item ∨ socket.reservable ≤ count

/-- A new socket, with a TX ring of some size. -/
def socketWithRing (capacity : Nat) : XdpSocket :=
  { fourFramesSocket with tx := .empty capacity }

theorem reservable_socketWithRing {capacity : Nat} (positive : 0 < capacity) :
    (socketWithRing capacity).reservable = capacity := by
  have free : (socketWithRing capacity).txAvailable.1 = capacity := Nat.zero_add capacity
  have quiet : (socketWithRing capacity).takeTurn = (true, socketWithRing capacity) := rfl
  have reserve : reserveTx.run (socketWithRing capacity) =
      (.ok capacity, (socketWithRing capacity).txAvailable.2) := by
    rw [reserveTx, run_bind, interleave, run_modifyGet, quiet, run_bind, run_modifyGet, free,
      if_neg (Nat.pos_iff_ne_zero.mp positive)]
    rfl
  have unpressed : reserveBatch.run (socketWithRing capacity) =
      reserveTx.run (socketWithRing capacity) := rfl
  exact XdpSocket.reservable_of_ok (unpressed.trans reserve)

/-- A send never accepts an unsupported item exactly if its batch has none among the
leading slots that pass the other checks. -/
theorem refusesUnsupported_iff (prepare : α → Prepared Unit α) (supported : α → Prop)
    (batch : List (TxSlot α)) :
    (∀ socket outcome, ((sendBatch (fun _ => prepare) () batch).run socket).1 = some outcome →
        RefusesUnsupported supported batch socket outcome.result) ↔
      ∀ item, .ready item ∈ batch.takeWhile (slotPrepares prepare) → supported item := by
  have leading : batch.takeWhile (slotPrepares prepare) =
      batch.take (batch.takeWhile (slotPrepares prepare)).length :=
    List.prefix_iff_eq_take.mp (List.takeWhile_prefix _)
  constructor
  · intro refuses item member
    -- a ring with room for the whole batch
    obtain ⟨outcome, returned, sends⟩ := sends_sendBatch (fun _ => prepare) () batch
      (socketWithRing (2 ^ batch.length))
    have room : batch.length ≤ (socketWithRing (2 ^ batch.length)).reservable := by
      rw [reservable_socketWithRing (Nat.two_pow_pos _)]
      exact Nat.lt_two_pow_self.le
    have accepted := sends.acceptedCount_eq
    rw [List.take_of_length_le room, length_frames_prepareSlots] at accepted
    apply (refuses _ outcome returned).accepted item
    rwa [accepted, ← leading]
  · intro supports socket outcome returned
    obtain ⟨sent, sameReturned, sends⟩ := sends_sendBatch (fun _ => prepare) () batch socket
    rw [returned, Option.some.injEq] at sameReturned
    subst sameReturned
    have accepted := sends.acceptedCount_eq
    rw [length_frames_prepareSlots, ← List.take_takeWhile] at accepted
    constructor
    · intro item member
      apply supports item
      rw [leading]
      refine List.take_subset_take_left batch ?_ member
      rw [accepted]
      exact List.length_take_le' _ _
    · intro count ok item isNext
      right
      rcases sends.stops_of_ok ok with noRoom | ended
      · exact noRoom
      · rw [List.getElem?_eq_none ended] at isNext
        cases isNext

/-! ## The send calls -/

/-- A datagram that is not to be segmented. -/
def UnsegmentedUdp (tx : UdpTransmit XdpPacketBuf) : Prop :=
  tx.gsoSegmentSize = none

/-- A datagram that asks for no offload. -/
def PlainIp (tx : IpPacketTransmit XdpPacketBuf XdpEgress) : Prop :=
  tx.offload = 0#32 ∧ tx.tsoSegmentSize = none

/-- An endpoint with a segment size is not prepared. -/
theorem prepareXdpUdpEndpoint_of_gso (udp : XdpUdpConfig) {spec : UdpEndpointSpec}
    (segmented : spec.gsoSegmentSize.isSome) :
    ∃ kind, prepareXdpUdpEndpoint udp spec = .error kind := by
  rw [prepareXdpUdpEndpoint, XdpUdpConfig.buildCache, buildXdpUdpEndpointCache]
  cases spec.ipv4Destination with
  | error kind => exact ⟨kind, rfl⟩
  | ok destination =>
    cases spec.ipv4Source udp.localAddr with
    | error kind => exact ⟨kind, rfl⟩
    | ok sourceIp =>
      rw [segmented]
      exact ⟨_, rfl⟩

/-- An OS socket sends no datagram with a segment size. -/
theorem validate_of_gso (mtu : Nat) {tx : UdpTransmit (List Byte)}
    (segmented : tx.gsoSegmentSize.isSome) : ∃ kind, Os.validate mtu (.ready tx) = .error kind := by
  rw [Os.validate, Os.hasUnsupportedTxOptions, segmented, Bool.or_true, if_pos rfl]
  split <;> exact ⟨_, rfl⟩

/-- A datagram of one byte that is to be segmented. -/
def segmentedTransmit : UdpTransmit XdpPacketBuf :=
  { sampleTransmit (receivedBuffer 0 0) with gsoSegmentSize := some 1 }

/-- An IPv4 header without a payload, whose checksum the device is asked to fill in. -/
def uncheckedTransmit : IpPacketTransmit XdpPacketBuf XdpEgress where
  packet :=
    { receivedBuffer 0 0 with
      packet := [0x45#8, 0, 0, 20, 0, 0, 0, 0, 64, 17, 0, 0, 192, 0, 2, 10, 198, 51, 100, 20]
      back := [0, 0] }
  egress := .ipv4 8 3 0x020000000002#48 0x020000000001#48 1500
  source := none
  destination := none
  hopLimit := none
  offload := 1#32
  tsoSegmentSize := some 1448

/-- A socket with room accepts an item that it can prepare, whatever the item asks for. -/
theorem accepts_of_prepares (prepare : α → Prepared Unit α) (supported : α → Prop) (item : α)
    (prepares : slotPrepares prepare (.ready item) = true) (asks : ¬ supported item) :
    ∃ outcome, ((sendBatch (fun _ => prepare) () [.ready item]).run (socketWithRing 2)).1 =
        some outcome ∧
      acceptedCount outcome.result = 1 ∧ ¬ supported item ∧
      ¬ RefusesUnsupported supported [.ready item] (socketWithRing 2) outcome.result := by
  obtain ⟨outcome, returned, sends⟩ := sends_sendBatch (fun _ => prepare) () [.ready item]
    (socketWithRing 2)
  have accepted := sends.acceptedCount_eq
  rw [reservable_socketWithRing Nat.two_pos, length_frames_prepareSlots] at accepted
  change _ = (List.takeWhile (slotPrepares prepare) [.ready item]).length at accepted
  rw [List.takeWhile_cons_of_pos prepares] at accepted
  refine ⟨outcome, returned, accepted, asks, ?_⟩
  intro refuses
  apply asks
  apply refuses.accepted item
  rw [accepted]
  exact List.mem_singleton_self _

end FastSocket.Xdp
