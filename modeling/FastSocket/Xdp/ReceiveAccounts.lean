import FastSocket.Xdp.ReceiveLoop

/-!
# Received descriptors are accounted for

Every drained descriptor in a frame of the UMEM gives its frame away once: in a packet
of the caller's batch, or to the pool of receive frames.
-/

namespace FastSocket.Xdp

open Packet Buffer Spsc

universe u

/-- The frames of the descriptors that lie in one. -/
def descFrames (umem : Umem) (descs : List XdpDesc) : List Addr :=
  descs.filterMap fun desc => umem.frameAddrForDesc desc.addr

/-- The packet of an item lies in the frame of a descriptor. -/
def DeliveredFrom {α : Type u} (umem : Umem) (packetOf : α → XdpPacketBufMut) (desc : XdpDesc)
    (item : α) : Prop :=
  ∃ frameAddr, umem.frameAddrForDesc desc.addr = some frameAddr ∧
    umemFrame? (packetOf item) = some frameAddr

/-- What a pass over descriptors adds to the batch and to the pool. -/
structure Accounted {α : Type u} (umem : Umem) (packetOf : α → XdpPacketBufMut)
    (descs : List XdpDesc) (before after : RxPass α) (items : List α) : Prop where
  items_eq : after.out.items = before.out.items ++ items
  capacity_eq : after.out.capacity = before.out.capacity
  delivered : ∃ taken, taken.Sublist descs ∧
    List.Forall₂ (DeliveredFrom umem packetOf) taken items
  frames : ∃ recycled, after.reclaimed = before.reclaimed ++ recycled ∧
    (items.filterMap (umemFrame? ∘ packetOf) ++ recycled).Perm (descFrames umem descs)

section Steps

variable {α : Type u} {umem : Umem} {packetOf : α → XdpPacketBufMut} {desc : XdpDesc}
  {rest : List XdpDesc} {before middle after : RxPass α} {items : List α} {frameAddr : Addr}

theorem descFrames_cons_of_some (found : umem.frameAddrForDesc desc.addr = some frameAddr) :
    descFrames umem (desc :: rest) = frameAddr :: descFrames umem rest :=
  List.filterMap_cons_some found

theorem reclaimRxDescs_eq (umem : Umem) (failing : XdpDesc) (remaining : List XdpDesc) :
    reclaimRxDescs umem failing remaining = descFrames umem (failing :: remaining) := by
  rw [reclaimRxDescs, descFrames, List.filterMap_cons]
  cases umem.frameAddrForDesc failing.addr with
  | none => rfl
  | some frameAddr => rfl

theorem Accounted.nil (pass : RxPass α) : Accounted umem packetOf [] pass pass [] where
  items_eq := (List.append_nil _).symm
  capacity_eq := rfl
  delivered := ⟨[], List.Sublist.slnil, .nil⟩
  frames := ⟨[], (List.append_nil _).symm, .refl _⟩

theorem Accounted.recycle (found : umem.frameAddrForDesc desc.addr = some frameAddr)
    (accounted : Accounted umem packetOf rest
      { before with reclaimed := before.reclaimed ++ [frameAddr] } after items) :
    Accounted umem packetOf (desc :: rest) before after items where
  items_eq := accounted.items_eq
  capacity_eq := accounted.capacity_eq
  delivered := by
    obtain ⟨taken, sublist, from_⟩ := accounted.delivered
    exact ⟨taken, sublist.cons desc, from_⟩
  frames := by
    obtain ⟨recycled, reclaimed, frames⟩ := accounted.frames
    refine ⟨frameAddr :: recycled, ?_, ?_⟩
    · rw [reclaimed, List.append_assoc, List.singleton_append]
    · rw [descFrames_cons_of_some found]
      exact List.perm_middle.trans (frames.cons frameAddr)

theorem Accounted.deliver {item : α} {out : RecvBatch α}
    (isFrom : DeliveredFrom umem packetOf desc item)
    (pushed : out.items = before.out.items ++ [item])
    (capacity : out.capacity = before.out.capacity)
    (accounted : Accounted umem packetOf rest { before with out } after items) :
    Accounted umem packetOf (desc :: rest) before after (item :: items) where
  items_eq := by
    rw [accounted.items_eq, pushed, List.append_assoc, List.singleton_append]
  capacity_eq := accounted.capacity_eq.trans capacity
  delivered := by
    obtain ⟨taken, sublist, from_⟩ := accounted.delivered
    exact ⟨desc :: taken, sublist.cons_cons desc, .cons isFrom from_⟩
  frames := by
    obtain ⟨frameAddr, found, isFrame⟩ := isFrom
    obtain ⟨recycled, reclaimed, frames⟩ := accounted.frames
    refine ⟨recycled, reclaimed, ?_⟩
    have head : (umemFrame? ∘ packetOf) item = some frameAddr := isFrame
    rw [descFrames_cons_of_some found, List.filterMap_cons_some head, List.cons_append]
    exact frames.cons frameAddr

theorem Accounted.corrupt (failing : XdpDesc) (remaining : List XdpDesc) (before : RxPass α) :
    Accounted umem packetOf (failing :: remaining) before
      { before with
        reclaimed := before.reclaimed ++ reclaimRxDescs umem failing remaining } [] where
  items_eq := (List.append_nil _).symm
  capacity_eq := rfl
  delivered := ⟨[], List.nil_sublist _, .nil⟩
  frames := by
    refine ⟨_, rfl, ?_⟩
    rw [reclaimRxDescs_eq]
    exact .refl _

end Steps

variable {α : Type u} {side : RxSide} {range : List Byte → Option (Nat × Nat)}
  {packetOf : α → XdpPacketBufMut} {verdict : XdpDesc → RxVerdict α}

/-- A batch with room for the descriptors never refuses a packet, and the loop accounts
for every descriptor. -/
theorem accounted_receiveDescs
    (follows : ∀ desc, VerdictFollows side range packetOf desc (verdict desc))
    (descs : List XdpDesc) (delivered : Nat) (before : RxPass α)
    (room : descs.length ≤ before.out.remaining) :
    ∃ result after items,
      receiveDescs side.mapping.umem verdict descs delivered before = some (result, after) ∧
      (result = .ok (delivered + items.length) ∨ result = .error ringCorruptError) ∧
      Accounted side.mapping.umem packetOf descs before after items := by
  induction descs generalizing delivered before with
  | nil => exact ⟨_, _, [], rfl, .inl rfl, .nil before⟩
  | cons desc rest ih =>
    have step := follows desc
    rw [receiveDescs]
    cases isVerdict : verdict desc with
    | corrupt => exact ⟨_, _, [], rfl, .inr rfl, .corrupt desc rest before⟩
    | recycle frameAddr =>
      rw [isVerdict] at step
      obtain ⟨result, after, items, run, isResult, accounted⟩ := ih delivered
        { before with reclaimed := before.reclaimed ++ [frameAddr] } (Nat.le_of_succ_le room)
      exact ⟨result, after, items, run, isResult, accounted.recycle step.frame_of_recycle⟩
    | deliver item =>
      rw [isVerdict] at step
      rw [List.length_cons] at room
      obtain ⟨out, pushed, isItems, capacity, remaining⟩ :=
        before.out.push_of_remaining (Nat.zero_lt_of_lt room)
      obtain ⟨result, after, items, run, isResult, accounted⟩ := ih (delivered + 1)
        { before with out } (Nat.le_of_succ_le_succ (room.trans_eq remaining.symm))
      refine ⟨result, after, item :: items, ?_, ?_,
        accounted.deliver step.frame_of_deliver isItems capacity⟩
      · simp only [pushed]
        exact run
      · rw [List.length_cons]
        rcases isResult with rfl | corrupt
        · exact .inl (congrArg Except.ok (by omega))
        · exact .inr corrupt

/-- A call accounts once for each of the descriptors that it has drained.  It yields a
result, the packets that it has appended come from some of the descriptors in their
order, and they and the frames pushed to the pool are the frames of the descriptors,
each of them once. -/
def AccountsOnce {α : Type u} (umem : Umem) (packetOf : α → XdpPacketBufMut)
    (descs : List XdpDesc) (out : RecvBatch α) (call : Option (Except Error Nat × RxPass α)) :
    Prop :=
  ∃ result pass items taken, call = some (result, pass) ∧
    (result = .ok items.length ∨ result = .error ringCorruptError) ∧
    pass.out.items = out.items ++ items ∧
    pass.out.capacity = out.capacity ∧
    taken.Sublist descs ∧
    List.Forall₂ (DeliveredFrom umem packetOf) taken items ∧
    (items.filterMap (umemFrame? ∘ packetOf) ++ pass.reclaimed).Perm (descFrames umem descs) ∧
    (items.filterMap (umemFrame? ∘ packetOf) ++ pass.reclaimed).Nodup

theorem accountsOnce_receiveBatch
    (follows : ∀ desc, VerdictFollows side range packetOf desc (verdict desc))
    (rx : ConsumerQueue XdpDesc) (out : RecvBatch α)
    (distinct : (descFrames side.mapping.umem (drainRx rx out.remaining).2).Nodup) :
    AccountsOnce side.mapping.umem packetOf (drainRx rx out.remaining).2 out
      (receiveBatch side.mapping.umem verdict rx out).1 := by
  obtain ⟨result, pass, items, run, isResult, accounted⟩ := accounted_receiveDescs follows
    (drainRx rx out.remaining).2 0 { out, reclaimed := [] } (length_drainRx_le rx out.remaining)
  obtain ⟨taken, sublist, delivered⟩ := accounted.delivered
  obtain ⟨recycled, reclaimed, frames⟩ := accounted.frames
  rw [List.nil_append] at reclaimed
  rw [Nat.zero_add] at isResult
  rw [← reclaimed] at frames
  exact ⟨result, pass, items, taken, run, isResult, accounted.items_eq, accounted.capacity_eq,
    sublist, delivered, frames, frames.nodup_iff.mpr distinct⟩

/-- The receive calls of both socket types account once for each drained descriptor, as
long as the descriptors lie in distinct frames. -/
theorem receive_accounts_once (side : RxSide) (localAddr : SocketAddrV4)
    (acceptedPorts : XdpUdpAcceptedPorts) (rx : ConsumerQueue XdpDesc) :
    (∀ out, (descFrames side.mapping.umem (drainRx rx out.remaining).2).Nodup →
      AccountsOnce side.mapping.umem IpPacketReceive.packet (drainRx rx out.remaining).2 out
        (receiveBatch side.mapping.umem (ipVerdict side) rx out).1) ∧
    ∀ out, (descFrames side.mapping.umem (drainRx rx out.remaining).2).Nodup →
      AccountsOnce side.mapping.umem UdpReceive.packet (drainRx rx out.remaining).2 out
        (receiveBatch side.mapping.umem (udpVerdict side localAddr acceptedPorts) rx out).1 :=
  ⟨accountsOnce_receiveBatch (follows_ipVerdict side) rx,
    accountsOnce_receiveBatch (follows_udpVerdict side localAddr acceptedPorts) rx⟩

/-- Four frames of 64 bytes.  The first holds an IPv4 datagram of 20 bytes. -/
def sampleRxSide : RxSide where
  mapping := {
    umem := .fourFrames
    backing := List.replicate 12 0#8 ++ [0x08#8, 0x00#8] ++
      [0x45#8, 0#8, 0#8, 20#8] ++ List.replicate 238 0#8
    le_length := by decide +kernel }
  layout := {
    payloadCapacity := 50
    headroom := 14
    tailroom := 0
    chunkSize := 64
    dataOffset := 14
    align := 1
    stride := 64
    maxSegments := 1
    l2Headroom := 14
    chunkFixed := true }

/-- Descriptors of the first frame, of the second one with a broken packet, across two
frames, and outside of the UMEM. -/
def sampleRxRing : ConsumerQueue XdpDesc :=
  { (ConsumerQueue.empty 8 : ConsumerQueue XdpDesc) with
    published := [⟨0#64, 34, 0⟩, ⟨64#64, 34, 0⟩, ⟨150#64, 60, 0⟩, ⟨1000#64, 10, 0⟩,
      ⟨192#64, 34, 0⟩]
    known_le := by decide
    room := by decide }

theorem receive_accounts_once_of_corrupt_batch :
    (descFrames sampleRxSide.mapping.umem (drainRx sampleRxRing 8).2).Nodup ∧
      AccountsOnce sampleRxSide.mapping.umem IpPacketReceive.packet (drainRx sampleRxRing 8).2
        { items := [], capacity := 8, fits := Nat.zero_le 8 }
        (receiveBatch sampleRxSide.mapping.umem (ipVerdict sampleRxSide) sampleRxRing
          { items := [], capacity := 8, fits := Nat.zero_le 8 }).1 := by
  have distinct : (descFrames sampleRxSide.mapping.umem (drainRx sampleRxRing 8).2).Nodup := by
    decide +kernel
  exact ⟨distinct, (receive_accounts_once sampleRxSide ⟨0#32, 0#16⟩ (.single 0#16)
    sampleRxRing).1 _ distinct⟩

end FastSocket.Xdp
