import FastSocket.Buffer.Runs
import FastSocket.Transition.Simulation
import FastSocket.Xdp.FrameBuf
import FastSocket.Xdp.PacketBuf

/-!
# Packet buffers of both backends

Every layout that can be built keeps the packets of its pools inside their memory, on the
OS backend and on AF_XDP.  The parts of a frame that the socket models use are the bytes
that such a buffer has in its frame.
-/

namespace FastSocket.Xdp

open Packet Buffer Window Transition

/-! ## The parts of a frame -/

/-- The parts of a packet buffer are those of the bytes in its frame. -/
structure XdpPacketBuf.Represents (buffer : XdpPacketBuf) (inner : XdpPacketBufMut) : Prop where
  l2Headroom : inner.layout.l2Headroom = buffer.l2Headroom
  bytes : inner.storage.bytes = buffer.frame
  start : inner.start = buffer.start
  stop : inner.stop = buffer.start + buffer.len

namespace XdpPacketBuf

variable {buffer : XdpPacketBuf} {inner : XdpPacketBufMut}

theorem Represents.occupies (represents : buffer.Represents inner) :
    Occupies inner.storage.bytes inner.start inner.stop buffer.packet :=
  ⟨buffer.front, buffer.back, represents.bytes, represents.start.symm,
    represents.start ▸ represents.stop.symm⟩

theorem Represents.within (represents : buffer.Represents inner) : inner.Within := by
  apply PacketInner.within_of_occupies _ represents.occupies
  rw [represents.l2Headroom, represents.start]
  exact buffer.l2Headroom_le

theorem Represents.room_eq (represents : buffer.Represents inner) :
    inner.room = ⟨buffer.headroom, buffer.packet, buffer.back.length⟩ := by
  have capacity : PacketStorage.capacity inner.storage = buffer.frame.length := by
    rw [← LawfulPacketStorage.length_bytes]
    exact congrArg List.length represents.bytes
  have behind : buffer.frame.length - (buffer.start + buffer.len) = buffer.back.length := by
    rw [frame, List.length_append, List.length_append]
    exact Nat.add_sub_cancel_left _ _
  rw [PacketInner.room_eq represents.occupies, capacity, represents.l2Headroom, represents.start,
    represents.stop, behind]
  rfl

/-- A change at the front of a packet. -/
inductive Change where
  | prepend (bytes : List Byte)
  | trimPrefix (len : Nat)

/-- The change in the frame of a buffer, and whether it is accepted. -/
def Change.onFrame : Change → StateT XdpPacketBufMut Option Bool
  | .prepend bytes => fun inner => (inner.prepend bytes).toOption.map (Prod.map Except.isOk id)
  | .trimPrefix len => fun inner => (inner.trimPrefix len).toOption.map (Prod.map Except.isOk id)

/-- The change of the parts of a buffer, and whether it is accepted. -/
def Change.onParts (change : Change) : StateT XdpPacketBuf Option Bool :=
  fun buffer =>
    let changed := match change with
      | .prepend bytes => buffer.prepend bytes
      | .trimPrefix len => buffer.trimPrefix len
    some (changed.isSome, changed.getD buffer)

/-- Prepending does the same to the parts as to the frame. -/
theorem Represents.prepend (represents : buffer.Represents inner) (bytes : List Byte) :
    SameOutcome (fun inner buffer => buffer.Represents inner)
      ((Change.prepend bytes).onFrame inner) ((Change.prepend bytes).onParts buffer) := by
  have within := represents.within
  have room : inner.room.before = buffer.headroom := by rw [represents.room_eq]
  simp only [Change.onFrame, Change.onParts]
  rw [PacketInner.prepend, within.headroom_eq, room, XdpPacketBuf.prepend]
  by_cases fits : bytes.length ≤ buffer.headroom
  · have lower : bytes.length ≤ buffer.start := Nat.le_trans fits (Nat.sub_le _ _)
    have ordered := within.start_le
    have inside := within.stop_le
    rw [represents.start] at ordered
    obtain ⟨storage, written, isBytes, _⟩ := exists_write inner.storage
      (show buffer.start - bytes.length + bytes.length ≤ _ by omega)
    have parts : storage.bytes = buffer.front.take (buffer.start - bytes.length) ++
        (bytes ++ buffer.packet) ++ buffer.back := by
      change LawfulPacketStorage.bytes storage = _
      rw [isBytes]
      change overwrite inner.storage.bytes _ _ = _
      rw [represents.bytes, overwrite, frame, Nat.sub_add_cancel lower, List.append_assoc,
        List.append_assoc buffer.front, XdpPacketBuf.start,
        List.take_append_of_le_length (Nat.sub_le _ _), List.drop_left]
      simp only [List.append_assoc]
    have kept : (buffer.front.take (buffer.start - bytes.length)).length =
        buffer.start - bytes.length := List.length_take_of_le (Nat.sub_le _ _)
    have stop : inner.stop = (buffer.front.take (buffer.start - bytes.length)).length +
        (bytes ++ buffer.packet).length := by
      rw [kept, List.length_append, represents.stop, ← Nat.add_assoc, Nat.sub_add_cancel lower]
      rfl
    change SameOutcome _ (((if _ then _ else _ : Except _ _).toOption).map _) _
    rw [dif_pos fits, if_neg (Nat.not_lt.mpr fits), represents.start, written]
    exact .some ⟨rfl, represents.l2Headroom, parts, kept.symm, stop⟩
  · change SameOutcome _ (((if _ then _ else _ : Except _ _).toOption).map _) _
    rw [dif_neg fits, if_pos (Nat.not_le.mp fits)]
    exact .some ⟨rfl, represents⟩

theorem Represents.trimPrefix (represents : buffer.Represents inner) (len : Nat) :
    SameOutcome (fun inner buffer => buffer.Represents inner)
      ((Change.trimPrefix len).onFrame inner) ((Change.trimPrefix len).onParts buffer) := by
  have packet : inner.room.values = buffer.packet := by rw [represents.room_eq]
  simp only [Change.onFrame, Change.onParts]
  rw [PacketInner.trimPrefix, represents.within.len_eq, packet, XdpPacketBuf.trimPrefix]
  change SameOutcome _ (((if len > buffer.len then _ else _ : Except _ _).toOption).map _) _
  by_cases inside : len > buffer.len
  · rw [if_pos inside, if_pos inside]
    exact .some ⟨rfl, represents⟩
  · rw [if_neg inside, if_neg inside]
    have taken : (buffer.packet.take len).length = len :=
      List.length_take_of_le (Nat.not_lt.mp inside)
    have bytes : inner.storage.bytes =
        buffer.front ++ buffer.packet.take len ++ buffer.packet.drop len ++ buffer.back := by
      rw [represents.bytes, frame, List.append_assoc buffer.front (List.take _ _),
        List.take_append_drop]
    have start : inner.start + len = (buffer.front ++ buffer.packet.take len).length := by
      rw [List.length_append, taken, represents.start]
      rfl
    have stop : inner.stop = (buffer.front ++ buffer.packet.take len).length +
        (buffer.packet.drop len).length := by
      rw [List.length_append, Nat.add_assoc, ← List.length_append, List.take_append_drop,
        represents.stop]
      rfl
    exact .some ⟨rfl, represents.l2Headroom, bytes, start, stop⟩

theorem simulates_change (change : Change) :
    Simulates (fun inner buffer => buffer.Represents inner) change.onFrame change.onParts := by
  intro inner buffer represents
  cases change with
  | prepend bytes => exact represents.prepend bytes
  | trimPrefix len => exact represents.trimPrefix len

/-- Whatever is prepended to a packet and taken off its front, the same changes are accepted
on the bytes of its frame and on its parts, and the parts stay those of the bytes. -/
theorem changes_represent (represents : buffer.Represents inner) (changes : List Change) :
    SameOutcome (fun inner buffer => buffer.Represents inner)
      ((changes.mapM Change.onFrame).run inner) ((changes.mapM Change.onParts).run buffer) :=
  Simulates.mapM simulates_change changes inner buffer represents

theorem changes_represent_heap :
    SameOutcome (fun inner buffer => buffer.Represents inner)
      (([.trimPrefix 1, .prepend [7#8, 8#8]].mapM Change.onFrame).run
        ⟨.heap [1#8, 2#8, 3#8, 4#8], ⟨4, 0, 0, 4, 0, 1, 4, 1, 0, false⟩, 1, 3⟩)
      (([.trimPrefix 1, .prepend [7#8, 8#8]].mapM Change.onParts).run
        ⟨0, .tx, none, 0, [1#8], [2#8, 3#8], [4#8], Nat.zero_le _⟩) :=
  changes_represent ⟨rfl, rfl, rfl, rfl⟩ _

end XdpPacketBuf

/-! ## Both backends -/

/-- With every layout that can be built, the packet buffers of both backends are byte
sequences with room at both ends. -/
theorem packetBuffers_refine_bytes {layout : BufferLayout} (constructed : layout.Constructed) :
    (∀ inner, Os.OsPacketBufMut.Obtained layout inner → inner.RefinesBytes) ∧
      ∀ inner, XdpPacketBufMut.Obtained layout inner → inner.RefinesBytes :=
  ⟨fun _ obtained => (obtained.within constructed.wellFormed).refinesBytes,
    fun _ obtained => (obtained.within constructed.wellFormed).refinesBytes⟩

/-- A layout with three bytes of link-layer headroom, and a vector of another length. -/
theorem packetBuffers_refine_bytes_small :
    ∃ layout, BufferLayout.Constructed layout ∧ layout.l2Headroom = 3 ∧ layout.chunkSize = 10 ∧
      (Os.OsBufferPool.allocate layout [1, 2]).RefinesBytes ∧
      (XdpTxPool.allocate layout (.heap (List.replicate 10 0))).RefinesBytes := by
  have plain : BufferLayout.withHeadroomAndTailroom 4 2 1 =
      .ok ⟨4, 2, 1, 7, 2, 1, 7, 1, 0, false⟩ := rfl
  have raised : BufferLayout.withL2Headroom ⟨4, 2, 1, 7, 2, 1, 7, 1, 0, false⟩ 3 =
      .ok ⟨4, 2, 1, 10, 5, 1, 10, 1, 3, false⟩ := rfl
  have constructed := BufferLayout.Constructed.withL2Headroom (.withHeadroomAndTailroom plain) raised
  refine ⟨_, constructed, rfl, rfl, ?_, ?_⟩
  · exact (packetBuffers_refine_bytes constructed).1 _ (.allocate [1, 2])
  · exact (packetBuffers_refine_bytes constructed).2 _
      (.heap (show (HeapReclaim.new _ 1).pop = some _ from rfl))

end FastSocket.Xdp
