import FastSocket.Buffer.Packet
import FastSocket.Window.Room

/-!
# Packet buffers as byte sequences

A packet buffer stands for a byte sequence with room at both ends.  Over a storage that
reads and writes its own bytes, every operation does to the buffer what it does to the
sequence, and none is a fault.
-/

namespace FastSocket.Buffer

open Packet Window

/-! ## Operations on byte sequences -/

/-- Applies a change if there is room for it and returns an error otherwise. -/
def replyOr (room : Room Byte) (changed : Option (Room Byte)) (error : BufferError) :
    BufferReply × Room Byte :=
  match changed with
  | some next => (.ok (), next)
  | none => (.error error, room)

/-- What an operation does to the byte sequence of a buffer. -/
def applyToBytes (room : Room Byte) : BufferOp → BufferReply × Room Byte
  | .prepend bytes =>
    replyOr room (room.pushFront bytes)
      (.reserve (.insufficientHeadroom room.before bytes.length))
  | .extendFromSlice bytes =>
    replyOr room (room.pushBack bytes)
      (.access (.insufficientTailroom room.after bytes.length))
  | .trimPrefix len =>
    replyOr room (room.dropFront len) (.access (.outOfBounds 0 len room.values.length))
  | .trimSuffix len =>
    replyOr room (room.dropBack len)
      (.access (.outOfBounds (room.values.length - len) len room.values.length))
  | .freeze => (.ok (), room)
  | .intoMut => (.ok (), room)

def runOnBytes : Room Byte → List BufferOp → List BufferReply × Room Byte
  | room, [] => ([], room)
  | room, op :: rest =>
    let applied := applyToBytes room op
    let others := runOnBytes applied.2 rest
    (applied.1 :: others.1, others.2)

/-! ## Storages that keep to their bytes -/

/-- A storage with its own bytes and those around them.  Inside the capacity, reads and
writes are about the own bytes only. -/
class LawfulPacketStorage (σ : Type) extends PacketStorage σ where
  bytes : σ → List Byte
  outside : σ → List Byte × List Byte
  length_bytes : ∀ storage, (bytes storage).length = capacity storage
  tailroom_eq : ∀ storage stop, stop ≤ capacity storage →
    tailroom storage stop = .ok (capacity storage - stop)
  read_eq : ∀ storage offset len, offset + len ≤ capacity storage →
    read storage offset len = .ok (((bytes storage).drop offset).take len)
  write_eq : ∀ storage offset added, offset + added.length ≤ capacity storage →
    ∃ next, write storage offset added = .ok next ∧
      bytes next = overwrite (bytes storage) offset added ∧ outside next = outside storage

open LawfulPacketStorage (bytes outside)

theorem exists_write {σ : Type} [LawfulPacketStorage σ] (storage : σ) {offset : Nat}
    {added : List Byte} (inside : offset + added.length ≤ PacketStorage.capacity storage) :
    ∃ next, PacketStorage.write storage offset added = .ok next ∧
      bytes next = overwrite (bytes storage) offset added ∧ outside next = outside storage ∧
      PacketStorage.capacity next = PacketStorage.capacity storage := by
  obtain ⟨next, written, isBytes, isOutside⟩ :=
    LawfulPacketStorage.write_eq storage offset added inside
  rw [← LawfulPacketStorage.length_bytes] at inside
  refine ⟨next, written, isBytes, isOutside, ?_⟩
  rw [← LawfulPacketStorage.length_bytes, isBytes, length_overwrite inside,
    LawfulPacketStorage.length_bytes]

namespace PacketInner

variable {σ : Type} [LawfulPacketStorage σ]

/-- The byte sequence of a buffer. -/
def room (inner : PacketInner σ) : Room Byte :=
  { before := inner.start - inner.layout.l2Headroom
    values := ((bytes inner.storage).drop inner.start).take (inner.stop - inner.start)
    after := PacketStorage.capacity inner.storage - inner.stop }

/-- The packet lies behind the link-layer headroom and inside the storage. -/
structure Within (inner : PacketInner σ) : Prop where
  l2Headroom_le : inner.layout.l2Headroom ≤ inner.start
  start_le : inner.start ≤ inner.stop
  stop_le : inner.stop ≤ PacketStorage.capacity inner.storage

/-- What no operation changes. -/
structure SameMemory (inner next : PacketInner σ) : Prop where
  layout : next.layout = inner.layout
  capacity : PacketStorage.capacity next.storage = PacketStorage.capacity inner.storage
  outside : LawfulPacketStorage.outside next.storage = LawfulPacketStorage.outside inner.storage

theorem SameMemory.refl (inner : PacketInner σ) : inner.SameMemory inner :=
  ⟨rfl, rfl, rfl⟩

theorem SameMemory.trans {first second third : PacketInner σ} (left : first.SameMemory second)
    (right : second.SameMemory third) : first.SameMemory third :=
  ⟨right.layout.trans left.layout, right.capacity.trans left.capacity,
    right.outside.trans left.outside⟩

variable {inner : PacketInner σ}

theorem Within.occupies (within : inner.Within) :
    Occupies (bytes inner.storage) inner.start inner.stop inner.room.values := by
  apply Occupies.of_le within.start_le
  rw [LawfulPacketStorage.length_bytes]
  exact within.stop_le

theorem Within.length_values (within : inner.Within) :
    inner.room.values.length = inner.stop - inner.start := by
  have length := within.occupies.length_eq
  omega

theorem Within.total_eq (within : inner.Within) :
    inner.room.total = PacketStorage.capacity inner.storage - inner.layout.l2Headroom := by
  have ordered := within.l2Headroom_le
  have start := within.start_le
  have stop := within.stop_le
  rw [Room.total, within.length_values]
  simp only [room]
  omega

theorem Within.headroom_eq (within : inner.Within) : inner.headroom = .ok inner.room.before :=
  if_pos within.l2Headroom_le

theorem Within.len_eq (within : inner.Within) : inner.len = .ok inner.room.values.length := by
  rw [within.length_values]
  exact if_pos within.start_le

theorem Within.tailroom_eq (within : inner.Within) : inner.tailroom = .ok inner.room.after :=
  LawfulPacketStorage.tailroom_eq _ _ within.stop_le

theorem Within.asSlice_eq (within : inner.Within) : inner.asSlice = .ok inner.room.values := by
  have inside : inner.start + inner.room.values.length ≤ PacketStorage.capacity inner.storage := by
    rw [within.occupies.length_eq]
    exact within.stop_le
  rw [asSlice, within.len_eq]
  change PacketStorage.read inner.storage inner.start inner.room.values.length = _
  rw [LawfulPacketStorage.read_eq _ _ _ inside, within.length_values]
  rfl

variable {values : List Byte}

/-- A buffer is its byte sequence if the storage holds the values between its bounds. -/
theorem room_eq (occupies : Occupies (bytes inner.storage) inner.start inner.stop values) :
    inner.room = ⟨inner.start - inner.layout.l2Headroom, values,
      PacketStorage.capacity inner.storage - inner.stop⟩ := by
  rw [room, occupies.slice_eq]

theorem within_of_occupies (above : inner.layout.l2Headroom ≤ inner.start)
    (occupies : Occupies (bytes inner.storage) inner.start inner.stop values) : inner.Within := by
  have length := occupies.length_eq
  have inside := occupies.le_length
  rw [LawfulPacketStorage.length_bytes] at inside
  exact ⟨above, by omega, inside⟩

/-! ## One operation -/

/-- An operation with a reply takes a buffer to another one, and its byte sequence
likewise. -/
structure Follows (inner : PacketInner σ) (op : BufferOp) (reply : BufferReply)
    (next : PacketInner σ) : Prop where
  within : next.Within
  same : inner.SameMemory next
  bytes : applyToBytes inner.room op = (reply, next.room)

theorem Within.follows_self (within : inner.Within) {op : BufferOp} {reply : BufferReply}
    (applied : applyToBytes inner.room op = (reply, inner.room)) :
    inner.Follows op reply inner :=
  ⟨within, .refl inner, applied⟩

theorem Within.prepend (within : inner.Within) (added : List Byte) :
    ∃ reply next, inner.prepend added = .ok (reply, next) ∧
      inner.Follows (.prepend added) (reply.mapError .reserve) next ∧
      (reply = .ok () ∨ next = inner) := by
  rw [PacketInner.prepend, within.headroom_eq]
  by_cases fits : added.length ≤ inner.room.before
  · have lower : added.length ≤ inner.start := Nat.le_trans fits (Nat.sub_le _ _)
    have above : inner.layout.l2Headroom ≤ inner.start - added.length := by
      have le := within.l2Headroom_le
      simp only [room] at fits
      omega
    have ordered := within.start_le
    have inside := within.stop_le
    obtain ⟨storage, written, isBytes, isOutside, same⟩ := exists_write inner.storage
      (show inner.start - added.length + added.length ≤ _ by omega)
    have occupies := within.occupies.pushFront lower
    rw [← isBytes] at occupies
    refine ⟨.ok (), { inner with storage := storage, start := inner.start - added.length }, ?_,
      ⟨within_of_occupies above occupies, ⟨rfl, same, isOutside⟩, ?_⟩, .inl rfl⟩
    · change ite _ _ _ = _
      rw [if_neg (Nat.not_lt.mpr fits), written]
      rfl
    · rw [@room_eq _ _ { inner with storage := storage, start := inner.start - added.length } _
        occupies, applyToBytes, Room.pushFront, if_pos fits]
      simp only [replyOr, same, room, Nat.sub_right_comm]
      rfl
  · refine ⟨_, inner, if_pos (Nat.not_le.mp fits), within.follows_self ?_, .inr rfl⟩
    rw [applyToBytes, Room.pushFront, if_neg fits]
    rfl

theorem Within.extendFromSlice (within : inner.Within) (added : List Byte) :
    ∃ reply next, inner.extendFromSlice added = .ok (reply, next) ∧
      inner.Follows (.extendFromSlice added) (reply.mapError .access) next ∧
      (reply = .ok () ∨ next = inner) := by
  rw [PacketInner.extendFromSlice, within.tailroom_eq]
  by_cases fits : added.length ≤ inner.room.after
  · have inside : inner.stop + added.length ≤ PacketStorage.capacity inner.storage := by
      have le := within.stop_le
      simp only [room] at fits
      omega
    obtain ⟨storage, written, isBytes, isOutside, same⟩ := exists_write inner.storage inside
    rw [← LawfulPacketStorage.length_bytes] at inside
    have occupies := within.occupies.pushBack inside
    rw [← isBytes] at occupies
    refine ⟨.ok (), { inner with storage := storage, stop := inner.stop + added.length }, ?_,
      ⟨within_of_occupies within.l2Headroom_le occupies, ⟨rfl, same, isOutside⟩, ?_⟩, .inl rfl⟩
    · change ite _ _ _ = _
      rw [if_neg (Nat.not_lt.mpr fits), written]
      rfl
    · rw [@room_eq _ _ { inner with storage := storage, stop := inner.stop + added.length } _
        occupies, applyToBytes, Room.pushBack, if_pos fits]
      simp only [replyOr, same, room, Nat.sub_sub]
      rfl
  · refine ⟨_, inner, if_pos (Nat.not_le.mp fits), within.follows_self ?_, .inr rfl⟩
    rw [applyToBytes, Room.pushBack, if_neg fits]
    rfl

theorem Within.trimPrefix (within : inner.Within) (len : Nat) :
    ∃ reply next, inner.trimPrefix len = .ok (reply, next) ∧
      inner.Follows (.trimPrefix len) (reply.mapError .access) next ∧
      (reply = .ok () ∨ next = inner) := by
  rw [PacketInner.trimPrefix, within.len_eq]
  by_cases inside : len ≤ inner.room.values.length
  · have occupies := within.occupies.dropFront inside
    have above := Nat.le_add_right_of_le (k := len) within.l2Headroom_le
    refine ⟨.ok (), { inner with start := inner.start + len }, if_neg (Nat.not_lt.mpr inside),
      ⟨within_of_occupies above occupies, ⟨rfl, rfl, rfl⟩, ?_⟩, .inl rfl⟩
    rw [@room_eq _ _ { inner with start := inner.start + len } _ occupies, applyToBytes,
      Room.dropFront, if_pos inside]
    simp only [replyOr, room, Nat.sub_add_comm within.l2Headroom_le]
    rfl
  · refine ⟨_, inner, if_pos (Nat.not_le.mp inside), within.follows_self ?_, .inr rfl⟩
    rw [applyToBytes, Room.dropFront, if_neg inside]
    rfl

theorem Within.trimSuffix (within : inner.Within) (len : Nat) :
    ∃ reply next, inner.trimSuffix len = .ok (reply, next) ∧
      inner.Follows (.trimSuffix len) (reply.mapError .access) next ∧
      (reply = .ok () ∨ next = inner) := by
  rw [PacketInner.trimSuffix, within.len_eq]
  by_cases inside : len ≤ inner.room.values.length
  · have occupies := within.occupies.dropBack inside
    have room : PacketStorage.capacity inner.storage - (inner.stop - len) =
        PacketStorage.capacity inner.storage - inner.stop + len := by
      have le := within.stop_le
      have length := within.length_values
      omega
    refine ⟨.ok (), { inner with stop := inner.stop - len }, if_neg (Nat.not_lt.mpr inside),
      ⟨within_of_occupies within.l2Headroom_le occupies, ⟨rfl, rfl, rfl⟩, ?_⟩, .inl rfl⟩
    rw [@room_eq _ _ { inner with stop := inner.stop - len } _ occupies, applyToBytes,
      Room.dropBack, if_pos inside]
    simp only [replyOr, room, PacketInner.room]
    rfl
  · refine ⟨_, inner, if_pos (Nat.not_le.mp inside), within.follows_self ?_, .inr rfl⟩
    rw [applyToBytes, Room.dropBack, if_neg inside]
    rfl

end PacketInner

end FastSocket.Buffer
