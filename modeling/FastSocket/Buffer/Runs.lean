import FastSocket.Buffer.Refinement

/-!
# Runs of packet buffer operations

Operations follow each other, with the buffer frozen and made mutable again in between.
What one operation keeps, a run keeps: the bounds of the packet, the memory around the
storage, and the byte sequence.
-/

namespace FastSocket.Buffer

open Packet Window

namespace PacketHandle

variable {σ : Type} [LawfulPacketStorage σ] {handle : PacketHandle σ} {ε : Type}
  {result : Except BufferFault (Except ε Unit × PacketInner σ)} {op : BufferOp}

theorem follows_mutable {inner : PacketInner σ} {error : ε → BufferError}
    (done : ∃ reply next, result = .ok (reply, next) ∧
      inner.Follows op (reply.mapError error) next ∧ (reply = .ok () ∨ next = inner)) :
    ∃ reply next, result.map (Prod.map (·.mapError error) mutable) = .ok (reply, next) ∧
      inner.Follows op reply next.inner ∧ (reply = .ok () ∨ next = mutable inner) := by
  obtain ⟨reply, next, rfl, follows, unchanged⟩ := done
  refine ⟨_, _, rfl, follows, ?_⟩
  rcases unchanged with rfl | rfl
  · exact .inl rfl
  · exact .inr rfl

theorem succeeds_iff {inner : PacketInner σ} {wrap : ε → BufferError} {changed : Option (Room Byte)}
    {error : BufferError} (done : ∃ reply next, result = .ok (reply, next) ∧
      inner.Follows op (reply.mapError wrap) next ∧ (reply = .ok () ∨ next = inner))
    (isOp : applyToBytes inner.room op = replyOr inner.room changed error) :
    (∃ next, result = .ok (.ok (), next)) ↔ changed.isSome := by
  obtain ⟨reply, next, rfl, follows, _⟩ := done
  have replies := congrArg Prod.fst (isOp.symm.trans follows.bytes)
  cases changed with
  | none =>
    refine iff_of_false ?_ nofun
    rintro ⟨_, ⟨⟩⟩
    cases replies
  | some changed =>
    refine iff_of_true ⟨next, ?_⟩ rfl
    cases reply with
    | error => cases replies
    | ok => rfl

/-- No operation is a fault, each follows the byte sequence, and a refused one changes
nothing. -/
theorem apply_follows (within : handle.inner.Within)
    {outcome : Except BufferFault (BufferReply × PacketHandle σ)}
    (applied : handle.apply op = some outcome) :
    ∃ reply next, outcome = .ok (reply, next) ∧ handle.inner.Follows op reply next.inner ∧
      (reply = .ok () ∨ next = handle) := by
  cases handle with
  | mutable inner =>
    cases op with
    | prepend bytes =>
      cases applied
      exact follows_mutable (PacketInner.Within.prepend within bytes)
    | extendFromSlice bytes =>
      cases applied
      exact follows_mutable (PacketInner.Within.extendFromSlice within bytes)
    | trimPrefix len =>
      cases applied
      exact follows_mutable (PacketInner.Within.trimPrefix within len)
    | trimSuffix len =>
      cases applied
      exact follows_mutable (PacketInner.Within.trimSuffix within len)
    | freeze =>
      cases applied
      exact ⟨.ok (), frozen inner, rfl, within.follows_self rfl, .inl rfl⟩
    | intoMut => cases applied
  | frozen inner =>
    cases op with
    | intoMut =>
      cases applied
      exact ⟨.ok (), mutable inner, rfl, within.follows_self rfl, .inl rfl⟩
    | _ => cases applied

/-- Whatever operations are applied, none is a fault, and the replies and the buffer that
is left are those of the byte sequence. -/
theorem run_follows {ops : List BufferOp}
    {outcome : Except BufferFault (List BufferReply × PacketHandle σ)}
    (within : handle.inner.Within) (applied : handle.run ops = some outcome) :
    ∃ last, outcome = .ok ((runOnBytes handle.inner.room ops).1, last) ∧
      last.inner.Within ∧ handle.inner.SameMemory last.inner ∧
      last.inner.room = (runOnBytes handle.inner.room ops).2 := by
  induction ops generalizing handle outcome with
  | nil =>
    cases applied
    exact ⟨handle, rfl, within, .refl _, rfl⟩
  | cons op rest ih =>
    obtain ⟨result, isResult, applied⟩ := Option.bind_eq_some_iff.mp applied
    obtain ⟨reply, next, rfl, follows, _⟩ := apply_follows within isResult
    obtain ⟨others, isOthers, applied⟩ := Option.bind_eq_some_iff.mp applied
    cases applied
    obtain ⟨last, rfl, lastWithin, same, isRoom⟩ := ih follows.within isOthers
    rw [runOnBytes, follows.bytes]
    exact ⟨last, rfl, lastWithin, follows.same.trans same, isRoom⟩

/-- What the owner of a buffer can rely on. -/
structure Sound (handle : PacketHandle σ) : Prop where
  within : handle.inner.Within
  headroom : handle.inner.headroom = .ok handle.inner.room.before
  len : handle.inner.len = .ok handle.inner.room.values.length
  tailroom : handle.inner.tailroom = .ok handle.inner.room.after
  asSlice : handle.inner.asSlice = .ok handle.inner.room.values
  total : handle.inner.room.before + handle.inner.room.values.length + handle.inner.room.after =
    PacketStorage.capacity handle.inner.storage - handle.inner.layout.l2Headroom
  prepend_iff : ∀ bytes, (∃ next, handle.inner.prepend bytes = .ok (.ok (), next)) ↔
    bytes.length ≤ handle.inner.room.before
  extend_iff : ∀ bytes, (∃ next, handle.inner.extendFromSlice bytes = .ok (.ok (), next)) ↔
    bytes.length ≤ handle.inner.room.after
  noFault : ∀ op fault, handle.apply op ≠ some (.error fault)
  refused : ∀ op error next, handle.apply op = some (.ok (.error error, next)) → next = handle

theorem sound_of_within (within : handle.inner.Within) : handle.Sound where
  within := within
  headroom := within.headroom_eq
  len := within.len_eq
  tailroom := within.tailroom_eq
  asSlice := within.asSlice_eq
  total := within.total_eq
  prepend_iff bytes := by
    rw [succeeds_iff (within.prepend bytes) rfl, Room.pushFront, Option.isSome_ite]
  extend_iff bytes := by
    rw [succeeds_iff (within.extendFromSlice bytes) rfl, Room.pushBack, Option.isSome_ite]
  noFault op fault applied := by
    obtain ⟨_, _, isOk, _⟩ := apply_follows within applied
    cases isOk
  refused op error next applied := by
    obtain ⟨_, _, ⟨⟩, _, unchanged⟩ := apply_follows within applied
    exact unchanged.resolve_left (by rintro ⟨⟩)

end PacketHandle

/-- Whatever operations are applied to a buffer, their replies and the bytes that are left
are those of its byte sequence, the memory around it stays, and the buffer stays sound. -/
def PacketInner.RefinesBytes {σ : Type} [LawfulPacketStorage σ] (inner : PacketInner σ) : Prop :=
  ∀ ops outcome, (PacketHandle.mutable inner).run ops = some outcome →
    ∃ last, outcome = .ok ((runOnBytes inner.room ops).1, last) ∧
      last.inner.room = (runOnBytes inner.room ops).2 ∧ inner.SameMemory last.inner ∧ last.Sound

theorem PacketInner.Within.refinesBytes {σ : Type} [LawfulPacketStorage σ] {inner : PacketInner σ}
    (within : inner.Within) : inner.RefinesBytes := by
  intro ops outcome applied
  obtain ⟨last, isLast, lastWithin, same, isRoom⟩ :=
    @PacketHandle.run_follows _ _ (.mutable inner) _ _ within applied
  exact ⟨last, isLast, isRoom, same, PacketHandle.sound_of_within lastWithin⟩

end FastSocket.Buffer
