import FastSocket.Xdp.Members

/-!
# The frames of the members

At every point each frame in use is in one place of one member, or in the batch of
the send that runs.
-/

namespace FastSocket.Xdp

open Packet Spsc Transition

variable {κ α ν : Type}

/-! ## Buffers that leave and come back -/

namespace XdpSocket

variable (socket : XdpSocket)

/-- The frames on the side of a pool that are not in application buffers. -/
def unheldFrames : PoolKind → Multiset Addr
  | .rx => ↑socket.fill.entries + ↑socket.kernelRx +
      ↑(socket.rx.entries.map fun desc => socket.umem.frameOf desc.addr) +
      socket.rxReclaim.frames
  | .tx => socket.txReclaim.frames

theorem sideFrames_withHeld (held : List HeldFrame) (kind : PoolKind) :
    { socket with held := held }.sideFrames kind =
      socket.unheldFrames kind + framesOf kind ↑held := by
  cases kind <;> rfl

theorem sideFrames_eq (kind : PoolKind) :
    socket.sideFrames kind = socket.unheldFrames kind + framesOf kind ↑socket.held :=
  socket.sideFrames_withHeld socket.held kind

variable {socket} {buffer : HeldFrame}

theorem coe_held_erase (isHeld : buffer ∈ socket.held) :
    (↑socket.held : Multiset HeldFrame) = ↑(socket.held.erase buffer) + {buffer} := by
  rw [add_comm, Multiset.singleton_add, ← Multiset.coe_erase, Multiset.cons_erase]
  exact Multiset.mem_coe.mpr isHeld

/-- An application buffer is of the pool that its frame belongs to. -/
theorem Sound.poolOf_held (sound : socket.Sound) (isHeld : buffer ∈ socket.held) :
    socket.poolOf buffer.frame = buffer.pool := by
  apply (sound.side buffer.pool buffer.frame _).2
  rw [sideFrames_eq, coe_held_erase isHeld, framesOf_add, framesOf_singleton, if_pos rfl]
  simp

theorem shuffles_dropBuffer (isHeld : buffer ∈ socket.held) :
    Shuffles socket (socket.dropBuffer buffer) :=
  shuffles_drop (coe_held_erase isHeld) (FrameReclaim.frames_push _ _)
    (FrameReclaim.grows_push _ _)

theorem releases_lend (sound : socket.Sound) (isHeld : buffer ∈ socket.held) :
    Releases {buffer.frame} socket (socket.lend buffer) where
  umem := rfl
  completionReclaim := rfl
  inFlight := rfl
  side kind := by
    rw [lend, sideFrames_withHeld, sideFrames_eq, coe_held_erase isHeld, framesOf_add,
      Multiset.filter_singleton, sound.poolOf_held isHeld, framesOf_singleton, add_assoc]
    rfl
  pools _ := .refl _
  balanced := id

theorem sound_takeBack (sound : socket.Sound) (inUse : socket.InUse buffer.frame)
    (belongs : socket.poolOf buffer.frame = buffer.pool) : (socket.takeBack buffer).Sound := by
  refine ⟨sound.balanced, ?_, sound.inFlight⟩
  intro kind frame member
  rw [takeBack, sideFrames_withHeld, ← Multiset.coe_add, framesOf_add, ← add_assoc,
    ← sideFrames_eq, Multiset.mem_add, Multiset.coe_singleton, framesOf_singleton] at member
  rcases member with old | new
  · exact sound.side kind frame old
  · split at new
    case isTrue same =>
      cases Multiset.mem_singleton.mp new
      exact ⟨inUse, belongs.trans same⟩
    case isFalse => cases Multiset.notMem_zero _ new

theorem allFrames_takeBack :
    (socket.takeBack buffer).allFrames = socket.allFrames + {buffer.frame} := by
  have side : ∀ kind, (socket.takeBack buffer).sideFrames kind =
      socket.sideFrames kind + framesOf kind {buffer} := by
    intro kind
    rw [takeBack, sideFrames_withHeld, ← Multiset.coe_add, framesOf_add, ← add_assoc,
      ← sideFrames_eq, Multiset.coe_singleton]
  have both := framesOf_add_framesOf {buffer}
  rw [Multiset.map_singleton] at both
  rw [allFrames, side, side, ← both, allFrames]
  change _ + socket.inFlightFrames = _
  abel

end XdpSocket

/-! ## The invariant -/

/-- Every member is sound, and the frames in use are those of the members and the
`loose` ones in a running send. -/
structure Distributed (layout : FrameLayout) (loose : Multiset Addr) (members : Members) :
    Prop where
  umem : ∀ socket ∈ members, socket.umem = layout.umem
  reclaim : ∀ socket ∈ members, socket.completionReclaim = layout.reclaim
  sound : ∀ socket ∈ members, socket.Sound
  frames : total XdpSocket.allFrames members + loose = ↑layout.frames

namespace Distributed

variable {layout : FrameLayout} {loose before after : Multiset Addr} {members next : Members}
  {index : Nat} {socket target : XdpSocket}

/-- One member changes, and frames move between it and the running send. -/
theorem replace (distributed : Distributed layout before members)
    (found : members[index]? = some socket) (umem : target.umem = socket.umem)
    (reclaim : target.completionReclaim = socket.completionReclaim) (sound : target.Sound)
    (moved : target.allFrames + after = socket.allFrames + before) :
    Distributed layout after (members.set index target) := by
  have isMember := List.mem_of_getElem? found
  obtain ⟨others, totalBefore, totalAfter⟩ := total_set XdpSocket.allFrames found
  refine ⟨?_, ?_, ?_, ?_⟩
  · exact forall_set distributed.umem (umem.trans (distributed.umem socket isMember)) index
  · exact forall_set distributed.reclaim
      (reclaim.trans (distributed.reclaim socket isMember)) index
  · exact forall_set distributed.sound sound index
  · calc total XdpSocket.allFrames (members.set index target) + after
        = target.allFrames + after + others := by rw [totalAfter]; abel
      _ = socket.allFrames + before + others := by rw [moved]
      _ = ↑layout.frames := by rw [← distributed.frames, totalBefore]; abel

theorem evolve (distributed : Distributed layout loose members)
    (found : members[index]? = some socket) (evolves : Evolves socket target) :
    Distributed layout loose (members.set index target) := by
  obtain ⟨sound, completes, _⟩ := evolves (distributed.sound socket (List.mem_of_getElem? found))
  exact distributed.replace found completes.umem completes.completionReclaim sound
    (by rw [completes.allFrames])

/-- Completions accept the frames of a running send. -/
theorem inUse (distributed : Distributed layout loose members) (isMember : socket ∈ members)
    {frame : Addr} (isLoose : frame ∈ loose) : socket.InUse frame := by
  rw [XdpSocket.InUse, distributed.umem socket isMember, distributed.reclaim socket isMember]
  apply layout.inUse_of_mem
  rw [← Multiset.mem_coe, ← distributed.frames]
  exact Multiset.mem_add.mpr (.inr isLoose)

theorem poolOf (distributed : Distributed layout loose members) (isMember : socket ∈ members) :
    socket.poolOf = layout.reclaim.poolOf := by
  funext frame
  rw [XdpSocket.poolOf, distributed.reclaim socket isMember]

end Distributed

variable {members : Members} {owned : OwnedFrame}

theorem Members.withHeld_eq_some {next : Members} {member : Nat} {buffer : HeldFrame}
    {change : XdpSocket → HeldFrame → XdpSocket}
    (changed : members.withHeld member buffer change = some next) :
    ∃ socket, members[member]? = some socket ∧ buffer ∈ socket.held ∧
      next = members.set member (change socket buffer) := by
  simp only [Members.withHeld, Option.bind_eq_bind, Option.bind_eq_some_iff] at changed
  obtain ⟨socket, found, changed⟩ := changed
  obtain ⟨isHeld, ⟨⟩⟩ := Option.ite_none_right_eq_some.mp changed
  exact ⟨socket, found, isHeld, rfl⟩

/-- A buffer of a member whose frame belongs to its pool. -/
def OwnedFrame.Belongs (owned : OwnedFrame) (layout : FrameLayout) (members : Members) : Prop :=
  owned.member < members.length ∧ layout.reclaim.poolOf owned.buffer.frame = owned.buffer.pool

theorem OwnedFrame.Belongs.set {layout : FrameLayout} (belongs : owned.Belongs layout members)
    (index : Nat) (target : XdpSocket) : owned.Belongs layout (members.set index target) := by
  obtain ⟨inside, ofPool⟩ := belongs
  exact ⟨by rwa [List.length_set], ofPool⟩

/-- The frames of buffers. -/
def ownedFrames (list : List OwnedFrame) : Multiset Addr :=
  ↑(list.map fun owned => owned.buffer.frame)

theorem ownedFrames_cons (owned : OwnedFrame) (rest : List OwnedFrame) :
    ownedFrames (owned :: rest) = {owned.buffer.frame} + ownedFrames rest :=
  rfl

theorem ownedFrames_append (first second : List OwnedFrame) :
    ownedFrames (first ++ second) = ownedFrames first + ownedFrames second := by
  rw [ownedFrames, List.map_append, ← Multiset.coe_add, ownedFrames, ownedFrames]

namespace Distributed

variable {layout : FrameLayout} {loose : Multiset Addr} {next : Members}

/-- A buffer leaves its member for the running send. -/
theorem lend (distributed : Distributed layout loose members)
    (lent : members.withHeld owned.member owned.buffer XdpSocket.lend = some next) :
    Distributed layout (loose + {owned.buffer.frame}) next ∧ next.length = members.length ∧
      owned.Belongs layout members := by
  obtain ⟨socket, found, isHeld, rfl⟩ := Members.withHeld_eq_some lent
  have isMember := List.mem_of_getElem? found
  have sound := distributed.sound socket isMember
  have releases := XdpSocket.releases_lend sound isHeld
  refine ⟨?_, List.length_set, (List.getElem?_eq_some_iff.mp found).1, ?_⟩
  · apply distributed.replace found releases.umem releases.completionReclaim (releases.sound sound)
    rw [releases.allFrames]
    abel
  · rw [← distributed.poolOf isMember]
    exact sound.poolOf_held isHeld

variable {list : List OwnedFrame}

/-- Borrowed buffers are of the pools that their frames belong to. -/
theorem borrow (distributed : Distributed layout loose members)
    (borrowed : Members.borrow list members = some next) :
    Distributed layout (loose + ownedFrames list) next ∧ next.length = members.length ∧
      ∀ owned ∈ list, owned.Belongs layout members := by
  induction list generalizing loose members with
  | nil =>
    cases borrowed
    refine ⟨?_, rfl, List.forall_mem_nil _⟩
    rwa [ownedFrames, List.map_nil, Multiset.coe_nil, add_zero]
  | cons owned rest ih =>
    simp only [Members.borrow, Option.bind_eq_bind, Option.bind_eq_some_iff] at borrowed
    obtain ⟨middle, lent, borrowed⟩ := borrowed
    obtain ⟨step, stepLength, belongs⟩ := distributed.lend lent
    obtain ⟨final, length, restBelong⟩ := ih step borrowed
    refine ⟨?_, length.trans stepLength, List.forall_mem_cons.mpr ⟨belongs, ?_⟩⟩
    · rwa [ownedFrames_cons, ← add_assoc]
    · intro other member
      obtain ⟨inside, otherBelongs⟩ := restBelong other member
      exact ⟨stepLength ▸ inside, otherBelongs⟩

/-- A buffer of the running send comes back to its member. -/
theorem takeBack (distributed : Distributed layout (loose + {owned.buffer.frame}) members)
    (belongs : owned.Belongs layout members) :
    ∃ socket, members[owned.member]? = some socket ∧
      socket.poolOf owned.buffer.frame = owned.buffer.pool ∧
      members.modify owned.member (XdpSocket.takeBack · owned.buffer) =
        members.set owned.member (socket.takeBack owned.buffer) ∧
      Distributed layout loose (members.set owned.member (socket.takeBack owned.buffer)) := by
  obtain ⟨inside, ofPool⟩ := belongs
  have found : members[owned.member]? = some members[owned.member] :=
    List.getElem?_eq_getElem inside
  have isMember := List.mem_of_getElem? found
  have samePool : members[owned.member].poolOf owned.buffer.frame = owned.buffer.pool := by
    rw [distributed.poolOf isMember, ofPool]
  refine ⟨_, found, samePool, ?_, ?_⟩
  · rw [List.modify_eq_set_getElem?, found]
    rfl
  · refine distributed.replace found rfl rfl (?_ : (XdpSocket.takeBack _ _).Sound) ?_
    · exact XdpSocket.sound_takeBack (distributed.sound _ isMember)
        (distributed.inUse isMember (by simp)) samePool
    · rw [XdpSocket.allFrames_takeBack]
      abel

theorem giveBack (distributed : Distributed layout (loose + ownedFrames list) members)
    (belong : ∀ owned ∈ list, owned.Belongs layout members) :
    Distributed layout loose (Members.giveBack list members) := by
  induction list generalizing members with
  | nil => rwa [ownedFrames, List.map_nil, Multiset.coe_nil, add_zero] at distributed
  | cons owned rest ih =>
    obtain ⟨belongs, restBelong⟩ := List.forall_mem_cons.mp belong
    rw [ownedFrames_cons, add_left_comm, add_comm] at distributed
    obtain ⟨socket, _, _, modified, step⟩ := distributed.takeBack belongs
    rw [Members.giveBack, modified]
    exact ih step fun other member => (restBelong other member).set _ _

end Distributed

end FastSocket.Xdp
