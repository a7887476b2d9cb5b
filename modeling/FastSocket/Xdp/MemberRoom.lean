import FastSocket.Xdp.FrameConservation

/-!
# Room in the free lists of the members

A frame that is sent through another member is completed into a free list of that
member.  The lists have room as long as no member sends more frames of the others
than its lists can take beside its own.
-/

namespace FastSocket.Xdp

open Packet Spsc Transition

namespace XdpSocket

variable {socket : XdpSocket} {added fewer : Multiset Addr}

/-- The free lists have room for the frames of the socket and for some more. -/
def HasRoom (socket : XdpSocket) (added : Multiset Addr) : Prop :=
  ∀ kind, socket.population kind + (added.filter (socket.poolOf · = kind)).card ≤
    (socket.pool kind).capacity

instance (socket : XdpSocket) (added : Multiset Addr) : Decidable (socket.HasRoom added) :=
  decidable_of_iff
    (socket.population .rx + (added.filter (socket.poolOf · = .rx)).card ≤
        (socket.pool .rx).capacity ∧
      socket.population .tx + (added.filter (socket.poolOf · = .tx)).card ≤
        (socket.pool .tx).capacity)
    ⟨fun ⟨rx, tx⟩ kind => match kind with | .rx => rx | .tx => tx, fun all => ⟨all .rx, all .tx⟩⟩

theorem Fits.fitsWith (fits : socket.Fits) (room : socket.HasRoom added) :
    socket.FitsWith added :=
  fun kind => ⟨(fits kind).1, room kind⟩

theorem fitsWith_zero : socket.FitsWith 0 ↔ socket.Fits := by
  constructor
  · exact FitsWith.fits
  · exact fun fits kind => fits kind

theorem FitsWith.mono (fits : socket.FitsWith added) (le : fewer ≤ added) :
    socket.FitsWith fewer := by
  intro kind
  obtain ⟨inBounds, room⟩ := fits kind
  have card_le := Multiset.card_le_card
    (Multiset.filter_le_filter (fun frame => socket.poolOf frame = kind) le)
  exact ⟨inBounds, le_trans (Nat.add_le_add_left card_le _) room⟩

theorem pool_takeBack (socket : XdpSocket) (buffer : HeldFrame) (kind : PoolKind) :
    (socket.takeBack buffer).pool kind = socket.pool kind := by
  cases kind <;> rfl

/-- A buffer that comes back takes the room that was kept for it. -/
theorem fitsWith_takeBack {buffer : HeldFrame} (belongs : socket.poolOf buffer.frame = buffer.pool)
    (fits : socket.FitsWith ({buffer.frame} + added)) :
    (socket.takeBack buffer).FitsWith added := by
  intro kind
  obtain ⟨inBounds, room⟩ := fits kind
  have population_eq : (socket.takeBack buffer).population kind =
      socket.population kind + (Multiset.filter (socket.poolOf · = kind) {buffer.frame}).card := by
    rw [population, takeBack, sideFrames_withHeld, ← Multiset.coe_add, framesOf_add, ← add_assoc,
      ← sideFrames_eq, Multiset.coe_singleton, framesOf_singleton, Multiset.filter_singleton,
      belongs, Multiset.card_add, population, Nat.add_right_comm]
    split <;> rfl
  rw [Multiset.filter_add, Multiset.card_add, ← Nat.add_assoc, ← population_eq] at room
  rw [pool_takeBack]
  exact ⟨inBounds, room⟩

end XdpSocket

/-! ## Room that is kept for lent buffers -/

/-- Every member has room for its frames and for those that are kept for it. -/
def Roomy (kept : Nat → Multiset Addr) (members : Members) : Prop :=
  ∀ (index : Nat) (socket : XdpSocket), members[index]? = some socket →
    socket.FitsWith (kept index)

/-- The frames of the buffers of one member. -/
def framesFrom (list : List OwnedFrame) (member : Nat) : Multiset Addr :=
  ownedFrames (list.filter (·.member = member))

/-- The frames of the buffers of the other members. -/
def foreignFrames (list : List OwnedFrame) (member : Nat) : Multiset Addr :=
  ownedFrames (list.filter (·.member ≠ member))

theorem framesFrom_cons (owned : OwnedFrame) (rest : List OwnedFrame) (member : Nat) :
    framesFrom (owned :: rest) member =
      (if owned.member = member then {owned.buffer.frame} else 0) + framesFrom rest member := by
  rw [framesFrom, List.filter_cons]
  by_cases same : owned.member = member
  · rw [if_pos same, if_pos (decide_eq_true same), ownedFrames_cons, framesFrom]
  · rw [if_neg same, if_neg (by simpa using same), zero_add, framesFrom]

theorem framesFrom_add_foreignFrames (list : List OwnedFrame) (member : Nat) :
    framesFrom list member + foreignFrames list member = ownedFrames list := by
  have split := Multiset.filter_add_not (fun owned : OwnedFrame => owned.member = member) ↑list
  have mapped := congrArg (Multiset.map fun owned => owned.buffer.frame) split
  rw [Multiset.map_add, Multiset.filter_coe, Multiset.filter_coe] at mapped
  simpa [framesFrom, foreignFrames, ownedFrames] using mapped

theorem framesFrom_le (list : List OwnedFrame) (member : Nat) :
    framesFrom list member ≤ ownedFrames list := by
  rw [← framesFrom_add_foreignFrames list member]
  exact Multiset.le_add_right _ _

variable {list : List OwnedFrame} {index : Nat} {target : XdpSocket}

theorem framesFrom_mono {sub : List OwnedFrame} (sublist : sub.Sublist list) (member : Nat) :
    framesFrom sub member ≤ framesFrom list member :=
  Multiset.coe_le.mpr ((sublist.filter _).map _).subperm

namespace Roomy

variable {kept before after : Nat → Multiset Addr} {members next : Members} {layout : FrameLayout}
  {loose : Multiset Addr}

theorem set (roomy : Roomy before members) (fits : target.FitsWith (after index))
    (others : ∀ other, other ≠ index →
      after other ≤ before other) : Roomy after (members.set index target) := by
  intro other socket found
  by_cases same : other = index
  · subst same
    rw [List.getElem?_set_self'] at found
    obtain ⟨_, _, rfl⟩ := Option.map_eq_some_iff.mp found
    exact fits
  · rw [List.getElem?_set_ne (Ne.symm same)] at found
    exact (roomy other socket found).mono (others other same)

theorem mono (roomy : Roomy before members) (le : ∀ index, after index ≤ before index) :
    Roomy after members :=
  fun index socket found => (roomy index socket found).mono (le index)

/-- The room of lent buffers is kept for them. -/
theorem borrow (roomy : Roomy kept members) (distributed : Distributed layout loose members)
    (borrowed : Members.borrow list members = some next) :
    Roomy (fun index => framesFrom list index + kept index) next := by
  induction list generalizing loose members kept with
  | nil =>
    cases borrowed
    exact roomy.mono fun index => (zero_add (kept index)).le
  | cons owned rest ih =>
    simp only [Members.borrow, Option.bind_eq_bind, Option.bind_eq_some_iff] at borrowed
    obtain ⟨middle, lent, borrowed⟩ := borrowed
    obtain ⟨middleDistributed, _, _⟩ := distributed.lend lent
    obtain ⟨socket, found, isHeld, rfl⟩ := Members.withHeld_eq_some lent
    have releases := XdpSocket.releases_lend
      (distributed.sound socket (List.mem_of_getElem? found)) isHeld
    have step : Roomy (fun index =>
        (if owned.member = index then {owned.buffer.frame} else 0) + kept index)
        (members.set owned.member (socket.lend owned.buffer)) := by
      apply roomy.set
      · rw [if_pos rfl]
        exact releases.fitsWith (roomy owned.member socket found)
      · intro other different
        rw [if_neg (Ne.symm different), zero_add]
    refine (ih step middleDistributed borrowed).mono fun index => ?_
    rw [framesFrom_cons, add_assoc, add_left_comm]

theorem giveBack (roomy : Roomy (framesFrom list) members)
    (distributed : Distributed layout (loose + ownedFrames list) members)
    (belong : ∀ owned ∈ list, owned.Belongs layout members) :
    Roomy (fun _ => 0) (Members.giveBack list members) := by
  induction list generalizing members with
  | nil => exact roomy
  | cons owned rest ih =>
    obtain ⟨belongs, restBelong⟩ := List.forall_mem_cons.mp belong
    rw [ownedFrames_cons, add_left_comm, add_comm] at distributed
    obtain ⟨socket, found, samePool, modified, step⟩ := distributed.takeBack belongs
    rw [Members.giveBack, modified]
    refine ih (roomy.set ?_ ?_) step fun other member => (restBelong other member).set _ _
    · apply XdpSocket.fitsWith_takeBack samePool
      have fits := roomy owned.member socket found
      rwa [framesFrom_cons, if_pos rfl] at fits
    · intro other different
      rw [framesFrom_cons, if_neg (Ne.symm different), zero_add]

end Roomy

/-! ## Steps and runs -/

section Steps

variable {members next : Members} {layout : FrameLayout}

theorem Roomy.evolve {kept : Nat → Multiset Addr} (roomy : Roomy kept members) {socket : XdpSocket}
    (found : members[index]? = some socket) (sound : socket.Sound)
    (evolves : Evolves socket target) : Roomy kept (members.set index target) :=
  roomy.set ((roomy index socket found).evolve sound evolves) fun _ _ => le_refl _

/-- A send whose member has room for the frames of the others that are in the batch. -/
theorem Roomy.send {κ α : Type} {packet : α → XdpPacketBuf} {batch : List (TxSlot α)}
    {program : StateM XdpSocket (Option (SendOutcome κ α))} {member : Nat} {turns : List Turn}
    (roomy : Roomy (fun _ => 0) members) (distributed : Distributed layout 0 members)
    (room : ∀ socket ∈ members[member]?,
      socket.HasRoom (foreignFrames (slotFrames packet batch) member))
    (guarantee : SubmitsPrefix packet batch program)
    (sent : members.send member turns packet batch program = some next) :
    Roomy (fun _ => 0) next := by
  obtain ⟨lent, socket, target, count, borrowed, found, sound, inUse, submits, left, belong, rfl⟩ :=
    Members.send_spec guarantee distributed sent
  have reserved : Roomy (fun index =>
      if index = member then foreignFrames (slotFrames packet batch) member else 0) members := by
    intro index owner isOwner
    dsimp only
    split
    case isTrue same =>
      subst same
      exact (roomy index owner isOwner).fits.fitsWith (room owner isOwner)
    case isFalse => exact roomy index owner isOwner
  have lentRoomy := reserved.borrow distributed borrowed
  have targetFits : target.FitsWith (ownedFrames (slotFrames packet (batch.drop count))) := by
    have fits := lentRoomy member socket found
    dsimp only at fits
    rw [if_pos rfl, framesFrom_add_foreignFrames, ownedFrames_slotFrames packet batch count] at fits
    exact (submits sound inUse).2.2.2.2 _ fits
  refine Roomy.giveBack (lentRoomy.set (targetFits.mono (framesFrom_le _ _)) ?_) left belong
  intro other _
  exact le_trans (framesFrom_mono ((List.drop_sublist count batch).filterMap _) other)
    (Multiset.le_add_right _ _)

/-- A send has room for the frames of other members that it submits. -/
def MemberAction.HasRoom (members : Members) (action : MemberAction) : Prop :=
  ∀ submission ∈ action.submission?, ∀ socket ∈ members[submission.1]?,
    socket.HasRoom (foreignFrames submission.2 submission.1)

instance (members : Members) (action : MemberAction) : Decidable (action.HasRoom members) :=
  inferInstanceAs (Decidable (∀ submission ∈ action.submission?,
    ∀ socket ∈ members[submission.1]?,
      socket.HasRoom (foreignFrames submission.2 submission.1)))

theorem Roomy.step {action : MemberAction} (roomy : Roomy (fun _ => 0) members)
    (distributed : Distributed layout 0 members) (room : action.HasRoom members)
    (moves : members.Moves action next) : Roomy (fun _ => 0) next := by
  cases moves with
  | evolves found evolves =>
    exact roomy.evolve found (distributed.sound _ (List.mem_of_getElem? found)) evolves
  | sends guarantee submission sent =>
    exact roomy.send distributed (room _ submission) guarantee sent

end Steps

/-- Completions of an aggregate are written inside the free lists in every run in which
each send has room for the frames of other members that it submits. -/
theorem shared_reclaim_inBounds {config : XdpSocketConfig} {queues : List QueueId}
    {opened members : Members} {actions : List MemberAction}
    (opening : config.openSharedMembers queues = some opened)
    (reached : run Members.step opened actions = some members)
    (room : StepsMeet Members.step (fun members action => action.HasRoom members) opened actions) :
    ∀ socket ∈ members, ∀ kind, (socket.pool kind).inBounds = true := by
  obtain ⟨opens, layout, _, distributed, new⟩ := XdpSocketConfig.openSharedMembers_spec opening
  have openedRoomy : Roomy (fun _ => 0) opened := by
    intro index socket found
    obtain ⟨_, _, _, rfl⟩ := new socket (List.mem_of_getElem? found)
    exact XdpSocket.fitsWith_zero.mpr (XdpSocketConfig.fits_newMember opens)
  have preserved : ∀ (source : Members) (action : MemberAction) (target : Members),
      Distributed layout 0 source ∧ Roomy (fun _ => 0) source → action.HasRoom source →
        source.step action = some target →
          Distributed layout 0 target ∧ Roomy (fun _ => 0) target := by
    rintro source action target ⟨sourceDistributed, sourceRoomy⟩ hasRoom taken
    have moves := Members.moves_step taken
    exact ⟨sourceDistributed.move moves, sourceRoomy.step sourceDistributed hasRoom moves⟩
  obtain ⟨_, roomy⟩ := run_invariant preserved ⟨distributed, openedRoomy⟩ reached room
  intro socket isMember kind
  obtain ⟨index, found⟩ := List.mem_iff_getElem?.mp isMember
  exact (roomy index socket found kind).1

/-- A member sends its own packet. -/
def ownSends : List MemberAction :=
  receiveOne 1 128 ++
    [.sendUdp 1 sampleUdpConfig [.ready (sampleTransmit (receivedBuffer 1 128))] [],
      .environment 1 (.takeTx 1), .environment 1 (.complete 0), .drainTxCompletions 1 []]

theorem shared_reclaim_inBounds_own :
    ∃ opened members, smallConfig.openSharedMembers [0, 1] = some opened ∧
      run Members.step opened ownSends = some members ∧
      ∀ socket ∈ members, ∀ kind, (socket.pool kind).inBounds = true := by
  have finishes : ((smallConfig.openSharedMembers [0, 1]).bind fun opened =>
      run Members.step opened ownSends).isSome = true := by decide +kernel
  have meets : ∀ opened ∈ smallConfig.openSharedMembers [0, 1],
      StepsMeet Members.step (fun members action => action.HasRoom members) opened ownSends := by
    decide +kernel
  obtain ⟨members, finished⟩ := Option.isSome_iff_exists.mp finishes
  obtain ⟨opened, opening, reached⟩ := Option.bind_eq_some_iff.mp finished
  exact ⟨opened, members, opening, reached,
    shared_reclaim_inBounds opening reached (meets opened opening)⟩

/-- Two received frames that are sent through one member do not fit in its free list
for reception, which has room for one. -/
theorem crossedSends_outOfBounds :
    ∃ opened members, smallConfig.openSharedMembers [0, 1] = some opened ∧
      run Members.step opened crossedSends = some members ∧
      ∃ socket ∈ members, (socket.pool .rx).inBounds = false := by
  have finishes : ((smallConfig.openSharedMembers [0, 1]).bind fun opened =>
      run Members.step opened crossedSends).isSome = true := by decide +kernel
  have writes : ∀ members ∈ (smallConfig.openSharedMembers [0, 1]).bind fun opened =>
      run Members.step opened crossedSends,
      ∃ socket ∈ members, (socket.pool .rx).inBounds = false := by decide +kernel
  obtain ⟨members, finished⟩ := Option.isSome_iff_exists.mp finishes
  obtain ⟨opened, opening, reached⟩ := Option.bind_eq_some_iff.mp finished
  exact ⟨opened, members, opening, reached, writes members finished⟩

end FastSocket.Xdp
