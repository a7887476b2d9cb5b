import FastSocket.Transition.Parties
import FastSocket.Transition.Run
import FastSocket.Xdp.RouteMonitor

/-!
# Fan-out of route snapshots

Every queue owner that asks gets the snapshot in the slot once, whatever the order in
which publishers store: two publications have the same generation only if they are the
same.
-/

namespace FastSocket.Xdp

open Transition

/-- What the monitor and an owner agree on: the owner has seen the generation of the
publication that it holds. -/
structure QueueOwner.Agrees (owner : QueueOwner) (published : List Publication) : Prop where
  short : owner.routes.pending.length + 1 < 2 ^ 64
  unseen : owner.adopted = none → owner.handle.lastSeenGeneration = 0
  seen : ∀ publication ∈ owner.adopted, publication ∈ published ∧
    owner.handle.lastSeenGeneration = publication.versioned.generation ∧
    owner.routes.snapshot = publication.versioned.snapshot

/-- Publications carry the generations in the order in which these were taken. -/
structure Fanout.Consistent (fanout : Fanout) : Prop where
  counts : fanout.nextGeneration = fanout.published.length % 2 ^ 64
  numbered : ∀ index publication, fanout.published[index]? = some publication →
    publication.number = index ∧ publication.versioned.generation = (index + 1) % 2 ^ 64
  shared : ∀ publication ∈ fanout.shared, publication ∈ fanout.published
  storing : ∀ publication ∈ fanout.storing, publication ∈ fanout.published
  owners : ∀ owner ∈ fanout.owners, owner.Agrees fanout.published

variable {fanout target : Fanout} {owner : QueueOwner} {publication : Publication}

theorem QueueOwner.Agrees.mono {published more : List Publication}
    (agrees : owner.Agrees published) (included : published ⊆ more) : owner.Agrees more :=
  ⟨agrees.short, agrees.unseen, fun publication adopted =>
    (agrees.seen publication adopted).imp_left fun member => included member⟩

namespace Fanout.Consistent

theorem fetchGeneration (consistent : fanout.Consistent) (snapshot : RouteSnapshot) :
    (fanout.fetchGeneration snapshot).Consistent := by
  have included : fanout.published ⊆ (fanout.fetchGeneration snapshot).published :=
    List.subset_append_left _ _
  have next : (fanout.nextGeneration + 1) % 2 ^ 64 = (fanout.published.length + 1) % 2 ^ 64 := by
    rw [consistent.counts, Nat.mod_add_mod]
  constructor
  · change (fanout.nextGeneration + 1) % 2 ^ 64 = (fanout.published ++ [_]).length % 2 ^ 64
    rw [next, List.length_append, List.length_singleton]
  · intro index publication found
    change (fanout.published ++ [_])[index]? = some publication at found
    rw [List.getElem?_append, List.getElem?_singleton] at found
    split at found
    · exact consistent.numbered index publication found
    · obtain ⟨last, ⟨⟩⟩ := Option.ite_none_right_eq_some.mp found
      have atEnd : index = fanout.published.length := by omega
      subst atEnd
      exact ⟨rfl, next⟩
  · exact fun publication isShared => included (consistent.shared publication isShared)
  · intro publication member
    rcases List.mem_append.mp member with old | new
    · exact included (consistent.storing publication old)
    · exact List.mem_append_right _ new
  · exact fun owner member => (consistent.owners owner member).mono included

/-- Fewer publications than generations have distinct ones. -/
theorem eq_of_generation_eq (consistent : fanout.Consistent)
    (few : fanout.published.length < 2 ^ 64) {other : Publication}
    (member : publication ∈ fanout.published) (otherMember : other ∈ fanout.published)
    (same : publication.versioned.generation = other.versioned.generation) :
    publication = other := by
  obtain ⟨index, found⟩ := List.mem_iff_getElem?.mp member
  obtain ⟨otherIndex, otherFound⟩ := List.mem_iff_getElem?.mp otherMember
  have bound := (List.getElem?_eq_some_iff.mp found).1
  have otherBound := (List.getElem?_eq_some_iff.mp otherFound).1
  rw [(consistent.numbered index publication found).2,
    (consistent.numbered otherIndex other otherFound).2, Nat.mod_eq_of_lt (by omega),
    Nat.mod_eq_of_lt (by omega), Nat.add_right_cancel_iff] at same
  rw [same, otherFound] at found
  exact (Option.some.inj found).symm

theorem generation_ne_zero (consistent : fanout.Consistent)
    (few : fanout.published.length < 2 ^ 64) (member : publication ∈ fanout.published) :
    publication.versioned.generation ≠ 0 := by
  obtain ⟨index, found⟩ := List.mem_iff_getElem?.mp member
  have bound := (List.getElem?_eq_some_iff.mp found).1
  rw [(consistent.numbered index publication found).2, Nat.mod_eq_of_lt (by omega)]
  exact Nat.succ_ne_zero index

/-- An owner has seen the generation in the slot exactly when it holds the publication
in the slot. -/
theorem lastSeen_eq_iff (consistent : fanout.Consistent)
    (few : fanout.published.length < 2 ^ 64) (isOwner : owner ∈ fanout.owners)
    (inSlot : fanout.shared = some publication) :
    owner.handle.lastSeenGeneration = publication.versioned.generation ↔
      owner.adopted = some publication := by
  have agrees := consistent.owners owner isOwner
  have isPublished := consistent.shared publication inSlot
  cases adopted : owner.adopted with
  | none =>
    rw [agrees.unseen adopted]
    exact iff_of_false (consistent.generation_ne_zero few isPublished).symm nofun
  | some held =>
    obtain ⟨heldPublished, sees, _⟩ := agrees.seen held adopted
    rw [sees, Option.some.injEq]
    constructor
    · exact consistent.eq_of_generation_eq few heldPublished isPublished
    · rintro rfl
      rfl

end Fanout.Consistent

/-- The ways a call of an owner's handle can go. -/
theorem QueueOwner.applyUpdates_cases (owner : QueueOwner) (shared : Option Publication) :
    ((shared = none ∨ ∃ publication, shared = some publication ∧
        owner.handle.lastSeenGeneration = publication.versioned.generation) ∧
      owner.applyUpdates shared = (0, owner)) ∨
    ∃ publication, shared = some publication ∧
      owner.handle.lastSeenGeneration ≠ publication.versioned.generation ∧
      owner.applyUpdates shared =
        (owner.routes.pending.length + 1,
          { handle := { lastSeenGeneration := publication.versioned.generation }
            routes :=
              { snapshot := publication.versioned.snapshot
                pending := []
                generation :=
                  (owner.routes.generation + (owner.routes.pending.length + 1)) % 2 ^ 64 }
            adopted := some publication }) := by
  cases shared with
  | none => exact .inl ⟨.inl rfl, rfl⟩
  | some publication =>
    rw [QueueOwner.applyUpdates, Option.map_some]
    by_cases seen : owner.handle.lastSeenGeneration = publication.versioned.generation
    · rw [XdpRouteMonitorHandle.applyUpdates_of_seen seen]
      exact .inl ⟨.inr ⟨publication, rfl, seen⟩, rfl⟩
    · rw [XdpRouteMonitorHandle.applyUpdates_of_unseen seen]
      exact .inr ⟨publication, rfl, seen, rfl⟩

theorem QueueOwner.Agrees.applyUpdates {published : List Publication}
    {shared : Option Publication} (agrees : owner.Agrees published)
    (isPublished : ∀ publication ∈ shared, publication ∈ published) :
    (owner.applyUpdates shared).2.Agrees published := by
  rcases owner.applyUpdates_cases shared with ⟨_, same⟩ | ⟨publication, inSlot, _, adopts⟩
  · rw [same]
    exact agrees
  · rw [adopts]
    constructor
    · exact Nat.one_lt_two_pow (by decide)
    · exact nofun
    · rintro _ ⟨⟩
      exact ⟨isPublished publication inSlot, rfl, rfl⟩

namespace Fanout

theorem Consistent.new : Fanout.new.Consistent := by
  constructor
  · rfl
  all_goals exact nofun

theorem Consistent.step (consistent : fanout.Consistent) {action : FanoutAction}
    (taken : fanout.step action = some target) : target.Consistent := by
  cases action with
  | fetchGeneration snapshot =>
    cases taken
    exact consistent.fetchGeneration snapshot
  | store publisher =>
    obtain ⟨publication, found, ⟨⟩⟩ := Option.bind_eq_some_iff.mp taken
    have isPublished := consistent.storing publication (List.mem_of_getElem? found)
    refine ⟨consistent.counts, consistent.numbered, ?_, ?_, consistent.owners⟩
    · rintro _ ⟨⟩
      exact isPublished
    · exact fun other member => consistent.storing other (List.mem_of_mem_eraseIdx member)
  | registerQueue routes =>
    obtain ⟨short, ⟨⟩⟩ := Option.ite_none_right_eq_some.mp taken
    refine ⟨consistent.counts, consistent.numbered, consistent.shared, consistent.storing, ?_⟩
    intro owner member
    rcases List.mem_append.mp member with old | new
    · exact consistent.owners owner old
    · cases List.mem_singleton.mp new
      exact ⟨short, fun _ => rfl, nofun⟩
  | applyUpdates index =>
    obtain ⟨owner, found, ⟨⟩⟩ := Option.bind_eq_some_iff.mp taken
    refine ⟨consistent.counts, consistent.numbered, consistent.shared, consistent.storing, ?_⟩
    exact forall_set consistent.owners ((consistent.owners owner
      (List.mem_of_getElem? found)).applyUpdates consistent.shared) index

theorem Consistent.run (consistent : fanout.Consistent) {actions : List FanoutAction}
    (reached : run Fanout.step fanout actions = some target) : target.Consistent :=
  run_invariant_of_step (fun _ _ _ before taken => before.step taken) consistent reached

/-- An owner that calls its handle holds the publication in the slot afterwards. -/
theorem Consistent.snapshot_applyUpdates (consistent : fanout.Consistent)
    (few : fanout.published.length < 2 ^ 64) (isOwner : owner ∈ fanout.owners)
    (inSlot : fanout.shared = some publication) :
    (owner.applyUpdates fanout.shared).2.routes.snapshot = publication.versioned.snapshot := by
  rcases owner.applyUpdates_cases fanout.shared with ⟨stays, same⟩ | ⟨other, found, _, adopts⟩
  · rcases stays with empty | ⟨other, found, seen⟩
    · cases inSlot.symm.trans empty
    · cases inSlot.symm.trans found
      have holds := (consistent.lastSeen_eq_iff few isOwner inSlot).mp seen
      rw [same]
      exact ((consistent.owners owner isOwner).seen publication holds).2.2
  · cases inSlot.symm.trans found
    rw [adopts]

/-- Calls of owners, with no publisher in between, leave every owner that has called or
was up to date with the snapshot in the slot. -/
theorem Consistent.run_applyUpdates (consistent : fanout.Consistent)
    (few : fanout.published.length < 2 ^ 64) (inSlot : fanout.shared = some publication)
    (calls : List Nat) (inRange : ∀ index ∈ calls, index < fanout.owners.length) :
    ∃ final, Transition.run Fanout.step fanout (calls.map .applyUpdates) = some final ∧
      final.owners.length = fanout.owners.length ∧
      ∀ index owner, final.owners[index]? = some owner →
        (index ∈ calls ∨ ∀ before ∈ fanout.owners[index]?,
          before.routes.snapshot = publication.versioned.snapshot) →
        owner.routes.snapshot = publication.versioned.snapshot := by
  induction calls generalizing fanout with
  | nil =>
    refine ⟨fanout, rfl, rfl, ?_⟩
    rintro index owner found (called | current)
    · cases called
    · exact current owner found
  | cons called rest ih =>
    obtain ⟨bound, restBound⟩ := List.forall_mem_cons.mp inRange
    have found : fanout.owners[called]? = some fanout.owners[called] :=
      List.getElem?_eq_getElem bound
    have taken : fanout.step (.applyUpdates called) =
        some { fanout with
          owners := fanout.owners.set called
            (fanout.owners[called].applyUpdates fanout.shared).2 } :=
      Option.bind_eq_some_iff.mpr ⟨_, found, rfl⟩
    have current := consistent.snapshot_applyUpdates few (List.mem_of_getElem? found) inSlot
    obtain ⟨final, reached, length, upToDate⟩ := ih (consistent.step taken) few inSlot
      (fun index member => by
        rw [List.length_set]
        exact restBound index member)
    refine ⟨final, run_cons_eq_some_iff.mpr ⟨_, taken, reached⟩,
      length.trans List.length_set, ?_⟩
    intro index owner isFinal covered
    apply upToDate index owner isFinal
    by_cases here : called = index
    · subst here
      right
      intro before isBefore
      rw [List.getElem?_set_self bound] at isBefore
      cases isBefore
      exact current
    · rcases covered with member | was
      · exact .inl (List.mem_of_ne_of_mem (Ne.symm here) member)
      · right
        rwa [List.getElem?_set_ne here]

end Fanout

/-- In every interleaving of publishers and owners with fewer publications than
generations: a call that applies updates leaves the snapshot of the slot and a new
generation; a call applies none exactly when the slot is empty or holds the publication
that the owner has adopted last; and one call of each owner brings all of them to the
snapshot of the slot. -/
theorem monitor_neither_misses_nor_repeats {actions : List FanoutAction} {fanout : Fanout}
    (reached : run Fanout.step Fanout.new actions = some fanout)
    (few : fanout.published.length < 2 ^ 64) :
    (∀ owner ∈ fanout.owners,
      let (applied, after) := owner.applyUpdates fanout.shared
      (applied ≠ 0 →
        (∃ publication, fanout.shared = some publication ∧
          after.routes.snapshot = publication.versioned.snapshot) ∧
        after.routes.generation ≠ owner.routes.generation) ∧
      (applied = 0 ∧ after.routes = owner.routes ↔
        fanout.shared = none ∨ fanout.shared = owner.adopted)) ∧
    ∀ publication, fanout.shared = some publication →
      ∀ calls : List Nat, calls.Perm (List.range fanout.owners.length) →
        ∃ final, run Fanout.step fanout (calls.map .applyUpdates) = some final ∧
          ∀ owner ∈ final.owners, owner.routes.snapshot = publication.versioned.snapshot := by
  have consistent := Fanout.Consistent.new.run reached
  constructor
  · intro owner isOwner
    rcases owner.applyUpdates_cases fanout.shared with ⟨stays, same⟩ | ⟨publication, found, unseen,
      adopts⟩
    · rw [same]
      refine ⟨fun changed => absurd rfl changed, iff_of_true ⟨rfl, rfl⟩ ?_⟩
      refine stays.imp_right ?_
      rintro ⟨publication, found, seen⟩
      rw [found, (consistent.lastSeen_eq_iff few isOwner found).mp seen]
    · have short := (consistent.owners owner isOwner).short
      rw [adopts, found]
      refine ⟨fun _ => ⟨⟨publication, rfl, rfl⟩, ?_⟩, iff_of_false (fun none => nomatch none.1) ?_⟩
      · dsimp only
        omega
      · rintro (empty | held)
        · cases empty
        · exact unseen ((consistent.lastSeen_eq_iff few isOwner found).mpr held.symm)
  · intro publication inSlot calls perm
    obtain ⟨final, run, length, upToDate⟩ := consistent.run_applyUpdates few inSlot calls
      fun index member => List.mem_range.mp (perm.mem_iff.mp member)
    refine ⟨final, run, ?_⟩
    intro owner member
    obtain ⟨index, found⟩ := List.mem_iff_getElem?.mp member
    apply upToDate index owner found
    left
    rw [perm.mem_iff, List.mem_range, ← length]
    exact (List.getElem?_eq_some_iff.mp found).1

/-- Two publishers of which the later one stores first, and an owner that adopts its
snapshot. -/
def overtakingStores : List FanoutAction :=
  [.registerQueue (.new .new), .fetchGeneration .new, .fetchGeneration .new, .store 1,
    .applyUpdates 0, .store 0]

theorem monitor_neither_misses_nor_repeats_overtaking :
    ∃ fanout publication, run Fanout.step Fanout.new overtakingStores = some fanout ∧
      fanout.published.length < 2 ^ 64 ∧ fanout.shared = some publication ∧
      ∃ final, run Fanout.step fanout [.applyUpdates 0] = some final ∧
        ∀ owner ∈ final.owners, owner.routes.snapshot = publication.versioned.snapshot :=
  ⟨_, _, rfl, by decide, rfl,
    (@monitor_neither_misses_nor_repeats overtakingStores _ rfl (by decide)).2 _ rfl [0]
      (.refl _)⟩

end FastSocket.Xdp
