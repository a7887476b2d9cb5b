import FastSocket.Os.PoolInvariant

/-!
# Recovery of remotely dropped buffers

An allocation that finds the free list empty ends after a bounded number of owner
steps, whatever the other threads do in between.  It returns a buffer when a remote
push was complete before it began: the pushed buffer is drained, and it is returned
or stays in the free list.
-/

namespace FastSocket.Os

open Mpsc Transition

/-- The owner steps that are left in an allocation, apart from the drained items.  Four
more can follow when the pool grows. -/
def OwnerPhase.rank : OwnerPhase → Nat
  | .idle => 0
  | .testing grown => (if grown then 0 else 4) + 5
  | .draining grown _ => (if grown then 0 else 4) + 4
  | .settling grown _ => (if grown then 0 else 4) + 3
  | .popping grown => (if grown then 0 else 4) + 2

theorem OwnerPhase.rank_le (phase : OwnerPhase) : phase.rank ≤ 9 := by
  cases phase with
  | idle => exact Nat.zero_le _
  | testing grown => cases grown <;> decide
  | draining grown drained => cases grown <;> simp [rank]
  | settling grown drained => cases grown <;> simp [rank]
  | popping grown => cases grown <;> decide

namespace OsPool

/-- Where a pushed buffer can be while the allocation that must recover it runs, and
what that allocation has returned in the end. -/
def Recovers (pool : OsPool) (buffer : Buffer) : Prop :=
  match pool.owner with
  | .idle => ∃ recovered, pool.returned = some (some recovered) ∧
      (recovered = buffer ∨ buffer ∈ pool.free)
  | .testing _ => buffer ∈ pool.remote.items ∨ buffer ∈ pool.free
  | .draining _ _ => buffer ∈ pool.remote.items ∨ buffer ∈ pool.free
  | .settling _ _ => buffer ∈ pool.free
  | .popping _ => buffer ∈ pool.free

/-- A bound on the owner steps that are left in an allocation. -/
def remainingSteps (pool : OsPool) : Nat :=
  pool.lent.card + pool.owner.rank

variable {maxBuffers : Nat} {pool target : OsPool} {buffer : Buffer}

theorem ownerStep_isSome (busy : pool.owner ≠ .idle) : pool.ownerStep.isSome := by
  rw [ownerStep]
  cases isOwner : pool.owner with
  | idle => exact absurd isOwner busy
  | testing grown =>
    simp only
    split
    · rfl
    · rfl
  | draining grown drained =>
    simp only
    split
    · rfl
    · split
      · rfl
      · rfl
  | settling grown drained => rfl
  | popping grown =>
    simp only
    split
    · rfl
    · split
      · rfl
      · split
        · rfl
        · rfl

theorem Recovers.ownerStep (conserved : pool.Conserved maxBuffers)
    (recovers : pool.Recovers buffer) (stepped : pool.ownerStep = some target) :
    target.Recovers buffer := by
  rw [Recovers] at recovers
  cases ownerMove_of_ownerStep stepped with
  | skip isOwner zero =>
    rw [isOwner] at recovers
    rcases recovers with queued | isFree
    · rw [conserved.counted.items_eq_nil zero] at queued
      cases queued
    · exact isFree
  | look isOwner _ =>
    rw [isOwner] at recovers
    exact recovers
  | drain isOwner dequeued =>
    rw [isOwner] at recovers
    obtain ⟨rest, isItems, rfl⟩ := Channel.dequeue_eq_some dequeued
    rcases recovers with queued | isFree
    · rw [isItems, List.mem_cons] at queued
      rcases queued with rfl | later
      · exact .inr List.mem_cons_self
      · exact .inl later
    · exact .inr (List.mem_cons_of_mem _ isFree)
  | drained isOwner nothing _ =>
    rw [isOwner, nothing] at recovers
    exact recovers.resolve_left List.not_mem_nil
  | vanished isOwner nothing =>
    rw [isOwner, nothing] at recovers
    exact recovers.resolve_left List.not_mem_nil
  | settle isOwner =>
    rw [isOwner] at recovers
    exact recovers
  | pop isOwner isFree =>
    rw [isOwner, isFree, List.mem_cons] at recovers
    exact ⟨_, rfl, recovers.imp Eq.symm id⟩
  | fail isOwner isFree _ =>
    rw [isOwner, isFree] at recovers
    cases recovers
  | grow isOwner isFree _ =>
    rw [isOwner, isFree] at recovers
    cases recovers

variable {remote : Channel Buffer} {action : PoolAction}

theorem Recovers.enqueue {pushed : Buffer} (recovers : pool.Recovers buffer)
    (enqueued : pool.remote.enqueue pushed = some remote) :
    { pool with remote := remote }.Recovers buffer := by
  cases Channel.enqueue_eq_some enqueued
  rw [Recovers] at recovers ⊢
  cases isOwner : pool.owner with
  | idle =>
    rw [isOwner] at recovers
    exact recovers
  | testing grown =>
    rw [isOwner] at recovers
    exact recovers.imp_left (List.mem_append_left _)
  | draining grown drained =>
    rw [isOwner] at recovers
    exact recovers.imp_left (List.mem_append_left _)
  | settling grown drained =>
    rw [isOwner] at recovers
    exact recovers
  | popping grown =>
    rw [isOwner] at recovers
    exact recovers

theorem Recovers.step (conserved : pool.Conserved maxBuffers) (recovers : pool.Recovers buffer)
    (busy : pool.owner ≠ .idle) (stepped : pool.step action = some target) :
    target.Recovers buffer := by
  rcases conserved.step_cases stepped with
    ⟨-, idle, -⟩ | ⟨-, owned⟩ | ⟨_, -, idle, -, -⟩ | ⟨_, -, -, rfl⟩ |
      ⟨_, -, remote, -, enqueued, rfl⟩
  · exact absurd idle busy
  · exact recovers.ownerStep conserved owned
  · exact absurd idle busy
  · exact recovers
  · exact recovers.enqueue enqueued

theorem card_lent_drain {free : List Buffer} {phase : OwnerPhase}
    (dequeued : pool.remote.dequeue = some (buffer, remote)) :
    { pool with free := free, remote := remote, owner := phase }.lent.card + 1 =
      pool.lent.card := by
  simp only [lent]
  rw [Channel.content_dequeue dequeued, Multiset.card_add, Multiset.card_add, Multiset.card_add,
    Multiset.card_singleton]
  omega

theorem lent_grow (grown : pool.grow = some target) : target.lent = pool.lent := by
  rw [grow] at grown
  simp only at grown
  split at grown
  · cases grown
  · cases grown
    rfl

theorem remainingSteps_lt (sameLent : target.lent = pool.lent)
    (lower : target.owner.rank < pool.owner.rank) :
    target.remainingSteps < pool.remainingSteps := by
  rw [remainingSteps, remainingSteps, sameLent]
  exact Nat.add_lt_add_left lower _

/-- Every step of the owner leaves fewer. -/
theorem remainingSteps_ownerStep (stepped : pool.ownerStep = some target) :
    target.remainingSteps < pool.remainingSteps := by
  cases ownerMove_of_ownerStep stepped with
  | skip isOwner _ =>
    refine remainingSteps_lt rfl ?_
    rw [isOwner]
    exact Nat.add_lt_add_left (by decide) _
  | look isOwner _ =>
    refine remainingSteps_lt rfl ?_
    rw [isOwner]
    exact Nat.add_lt_add_left (by decide) _
  | drain isOwner dequeued =>
    rw [remainingSteps, remainingSteps, isOwner, ← card_lent_drain dequeued]
    exact Nat.add_lt_add_right (Nat.lt_succ_self _) _
  | drained isOwner _ _ =>
    refine remainingSteps_lt rfl ?_
    rw [isOwner]
    exact Nat.add_lt_add_left (by decide) _
  | vanished isOwner _ =>
    refine remainingSteps_lt rfl ?_
    rw [isOwner]
    exact Nat.add_lt_add_left (by decide) _
  | settle isOwner =>
    refine remainingSteps_lt rfl ?_
    rw [isOwner]
    exact Nat.add_lt_add_left (by decide) _
  | @pop grown taken free isOwner _ =>
    rw [remainingSteps, remainingSteps, isOwner]
    change (pool.remote.content + (↑(taken :: pool.inFlight) : Multiset Buffer)).card + 0 <
      (pool.remote.content + (↑pool.inFlight : Multiset Buffer)).card + (_ + 2)
    rw [← Multiset.cons_coe, Multiset.card_add, Multiset.card_add, Multiset.card_cons]
    omega
  | fail isOwner _ _ =>
    refine remainingSteps_lt rfl ?_
    rw [isOwner]
    exact Nat.zero_lt_succ _
  | @grow larger isOwner _ isGrown =>
    have sameLent : larger.lent = pool.lent := lent_grow isGrown
    refine remainingSteps_lt sameLent ?_
    rw [isOwner]
    change OwnerPhase.rank (if _ then _ else _) < _
    split
    · decide
    · decide

/-- While an allocation runs, only the owner's steps change what is left. -/
theorem remainingSteps_step (conserved : pool.Conserved maxBuffers) (busy : pool.owner ≠ .idle)
    (stepped : pool.step action = some target) :
    target.remainingSteps + [action].countP (· = .ownerStep) ≤ pool.remainingSteps := by
  rcases conserved.step_cases stepped with
    ⟨-, idle, -⟩ | ⟨rfl, owned⟩ | ⟨_, -, idle, -, -⟩ | ⟨dropped, held, rfl, rfl⟩ |
      ⟨pushed, announced, remote, rfl, enqueued, rfl⟩
  · exact absurd idle busy
  · exact remainingSteps_ownerStep owned
  · exact absurd idle busy
  · rw [remainingSteps, remainingSteps, lent_announce held]
    exact le_rfl
  · rw [remainingSteps, remainingSteps, lent_enqueue announced enqueued]
    exact le_rfl

theorem Conserved.remainingSteps_le (conserved : pool.Conserved maxBuffers) :
    pool.remainingSteps ≤ maxBuffers + 9 :=
  Nat.add_le_add conserved.card_lent_le pool.owner.rank_le

theorem Conserved.places_perm (conserved : pool.Conserved maxBuffers) :
    (pool.free ++ pool.remote.items ++ pool.remote.announced ++ pool.inFlight).Perm
      (List.range pool.allocated) := by
  have places := conserved.places
  rw [lent, Channel.content, Multiset.coe_add, Multiset.coe_add, Multiset.coe_add,
    Multiset.coe_eq_coe] at places
  rwa [List.append_assoc, List.append_assoc, ← List.append_assoc pool.remote.items]

theorem recovers_beginAllocation (isFree : pool.free = []) (queued : buffer ∈ pool.remote.items)
    (begun : pool.step .beginAllocation = some target) : target.Recovers buffer := by
  obtain ⟨idle, ⟨⟩⟩ := Option.ite_none_right_eq_some.mp begun
  simp only [Recovers, beginPop, isFree, List.isEmpty_nil, if_true]
  exact .inl queued

theorem Recovers.returned (recovers : pool.Recovers buffer) (idle : pool.owner = .idle) :
    ∃ recovered, pool.returned = some (some recovered) ∧
      (recovered = buffer ∨ buffer ∈ pool.free) := by
  rw [Recovers, idle] at recovers
  exact recovers

/-- In every run, each created buffer is in exactly one of the free list, the remote
queue, a push that has not finished and the hands of the application; the pool stays
within its limit; no remote push finds the queue full; and the counter is never below
zero.  An allocation that begins with an empty free list after the push of a buffer was
complete makes a bounded number of owner steps, one of which is always possible until
it ends, and it ends with a buffer: the pushed one, or another while the pushed one is
in the free list. -/
theorem pool_conserved (maxBuffers : Nat) (actions : List PoolAction) (pool : OsPool)
    (reached : run step (withMaxBuffers maxBuffers) actions = some pool) :
    (pool.free ++ pool.remote.items ++ pool.remote.announced ++ pool.inFlight).Perm
        (List.range pool.allocated) ∧
      pool.allocated ≤ maxBuffers ∧
      pool.overflowed = false ∧
      0 ≤ pool.remote.len ∧
      ∀ buffer ∈ pool.remote.items, pool.free = [] →
        ∀ begun, pool.step .beginAllocation = some begun →
        ∀ steps target, run step begun steps = some target →
          StepsMeet step (fun state _ => state.owner ≠ .idle) begun steps →
          steps.countP (· = .ownerStep) ≤ maxBuffers + 9 ∧
            if target.owner = .idle then
              ∃ recovered, target.returned = some (some recovered) ∧
                (recovered = buffer ∨ buffer ∈ target.free)
            else
              (target.step .ownerStep).isSome := by
  have conserved : pool.Conserved maxBuffers := conserved_run reached
  refine ⟨conserved.places_perm, conserved.limit, conserved.fits, conserved.counted.nonneg, ?_⟩
  intro buffer queued isFree begun began steps target runs busy
  have begunConserved := conserved.step began
  have bound := measure_add_countP_le
    (fun _ _ _ conserved busy stepped =>
      ⟨Conserved.step conserved stepped, remainingSteps_step conserved busy stepped⟩)
    begunConserved runs busy
  have recovers := run_invariant
    (fun _ _ _ (held : Conserved maxBuffers _ ∧ Recovers _ buffer) busy stepped =>
      ⟨held.1.step stepped, held.2.step held.1 busy stepped⟩)
    ⟨begunConserved, recovers_beginAllocation isFree queued began⟩ runs busy
  have initial := begunConserved.remainingSteps_le
  refine ⟨by omega, ?_⟩
  split
  · exact recovers.2.returned ‹_›
  · exact ownerStep_isSome ‹_›

/-- A pool of one buffer: the buffer is allocated, dropped on another thread and
recovered by the next allocation. -/
theorem pool_conserved_one :
    ∃ pool begun target,
      run step (withMaxBuffers 1) [.beginAllocation, .ownerStep, .ownerStep, .ownerStep,
        .announceRemote 0, .pushRemote 0] = some pool ∧
      pool.step .beginAllocation = some begun ∧
      run step begun [.ownerStep, .ownerStep, .ownerStep, .ownerStep, .ownerStep] =
        some target ∧
      target.owner = .idle ∧
      ∃ recovered, target.returned = some (some recovered) ∧
        (recovered = 0 ∨ 0 ∈ target.free) := by
  refine ⟨_, _, _, rfl, rfl, rfl, rfl, ?_⟩
  have recovery := (pool_conserved 1 [.beginAllocation, .ownerStep, .ownerStep, .ownerStep,
    .announceRemote 0, .pushRemote 0] _ rfl).2.2.2.2 0 (.head _) rfl _ rfl
    [.ownerStep, .ownerStep, .ownerStep, .ownerStep, .ownerStep] _ rfl (by decide)
  exact recovery.2

end OsPool

end FastSocket.Os
