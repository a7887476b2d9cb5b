import FastSocket.Os.Pool
import Mathlib.Data.List.Range

/-!
# The OS buffer pool conserves its buffers

Every buffer of a pool is in one place: the free list, the remote queue, a push that
has not finished, or the hands of the application.  The remote queue has room for all
buffers, so no push finds it full.  An allocation that finds the free list empty takes
over what was pushed before it began.
-/

namespace FastSocket.Os

open Mpsc Transition

/-- The items that the owner has drained and not yet taken off the counter. -/
def OwnerPhase.drained : OwnerPhase → Nat
  | .idle => 0
  | .testing _ => 0
  | .draining _ drained => drained
  | .settling _ drained => drained
  | .popping _ => 0

namespace OsPool

/-- The buffers outside of the free list. -/
def lent (pool : OsPool) : Multiset Buffer :=
  pool.remote.content + ↑pool.inFlight

structure Conserved (maxBuffers : Nat) (pool : OsPool) : Prop where
  places : ↑pool.free + pool.lent = (↑(List.range pool.allocated) : Multiset Buffer)
  maximum : pool.maxBuffers = maxBuffers
  limit : pool.allocated ≤ maxBuffers
  counted : pool.remote.Counted
  owed : pool.remote.owed = pool.owner.drained
  capacity : maxBuffers ≤ pool.remote.capacity
  fits : pool.overflowed = false

theorem conserved_withMaxBuffers (maxBuffers : Nat) :
    (withMaxBuffers maxBuffers).Conserved maxBuffers :=
  ⟨rfl, rfl, Nat.zero_le _, Channel.counted_empty _, rfl, Nat.le_max_left _ _, rfl⟩

variable {maxBuffers : Nat} {pool target : OsPool}

theorem Conserved.beginPop (conserved : pool.Conserved maxBuffers) (idle : pool.remote.owed = 0)
    (grown : Bool) : (pool.beginPop grown).Conserved maxBuffers := by
  refine { conserved with owed := ?_ }
  change pool.remote.owed = OwnerPhase.drained (if _ then _ else _)
  rw [idle]
  split
  · rfl
  · rfl

theorem Conserved.endAllocation (conserved : pool.Conserved maxBuffers)
    (idle : pool.remote.owed = 0) (result : Option Buffer) :
    (pool.endAllocation result).Conserved maxBuffers :=
  { conserved with owed := idle }

theorem grow_owed (grown : pool.grow = some target) : target.remote.owed = pool.remote.owed := by
  rw [grow] at grown
  simp only at grown
  split at grown
  · cases grown
  · cases grown
    rfl

/-- Growing adds new buffers to the free list and stays below the limit. -/
theorem Conserved.grow (conserved : pool.Conserved maxBuffers) (grown : pool.grow = some target) :
    target.Conserved maxBuffers := by
  rw [OsPool.grow] at grown
  simp only at grown
  split at grown
  · cases grown
  · cases grown
    refine { conserved with places := ?_, limit := ?_ }
    · generalize min slabSize (pool.maxBuffers - pool.allocated) = chunk
      change ((((List.range' pool.allocated chunk).reverse ++ pool.free : List Buffer) :
        Multiset Buffer) + pool.lent) = ((List.range (pool.allocated + chunk) : List Buffer) :
          Multiset Buffer)
      rw [← Multiset.coe_add, Multiset.coe_reverse, add_assoc, conserved.places, List.range_add,
        ← List.range'_eq_map_range, ← Multiset.coe_add, add_comm]
    · have limit := conserved.limit
      have maximum := conserved.maximum
      change pool.allocated + min slabSize _ ≤ maxBuffers
      omega

variable {buffer : Buffer} {remote : Channel Buffer} {action : PoolAction}

/-- A dequeued buffer moves to the free list. -/
theorem Conserved.drain (conserved : pool.Conserved maxBuffers) {grown : Bool} {drained : Nat}
    (isOwner : pool.owner = .draining grown drained)
    (dequeued : pool.remote.dequeue = some (buffer, remote)) :
    { pool with
      free := buffer :: pool.free
      remote := remote
      owner := .draining grown (drained + 1) }.Conserved maxBuffers := by
  have places := conserved.places
  have owed := conserved.owed
  rw [isOwner] at owed
  have content := Channel.content_dequeue dequeued
  have counted := conserved.counted.dequeue dequeued
  obtain ⟨rest, _, rfl⟩ := Channel.dequeue_eq_some dequeued
  refine { conserved with places := ?_, counted := counted, owed := congrArg (· + 1) owed }
  simp only [lent] at places ⊢
  rw [content] at places
  rw [← places, ← Multiset.cons_coe, ← Multiset.singleton_add]
  abel

theorem Conserved.take (conserved : pool.Conserved maxBuffers) {free : List Buffer}
    (isFree : pool.free = buffer :: free) :
    { pool with free := free, inFlight := buffer :: pool.inFlight }.Conserved maxBuffers := by
  have places := conserved.places
  refine { conserved with places := ?_ }
  simp only [lent] at places ⊢
  rw [← places, isFree, ← Multiset.cons_coe, ← Multiset.cons_coe, ← Multiset.singleton_add,
    ← Multiset.singleton_add]
  abel

theorem Conserved.ownerStep (conserved : pool.Conserved maxBuffers)
    (stepped : pool.ownerStep = some target) : target.Conserved maxBuffers := by
  have owed := conserved.owed
  cases ownerMove_of_ownerStep stepped with
  | skip isOwner _ =>
    rw [isOwner] at owed
    exact { conserved with owed := owed }
  | look isOwner _ =>
    rw [isOwner] at owed
    exact { conserved with owed := owed }
  | drain isOwner dequeued => exact conserved.drain isOwner dequeued
  | drained isOwner _ _ =>
    rw [isOwner] at owed
    exact { conserved with owed := owed }
  | vanished isOwner _ =>
    rw [isOwner] at owed
    exact { conserved with owed := owed }
  | settle isOwner =>
    rw [isOwner] at owed
    change pool.remote.owed = _ at owed
    refine { conserved with counted := conserved.counted.settle owed.ge, owed := ?_ }
    exact Nat.sub_eq_zero_of_le owed.le
  | pop isOwner isFree =>
    rw [isOwner] at owed
    exact (conserved.take isFree).endAllocation owed _
  | fail isOwner _ _ =>
    rw [isOwner] at owed
    exact conserved.endAllocation owed none
  | grow isOwner _ isGrown =>
    rw [isOwner] at owed
    exact (conserved.grow isGrown).beginPop (grow_owed isGrown ▸ owed) true

theorem Conserved.dropLocal (conserved : pool.Conserved maxBuffers)
    (held : buffer ∈ pool.inFlight) :
    { pool with
      free := buffer :: pool.free
      inFlight := pool.inFlight.erase buffer }.Conserved maxBuffers := by
  have places := conserved.places
  have removed := Multiset.cons_erase (Multiset.mem_coe.mpr held)
  refine { conserved with places := ?_ }
  simp only [lent] at places ⊢
  rw [← removed] at places
  rw [← places, ← Multiset.cons_coe, ← Multiset.singleton_add, ← Multiset.singleton_add,
    Multiset.coe_erase]
  abel

theorem lent_announce (held : buffer ∈ pool.inFlight) :
    { pool with
      remote := pool.remote.announce buffer
      inFlight := pool.inFlight.erase buffer }.lent = pool.lent := by
  have removed := Multiset.cons_erase (Multiset.mem_coe.mpr held)
  simp only [lent]
  rw [← removed, Channel.content_announce, ← Multiset.singleton_add, Multiset.coe_erase]
  abel

theorem lent_enqueue (announced : buffer ∈ pool.remote.announced)
    (enqueued : pool.remote.enqueue buffer = some remote) :
    { pool with remote := remote }.lent = pool.lent := by
  simp only [lent]
  rw [Channel.content_enqueue announced enqueued]

theorem Conserved.announceRemote (conserved : pool.Conserved maxBuffers)
    (held : buffer ∈ pool.inFlight) :
    { pool with
      remote := pool.remote.announce buffer
      inFlight := pool.inFlight.erase buffer }.Conserved maxBuffers := by
  refine { conserved with places := ?_, counted := conserved.counted.announce buffer }
  rw [← conserved.places, lent_announce held]

theorem Conserved.card_lent_le (conserved : pool.Conserved maxBuffers) :
    pool.lent.card ≤ maxBuffers := by
  have total := congrArg Multiset.card conserved.places
  rw [Multiset.card_add, Multiset.coe_card, Multiset.coe_card, List.length_range] at total
  have limit := conserved.limit
  omega

/-- A push that was announced finds room. -/
theorem Conserved.exists_enqueue (conserved : pool.Conserved maxBuffers)
    (announced : buffer ∈ pool.remote.announced) :
    ∃ remote, pool.remote.enqueue buffer = some remote := by
  apply Channel.exists_enqueue announced
  have lent := conserved.card_lent_le
  rw [OsPool.lent, Multiset.card_add] at lent
  exact ((Nat.le_add_right _ _).trans lent).trans conserved.capacity

theorem Conserved.enqueue (conserved : pool.Conserved maxBuffers)
    (announced : buffer ∈ pool.remote.announced)
    (enqueued : pool.remote.enqueue buffer = some remote) :
    { pool with remote := remote }.Conserved maxBuffers := by
  have lent := lent_enqueue announced enqueued
  have counted := conserved.counted.enqueue announced enqueued
  cases Channel.enqueue_eq_some enqueued
  refine { conserved with places := ?_, counted := counted }
  rw [← conserved.places, lent]

/-- What a step on a pool that conserves its buffers does, apart from the owner's
steps. -/
theorem Conserved.step_cases (conserved : pool.Conserved maxBuffers)
    (stepped : pool.step action = some target) :
    (action = .beginAllocation ∧ pool.owner = .idle ∧
        target = { pool.beginPop false with returned := none }) ∨
      (action = .ownerStep ∧ pool.ownerStep = some target) ∨
      (∃ buffer ∈ pool.inFlight, pool.owner = .idle ∧ action = .dropLocal buffer ∧
        target = { pool with
          free := buffer :: pool.free
          inFlight := pool.inFlight.erase buffer }) ∨
      (∃ buffer ∈ pool.inFlight, action = .announceRemote buffer ∧
        target = { pool with
          remote := pool.remote.announce buffer
          inFlight := pool.inFlight.erase buffer }) ∨
      ∃ buffer ∈ pool.remote.announced, ∃ remote, action = .pushRemote buffer ∧
        pool.remote.enqueue buffer = some remote ∧ target = { pool with remote := remote } := by
  cases action with
  | beginAllocation =>
    obtain ⟨idle, ⟨⟩⟩ := Option.ite_none_right_eq_some.mp stepped
    exact .inl ⟨rfl, idle, rfl⟩
  | ownerStep => exact .inr (.inl ⟨rfl, stepped⟩)
  | dropLocal buffer =>
    obtain ⟨⟨idle, held⟩, ⟨⟩⟩ := Option.ite_none_right_eq_some.mp stepped
    exact .inr (.inr (.inl ⟨buffer, held, idle, rfl, rfl⟩))
  | announceRemote buffer =>
    obtain ⟨held, ⟨⟩⟩ := Option.ite_none_right_eq_some.mp stepped
    exact .inr (.inr (.inr (.inl ⟨buffer, held, rfl, rfl⟩)))
  | pushRemote buffer =>
    obtain ⟨announced, pushed⟩ := Option.ite_none_right_eq_some.mp stepped
    obtain ⟨remote, enqueued⟩ := conserved.exists_enqueue announced
    rw [enqueued] at pushed
    cases pushed
    exact .inr (.inr (.inr (.inr ⟨buffer, announced, remote, rfl, enqueued, rfl⟩)))

theorem Conserved.step (conserved : pool.Conserved maxBuffers)
    (stepped : pool.step action = some target) : target.Conserved maxBuffers := by
  rcases conserved.step_cases stepped with
    ⟨-, idle, rfl⟩ | ⟨-, owned⟩ | ⟨buffer, held, -, -, rfl⟩ | ⟨buffer, held, -, rfl⟩ |
      ⟨buffer, announced, remote, -, enqueued, rfl⟩
  · have owed := conserved.owed
    rw [idle] at owed
    exact { conserved.beginPop owed false with }
  · exact conserved.ownerStep owned
  · exact conserved.dropLocal held
  · exact conserved.announceRemote held
  · exact conserved.enqueue announced enqueued

/-- Every run conserves the buffers. -/
theorem conserved_run {actions : List PoolAction}
    (reached : run step (withMaxBuffers maxBuffers) actions = some pool) :
    pool.Conserved maxBuffers :=
  run_invariant_of_step (fun _ _ _ conserved stepped => conserved.step stepped)
    (conserved_withMaxBuffers maxBuffers) reached

end OsPool

end FastSocket.Os
