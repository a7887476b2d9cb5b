import FastSocket.Os.PoolInvariant
import Mathlib.Logic.Relation

/-!
# Undisturbed allocations

An allocation during which no other thread makes a step is one function of the pool.  It
is what the steps of the owner lead to, so it conserves the buffers; and it fails only when
every buffer that the pool may have is lent.
-/

namespace FastSocket.Os

open Mpsc Transition

namespace OsPool

variable (pool : OsPool)

/-- Moves the pushed buffers to the free list, unless none is counted. -/
def drainRemote : OsPool :=
  if pool.remote.len = 0 then
    pool
  else
    { pool with
      free := pool.remote.items.reverse ++ pool.free
      remote := { pool.remote with
        items := []
        len := pool.remote.len - pool.remote.items.length } }

/-- Takes a buffer from the free list. -/
def popFree : Option Buffer × OsPool :=
  match pool.free with
  | [] => (none, pool)
  | buffer :: free => (some buffer, { pool with free := free, inFlight := buffer :: pool.inFlight })

def pop : Option Buffer × OsPool :=
  if pool.free.isEmpty then pool.drainRemote.popFree else pool.popFree

/-- Pops the pool, and once more after it has grown. -/
def allocate : Option Buffer × OsPool :=
  match pool.pop with
  | (some buffer, pool) => (some buffer, pool)
  | (none, pool) =>
    match pool.grow with
    | none => (none, pool)
    | some pool => pool.pop

/-- The owner thread gives a buffer back. -/
def push (buffer : Buffer) : OsPool :=
  { pool with free := buffer :: pool.free, inFlight := pool.inFlight.erase buffer }

/-! ## Allocations as steps of the owner -/

/-- Steps of the owner that no other step interrupts. -/
def OwnerReaches : OsPool → OsPool → Prop :=
  Relation.ReflTransGen fun source target => source.ownerStep = some target

/-- The pool when its owner has drained a part of the remote queue. -/
def whileDraining (grown : Bool) (drained : Nat) (free items : List Buffer) : OsPool :=
  { pool with
    free := free
    remote := { pool.remote with items := items, owed := pool.remote.owed + drained }
    owner := .draining grown drained }

theorem ownerReaches_whileDraining (grown : Bool) (drained : Nat) (free items : List Buffer) :
    OwnerReaches (pool.whileDraining grown drained free items)
      (pool.whileDraining grown (drained + items.length) (items.reverse ++ free) []) := by
  induction items generalizing drained free with
  | nil => exact .refl
  | cons buffer rest ih =>
    refine .head (b := pool.whileDraining grown (drained + 1) (buffer :: free) rest) rfl ?_
    have reaches := ih (drained + 1) (buffer :: free)
    rwa [Nat.add_assoc, Nat.add_comm 1, ← List.length_cons, List.append_cons,
      ← List.reverse_cons] at reaches

/-- An owner that looks at the remote queue drains it and pops the free list next. -/
theorem ownerReaches_drainRemote {grown : Bool} (isOwner : pool.owner = .testing grown) :
    OwnerReaches pool { pool.drainRemote with owner := .popping grown } := by
  rw [drainRemote]
  split
  case isTrue zero =>
    refine .single ?_
    rw [ownerStep, isOwner]
    exact if_pos zero
  case isFalse counted =>
    have look : pool.ownerStep = some (pool.whileDraining grown 0 pool.free pool.remote.items) := by
      rw [ownerStep, isOwner]
      exact if_neg counted
    have drains := pool.ownerReaches_whileDraining grown 0 pool.free pool.remote.items
    refine .head look (drains.trans ?_)
    cases pool.remote.items with
    | nil =>
      refine .single ?_
      rw [List.length_nil, Int.natCast_zero, Int.sub_zero]
      rfl
    | cons buffer rest =>
      refine .head (b := _) rfl (.single ?_)
      simp [ownerStep, whileDraining, Channel.settle]

theorem ownerReaches_beginPop (grown : Bool) :
    OwnerReaches (pool.beginPop grown)
      { (if pool.free.isEmpty then pool.drainRemote else pool) with owner := .popping grown } := by
  rw [beginPop]
  split
  case isTrue =>
    have reaches := { pool with owner := .testing grown }.ownerReaches_drainRemote rfl
    rw [drainRemote] at reaches ⊢
    split at reaches
    case isTrue zero => rwa [if_pos zero]
    case isFalse counted => rwa [if_neg counted]
  case isFalse => exact .refl

/-- What a pop does, and where it leaves the owner. -/
theorem pop_cases (grown : Bool) :
    (∃ buffer, pool.pop.1 = some buffer ∧
        OwnerReaches (pool.beginPop grown) (pool.pop.2.endAllocation pool.pop.1)) ∨
      (pool.pop.1 = none ∧ pool.pop.2.free = [] ∧
        OwnerReaches (pool.beginPop grown) { pool.pop.2 with owner := .popping grown }) := by
  have reaches := pool.ownerReaches_beginPop grown
  have isPop : pool.pop = (if pool.free.isEmpty then pool.drainRemote else pool).popFree :=
    (apply_ite popFree _ _ _).symm
  rw [isPop]
  generalize (if pool.free.isEmpty then pool.drainRemote else pool) = ready at reaches ⊢
  cases isFree : ready.free with
  | nil =>
    have nothing : ready.popFree = (none, ready) := by rw [popFree, isFree]
    rw [nothing]
    exact .inr ⟨rfl, isFree, reaches⟩
  | cons buffer rest =>
    have taken : ready.popFree =
        (some buffer, { ready with free := rest, inFlight := buffer :: ready.inFlight }) := by
      rw [popFree, isFree]
    rw [taken]
    refine .inl ⟨buffer, rfl, reaches.tail ?_⟩
    simp only [ownerStep, isFree]
    rfl

/-- An owner that finds no buffer after the pool has grown gives up. -/
theorem ownerStep_of_grown (isFree : pool.free = []) :
    { pool with owner := .popping true }.ownerStep = some (pool.endAllocation none) := by
  obtain ⟨_, _, _, _, _, _, _, _⟩ := pool
  cases isFree
  rfl

/-- An owner that finds no buffer lets the pool grow once. -/
theorem ownerStep_of_not_grown (isFree : pool.free = []) :
    { pool with owner := .popping false }.ownerStep = match pool.grow with
      | none => some (pool.endAllocation none)
      | some larger => some (larger.beginPop true) := by
  obtain ⟨maxBuffers, _, _, allocated, _, _, _, _⟩ := pool
  cases isFree
  by_cases full : maxBuffers - allocated = 0
  · simp [ownerStep, grow, full, endAllocation]
  · simp [ownerStep, grow, full, beginPop]

/-- An allocation is what the undisturbed steps of the owner lead to. -/
theorem ownerReaches_allocate :
    OwnerReaches (pool.beginPop false) (pool.allocate.2.endAllocation pool.allocate.1) := by
  rw [allocate]
  rcases pool.pop_cases false with ⟨buffer, popped, reaches⟩ | ⟨nothing, isFree, reaches⟩
  · generalize pool.pop = result at popped reaches ⊢
    obtain ⟨_, next⟩ := result
    cases popped
    exact reaches
  · generalize pool.pop = result at nothing isFree reaches ⊢
    obtain ⟨_, next⟩ := result
    cases nothing
    have step := next.ownerStep_of_not_grown isFree
    dsimp only
    cases isGrown : next.grow with
    | none =>
      rw [isGrown] at step
      exact reaches.tail step
    | some larger =>
      rw [isGrown] at step
      rcases larger.pop_cases true with ⟨_, _, ends⟩ | ⟨nothing, empty, ends⟩
      · exact (reaches.tail step).trans ends
      · dsimp only
        rw [nothing]
        exact (reaches.tail step).trans (ends.tail (larger.pop.2.ownerStep_of_grown empty))

/-! ## What an allocation changes -/

/-- The parts of a pool that an allocation leaves alone. -/
structure SameUsers (source target : OsPool) : Prop where
  maxBuffers : target.maxBuffers = source.maxBuffers
  owner : target.owner = source.owner
  announced : target.remote.announced = source.remote.announced

variable {pool}

theorem SameUsers.refl : SameUsers pool pool :=
  ⟨rfl, rfl, rfl⟩

theorem SameUsers.trans {middle target : OsPool} (first : SameUsers pool middle)
    (second : SameUsers middle target) : SameUsers pool target :=
  ⟨second.maxBuffers.trans first.maxBuffers, second.owner.trans first.owner,
    second.announced.trans first.announced⟩

theorem sameUsers_drainRemote : SameUsers pool pool.drainRemote := by
  rw [drainRemote]
  split
  · exact .refl
  · exact ⟨rfl, rfl, rfl⟩

theorem inFlight_drainRemote : pool.drainRemote.inFlight = pool.inFlight := by
  rw [drainRemote]
  split
  · rfl
  · rfl

theorem items_drainRemote (counted : pool.remote.Counted) :
    pool.drainRemote.remote.items = [] := by
  rw [drainRemote]
  split
  case isTrue zero => exact counted.items_eq_nil zero
  case isFalse => rfl

theorem popFree_cases :
    SameUsers pool pool.popFree.2 ∧
      ((∃ buffer, pool.popFree.1 = some buffer ∧
          pool.popFree.2.inFlight = buffer :: pool.inFlight) ∨
        (pool.free = [] ∧ pool.popFree = (none, pool))) := by
  rw [popFree]
  cases pool.free with
  | nil => exact ⟨.refl, .inr ⟨rfl, rfl⟩⟩
  | cons buffer rest => exact ⟨⟨rfl, rfl, rfl⟩, .inl ⟨buffer, rfl, rfl⟩⟩

theorem pop_of_free (some : pool.free ≠ []) : pool.pop = pool.popFree :=
  if_neg fun empty => some (List.isEmpty_iff.mp empty)

/-- What a pop does to the buffers. -/
theorem pop_eq (counted : pool.remote.Counted) :
    SameUsers pool pool.pop.2 ∧
      ((∃ buffer, pool.pop.1 = some buffer ∧ pool.pop.2.inFlight = buffer :: pool.inFlight) ∨
        (pool.pop.1 = none ∧ pool.pop.2.inFlight = pool.inFlight ∧ pool.pop.2.free = [] ∧
          pool.pop.2.remote.items = [])) := by
  by_cases empty : pool.free = []
  · have drains : pool.pop = pool.drainRemote.popFree := if_pos (List.isEmpty_iff.mpr empty)
    rw [drains]
    obtain ⟨same, ⟨buffer, popped, inFlight⟩ | ⟨isFree, nothing⟩⟩ :=
      @popFree_cases pool.drainRemote
    · rw [inFlight_drainRemote] at inFlight
      exact ⟨sameUsers_drainRemote.trans same, .inl ⟨buffer, popped, inFlight⟩⟩
    · rw [nothing]
      exact ⟨sameUsers_drainRemote, .inr ⟨rfl, inFlight_drainRemote, isFree,
        items_drainRemote counted⟩⟩
  · rw [pop_of_free empty]
    obtain ⟨same, taken | ⟨isFree, _⟩⟩ := @popFree_cases pool
    · exact ⟨same, .inl taken⟩
    · exact absurd isFree empty

/-- What growing does to the buffers: there are more free ones. -/
theorem grow_cases :
    (pool.grow = none ∧ pool.maxBuffers ≤ pool.allocated) ∨
      ∃ larger, pool.grow = some larger ∧ SameUsers pool larger ∧ larger.free ≠ [] ∧
        larger.inFlight = pool.inFlight ∧ larger.remote = pool.remote := by
  rw [grow]
  by_cases full : pool.maxBuffers - pool.allocated = 0
  · rw [if_pos full]
    exact .inl ⟨rfl, Nat.le_of_sub_eq_zero full⟩
  · rw [if_neg full]
    refine .inr ⟨_, rfl, ⟨rfl, rfl, rfl⟩, ?_, rfl, rfl⟩
    intro empty
    have lengths := congrArg List.length empty
    rw [List.length_append, List.length_reverse, List.length_range'] at lengths
    have slab : 0 < slabSize := by decide
    simp only [List.length_nil] at lengths
    omega

/-- What an allocation does to the buffers.  It fails when none is free and the pool has
reached its limit. -/
theorem allocate_cases (counted : pool.remote.Counted) :
    SameUsers pool pool.allocate.2 ∧
      ((∃ buffer, pool.allocate.1 = some buffer ∧
          pool.allocate.2.inFlight = buffer :: pool.inFlight) ∨
        (pool.allocate.1 = none ∧ pool.allocate.2.inFlight = pool.inFlight ∧
          pool.allocate.2.free = [] ∧ pool.allocate.2.remote.items = [] ∧
            pool.allocate.2.maxBuffers ≤ pool.allocate.2.allocated)) := by
  rw [allocate]
  obtain ⟨same, ⟨buffer, popped, inFlight⟩ | ⟨nothing, inFlight, isFree, isItems⟩⟩ := pop_eq counted
  · generalize pool.pop = result at same popped inFlight ⊢
    obtain ⟨_, next⟩ := result
    cases popped
    exact ⟨same, .inl ⟨buffer, rfl, inFlight⟩⟩
  · generalize pool.pop = result at same nothing inFlight isFree isItems ⊢
    obtain ⟨_, next⟩ := result
    cases nothing
    dsimp only at same inFlight isFree isItems ⊢
    rcases @grow_cases next with ⟨isFull, full⟩ | ⟨larger, grown, sameLarger, more, lent, _⟩
    · rw [isFull]
      exact ⟨same, .inr ⟨rfl, inFlight, isFree, isItems, full⟩⟩
    · rw [grown]
      dsimp only
      rw [pop_of_free more]
      obtain ⟨sameTaken, ⟨buffer, popped, taken⟩ | ⟨empty, _⟩⟩ := @popFree_cases larger
      · rw [lent, inFlight] at taken
        exact ⟨same.trans (sameLarger.trans sameTaken), .inl ⟨buffer, popped, taken⟩⟩
      · exact absurd empty more

/-! ## Conservation -/

variable {maxBuffers : Nat}

theorem Conserved.ownerReaches {target : OsPool} (conserved : pool.Conserved maxBuffers)
    (reaches : OwnerReaches pool target) : target.Conserved maxBuffers := by
  induction reaches with
  | refl => exact conserved
  | tail _ stepped ih => exact ih.ownerStep stepped

theorem Conserved.allocate (conserved : pool.Conserved maxBuffers) (idle : pool.owner = .idle) :
    pool.allocate.2.Conserved maxBuffers := by
  have owed := conserved.owed
  rw [idle] at owed
  have ended := (conserved.beginPop owed false).ownerReaches pool.ownerReaches_allocate
  have stays := (allocate_cases conserved.counted).1.owner
  refine { ended with owed := ?_ }
  rw [stays, idle]
  exact ended.owed

/-- The buffers that are lent or whose return has not finished. -/
theorem Conserved.length_inFlight_le (conserved : pool.Conserved maxBuffers) :
    pool.remote.announced.length + pool.inFlight.length ≤ maxBuffers := by
  have bound := conserved.card_lent_le
  simp only [lent, Channel.content, Multiset.card_add, Multiset.coe_card] at bound
  omega

/-- An allocation fails exactly when all buffers that the pool may have are lent. -/
theorem Conserved.allocate_eq_none_iff (conserved : pool.Conserved maxBuffers)
    (idle : pool.owner = .idle) :
    pool.allocate.1 = none ↔
      pool.remote.announced.length + pool.inFlight.length = maxBuffers := by
  have after := conserved.allocate idle
  obtain ⟨same, ⟨buffer, popped, inFlight⟩ | ⟨nothing, inFlight, isFree, isItems, full⟩⟩ :=
    allocate_cases conserved.counted
  · rw [popped]
    refine iff_of_false nofun ?_
    have fits := after.length_inFlight_le
    rw [same.announced, inFlight, List.length_cons] at fits
    omega
  · refine iff_of_true nothing ?_
    have places := congrArg Multiset.card after.places
    rw [lent, Channel.content, isFree, isItems, inFlight, same.announced] at places
    simp only [Multiset.card_add, Multiset.coe_card, List.length_nil, List.length_range] at places
    have limit := after.limit
    rw [after.maximum] at full
    omega

end OsPool

end FastSocket.Os
