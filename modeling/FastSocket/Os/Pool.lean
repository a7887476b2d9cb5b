import FastSocket.Mpsc.Channel
import FastSocket.Transition.Run

/-!
# The OS buffer pool

One thread owns a pool and allocates from it; buffers are dropped on any thread.  A
buffer dropped by the owner goes to the local free list, one dropped elsewhere to a
bounded remote queue that the owner drains when its free list is empty.  The steps
are the single atomic operations, in any interleaving; work of the owner on its own
data belongs to the step before it.

A buffer is named by the order in which it was created.
-/

namespace FastSocket.Os

open Mpsc Transition

/-- A backing buffer. -/
abbrev Buffer :=
  Nat

def slabSize : Nat := 64

/-- Where the owner stands in an allocation.  The pool is popped again after it has
grown. -/
inductive OwnerPhase where
  | idle
  /-- The free list is empty; the length of the remote queue is read next. -/
  | testing (grown : Bool)
  /-- Items are popped from the remote queue, `drained` of them so far. -/
  | draining (grown : Bool) (drained : Nat)
  /-- The drained items are taken off the counter next. -/
  | settling (grown : Bool) (drained : Nat)
  /-- The free list is popped next. -/
  | popping (grown : Bool)
deriving DecidableEq, Repr

structure OsPool where
  maxBuffers : Nat
  /-- The local free list, the buffer that was pushed last first. -/
  free : List Buffer
  remote : Channel Buffer
  allocated : Nat
  owner : OwnerPhase
  /-- Buffers in the hands of the application, on any thread. -/
  inFlight : List Buffer
  /-- What the last allocation returned. -/
  returned : Option (Option Buffer)
  /-- A remote push found the queue full. -/
  overflowed : Bool
deriving DecidableEq, Repr

namespace OsPool

def withMaxBuffers (maxBuffers : Nat) : OsPool :=
  { maxBuffers := maxBuffers
    free := []
    remote := .empty (max maxBuffers 1)
    allocated := 0
    owner := .idle
    inFlight := []
    returned := none
    overflowed := false }

variable (pool : OsPool)

/-- Starts to pop the pool: the remote queue is looked at when the free list is
empty. -/
def beginPop (grown : Bool) : OsPool :=
  { pool with owner := if pool.free.isEmpty then .testing grown else .popping grown }

/-- Ends an allocation. -/
def endAllocation (result : Option Buffer) : OsPool :=
  { pool with owner := .idle, returned := some result }

/-- Adds a slab of buffers up to the limit, unless the limit is reached. -/
def grow : Option OsPool :=
  let remaining := pool.maxBuffers - pool.allocated
  if remaining = 0 then
    none
  else
    let chunk := min slabSize remaining
    some { pool with
      free := (List.range' pool.allocated chunk).reverse ++ pool.free
      allocated := pool.allocated + chunk }

/-- The next step of the owner in an allocation. -/
def ownerStep : Option OsPool :=
  match pool.owner with
  | .idle => none
  | .testing grown =>
    if pool.remote.len = 0 then
      some { pool with owner := .popping grown }
    else
      some { pool with owner := .draining grown 0 }
  | .draining grown drained =>
    match pool.remote.dequeue with
    | some (buffer, remote) =>
      some { pool with
        free := buffer :: pool.free
        remote := remote
        owner := .draining grown (drained + 1) }
    | none =>
      if drained > 0 then
        some { pool with owner := .settling grown drained }
      else
        some { pool with owner := .popping grown }
  | .settling grown drained =>
    some { pool with remote := pool.remote.settle drained, owner := .popping grown }
  | .popping grown =>
    match pool.free with
    | buffer :: free =>
      let taken := { pool with free := free, inFlight := buffer :: pool.inFlight }
      some (taken.endAllocation (some buffer))
    | [] =>
      if grown then
        some (pool.endAllocation none)
      else
        match pool.grow with
        | none => some (pool.endAllocation none)
        | some pool => some (pool.beginPop true)

/-- The steps of the owner in an allocation, each with what it finds. -/
inductive OwnerMove (pool : OsPool) : OsPool → Prop where
  | skip {grown : Bool} (isOwner : pool.owner = .testing grown) (zero : pool.remote.len = 0) :
      OwnerMove pool { pool with owner := .popping grown }
  | look {grown : Bool} (isOwner : pool.owner = .testing grown) (counted : pool.remote.len ≠ 0) :
      OwnerMove pool { pool with owner := .draining grown 0 }
  | drain {grown : Bool} {drained : Nat} {buffer : Buffer} {remote : Channel Buffer}
      (isOwner : pool.owner = .draining grown drained)
      (dequeued : pool.remote.dequeue = some (buffer, remote)) :
      OwnerMove pool { pool with
        free := buffer :: pool.free
        remote := remote
        owner := .draining grown (drained + 1) }
  | drained {grown : Bool} {drained : Nat} (isOwner : pool.owner = .draining grown drained)
      (nothing : pool.remote.items = []) (positive : 0 < drained) :
      OwnerMove pool { pool with owner := .settling grown drained }
  | vanished {grown : Bool} (isOwner : pool.owner = .draining grown 0)
      (nothing : pool.remote.items = []) :
      OwnerMove pool { pool with owner := .popping grown }
  | settle {grown : Bool} {drained : Nat} (isOwner : pool.owner = .settling grown drained) :
      OwnerMove pool { pool with
        remote := pool.remote.settle drained
        owner := .popping grown }
  | pop {grown : Bool} {buffer : Buffer} {free : List Buffer}
      (isOwner : pool.owner = .popping grown) (isFree : pool.free = buffer :: free) :
      OwnerMove pool (endAllocation
        { pool with free := free, inFlight := buffer :: pool.inFlight } (some buffer))
  | fail {grown : Bool} (isOwner : pool.owner = .popping grown) (isFree : pool.free = [])
      (full : grown = true ∨ pool.grow = none) : OwnerMove pool (pool.endAllocation none)
  | grow {larger : OsPool} (isOwner : pool.owner = .popping false) (isFree : pool.free = [])
      (isGrown : pool.grow = some larger) : OwnerMove pool (larger.beginPop true)

theorem ownerMove_of_ownerStep {pool target : OsPool} (stepped : pool.ownerStep = some target) :
    OwnerMove pool target := by
  rw [ownerStep] at stepped
  cases isOwner : pool.owner with
  | idle =>
    rw [isOwner] at stepped
    cases stepped
  | testing grown =>
    simp only [isOwner] at stepped
    split at stepped
    · cases stepped
      exact .skip isOwner ‹_›
    · cases stepped
      exact .look isOwner ‹_›
  | draining grown drained =>
    simp only [isOwner] at stepped
    split at stepped
    · cases stepped
      exact .drain isOwner ‹_›
    · have nothing := Channel.dequeue_eq_none ‹_›
      split at stepped
      · cases stepped
        exact .drained isOwner nothing ‹_›
      · cases stepped
        obtain rfl : drained = 0 := by omega
        exact .vanished isOwner nothing
  | settling grown drained =>
    simp only [isOwner] at stepped
    cases stepped
    exact .settle isOwner
  | popping grown =>
    simp only [isOwner] at stepped
    split at stepped
    · cases stepped
      exact .pop isOwner ‹_›
    · have isFree : pool.free = [] := ‹_›
      cases grown with
      | true =>
        cases stepped
        exact .fail isOwner isFree (.inl rfl)
      | false =>
        cases isGrown : pool.grow with
        | none =>
          simp only [isGrown] at stepped
          cases stepped
          exact .fail isOwner isFree (.inr isGrown)
        | some larger =>
          simp only [isGrown] at stepped
          cases stepped
          exact .grow isOwner isFree isGrown

end OsPool

/-- The steps of a pool. -/
inductive PoolAction where
  | beginAllocation
  | ownerStep
  /-- The owner thread drops a buffer. -/
  | dropLocal (buffer : Buffer)
  /-- Another thread drops a buffer and counts it. -/
  | announceRemote (buffer : Buffer)
  /-- That thread pushes the buffer. -/
  | pushRemote (buffer : Buffer)
deriving DecidableEq, Repr

def OsPool.step (pool : OsPool) : PoolAction → Option OsPool
  | .beginAllocation =>
    if pool.owner = .idle then
      some { pool.beginPop false with returned := none }
    else
      none
  | .ownerStep => pool.ownerStep
  | .dropLocal buffer =>
    if pool.owner = .idle ∧ buffer ∈ pool.inFlight then
      some { pool with
        free := buffer :: pool.free
        inFlight := pool.inFlight.erase buffer }
    else
      none
  | .announceRemote buffer =>
    if buffer ∈ pool.inFlight then
      some { pool with
        remote := pool.remote.announce buffer
        inFlight := pool.inFlight.erase buffer }
    else
      none
  | .pushRemote buffer =>
    if buffer ∈ pool.remote.announced then
      match pool.remote.enqueue buffer with
      | some remote => some { pool with remote := remote }
      | none => some { pool with remote := pool.remote.retract buffer, overflowed := true }
    else
      none

end FastSocket.Os
