import Mathlib.Algebra.Order.Group.Multiset
import Mathlib.Tactic.Abel

/-!
# Bounded queues with a separate length counter

Many producers add items to a bounded queue that one consumer drains.  A producer
first counts its item and then enqueues it; the consumer dequeues items one by one
and takes them off the count at the end.  So the counter is ahead of the queue by the
items that are announced and by those that are dequeued and not yet settled.  Each
operation is one atomic step.
-/

namespace FastSocket.Mpsc

universe u

variable {α : Type u}

/-- A queue with its counter.  The counter is an integer, so that it could be seen
to go below zero. -/
structure Channel (α : Type u) where
  capacity : Nat
  items : List α
  announced : List α
  owed : Nat
  len : Int
deriving DecidableEq, Repr

namespace Channel

def empty (capacity : Nat) : Channel α :=
  { capacity := capacity, items := [], announced := [], owed := 0, len := 0 }

/-- Counts an item that is about to be enqueued. -/
def announce (channel : Channel α) (item : α) : Channel α :=
  { channel with announced := item :: channel.announced, len := channel.len + 1 }

/-- Enqueues an announced item, unless the queue is full. -/
def enqueue [DecidableEq α] (channel : Channel α) (item : α) : Option (Channel α) :=
  if channel.items.length < channel.capacity then
    some { channel with
      items := channel.items ++ [item]
      announced := channel.announced.erase item }
  else
    none

/-- Dequeues the oldest item. -/
def dequeue (channel : Channel α) : Option (α × Channel α) :=
  match channel.items with
  | [] => none
  | item :: rest => some (item, { channel with items := rest, owed := channel.owed + 1 })

/-- Takes back an announcement. -/
def retract [DecidableEq α] (channel : Channel α) (item : α) : Channel α :=
  { channel with announced := channel.announced.erase item, len := channel.len - 1 }

/-- Takes dequeued items off the count. -/
def settle (channel : Channel α) (count : Nat) : Channel α :=
  { channel with owed := channel.owed - count, len := channel.len - count }

/-- The items between announcement and dequeuing. -/
def content (channel : Channel α) : Multiset α :=
  ↑channel.items + ↑channel.announced

/-- The counter is ahead of the queue by what is announced and what is owed. -/
def Counted (channel : Channel α) : Prop :=
  channel.len = channel.items.length + channel.announced.length + channel.owed

theorem counted_empty (capacity : Nat) : (empty capacity : Channel α).Counted :=
  rfl

variable {channel target : Channel α} {item : α}

theorem Counted.nonneg (counted : channel.Counted) : 0 ≤ channel.len := by
  rw [counted]
  omega

/-- An empty counter means that there is no item. -/
theorem Counted.items_eq_nil (counted : channel.Counted) (zero : channel.len = 0) :
    channel.items = [] := by
  rw [Counted, zero] at counted
  apply List.eq_nil_of_length_eq_zero
  omega

theorem Counted.announce (counted : channel.Counted) (item : α) :
    (channel.announce item).Counted := by
  change channel.len + 1 = channel.items.length + ((channel.announced.length + 1 : Nat) : Int) +
    channel.owed
  rw [counted]
  omega

theorem enqueue_eq_some [DecidableEq α] (enqueued : channel.enqueue item = some target) :
    target = { channel with
      items := channel.items ++ [item]
      announced := channel.announced.erase item } := by
  rw [enqueue] at enqueued
  split at enqueued
  · cases enqueued
    rfl
  · cases enqueued

theorem Counted.enqueue [DecidableEq α] (counted : channel.Counted)
    (announced : item ∈ channel.announced) (enqueued : channel.enqueue item = some target) :
    target.Counted := by
  cases enqueue_eq_some enqueued
  have shorter := List.length_erase_of_mem announced
  have positive := List.length_pos_of_mem announced
  simp only [Counted, List.length_append, List.length_singleton, shorter]
  rw [counted]
  omega

theorem dequeue_eq_some (dequeued : channel.dequeue = some (item, target)) :
    ∃ rest, channel.items = item :: rest ∧
      target = { channel with items := rest, owed := channel.owed + 1 } := by
  rw [dequeue] at dequeued
  split at dequeued
  · cases dequeued
  · rename_i rest isItems
    cases dequeued
    exact ⟨rest, isItems, rfl⟩

theorem dequeue_eq_none (nothing : channel.dequeue = none) : channel.items = [] := by
  rw [dequeue] at nothing
  split at nothing
  · assumption
  · cases nothing

theorem Counted.dequeue (counted : channel.Counted)
    (dequeued : channel.dequeue = some (item, target)) : target.Counted := by
  obtain ⟨rest, isItems, rfl⟩ := dequeue_eq_some dequeued
  simp only [Counted]
  rw [counted, isItems, List.length_cons]
  omega

theorem Counted.settle (counted : channel.Counted) {count : Nat} (owed : count ≤ channel.owed) :
    (channel.settle count).Counted := by
  simp only [Counted, Channel.settle]
  rw [counted]
  omega

theorem content_announce (channel : Channel α) (item : α) :
    (channel.announce item).content = channel.content + {item} := by
  simp only [content, announce]
  rw [← Multiset.cons_coe, ← Multiset.singleton_add]
  abel

theorem content_enqueue [DecidableEq α] (announced : item ∈ channel.announced)
    (enqueued : channel.enqueue item = some target) : target.content = channel.content := by
  cases enqueue_eq_some enqueued
  have removed := Multiset.cons_erase (Multiset.mem_coe.mpr announced)
  simp only [content]
  rw [← Multiset.coe_add, ← Multiset.coe_erase, ← removed, Multiset.erase_cons_head,
    ← Multiset.singleton_add, Multiset.coe_singleton]
  abel

theorem content_dequeue (dequeued : channel.dequeue = some (item, target)) :
    channel.content = target.content + {item} := by
  obtain ⟨rest, isItems, rfl⟩ := dequeue_eq_some dequeued
  simp only [content]
  rw [isItems, ← Multiset.cons_coe, ← Multiset.singleton_add]
  abel

theorem card_content (channel : Channel α) :
    channel.content.card = channel.items.length + channel.announced.length := by
  rw [content, Multiset.card_add, Multiset.coe_card, Multiset.coe_card]

/-- An announced item finds a place in a queue that has room for the whole
content. -/
theorem exists_enqueue [DecidableEq α] (announced : item ∈ channel.announced)
    (room : channel.content.card ≤ channel.capacity) :
    ∃ target, channel.enqueue item = some target := by
  have positive := List.length_pos_of_mem announced
  rw [card_content] at room
  rw [enqueue, if_pos (by omega)]
  exact ⟨_, rfl⟩

end Channel

end FastSocket.Mpsc
