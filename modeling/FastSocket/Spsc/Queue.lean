import Mathlib.Data.List.Basic

/-!
# Rings as queues

What one side of a single-producer single-consumer ring can rely on, counted
without wrapping and without the slots: all entries that were ever published, how
many the other side has moved past, and how far the cached cursor lags behind.
The bounds between these counts are part of the types.
-/

namespace FastSocket.Spsc

universe u

variable {α : Type u}

/-- A ring as its user producer sees it.  `seen` is how much of `consumed` the
cached cursor knows of. -/
structure ProducerQueue (α : Type u) where
  capacity : Nat
  committed : List α
  consumed : Nat
  seen : Nat
  seen_le : seen ≤ consumed
  consumed_le : consumed ≤ committed.length
  room : committed.length ≤ seen + capacity

namespace ProducerQueue

variable (queue : ProducerQueue α)

def empty (capacity : Nat) : ProducerQueue α :=
  { capacity := capacity, committed := [], consumed := 0, seen := 0
    seen_le := Nat.le_refl 0, consumed_le := Nat.le_refl 0, room := Nat.zero_le _ }

/-- The published entries that are not consumed, oldest first. -/
def entries : List α :=
  queue.committed.drop queue.consumed

/-- Refreshes the cached consumer count. -/
def sync : ProducerQueue α :=
  { queue with
    seen := queue.consumed
    seen_le := Nat.le_refl _
    room := Nat.le_trans queue.room (Nat.add_le_add_right queue.seen_le _) }

/-- Free slots as far as the cursor knows. -/
def available : Nat :=
  queue.seen + queue.capacity - queue.committed.length

/-- How many of the wanted slots are reserved.  The cursor is refreshed when the
known free slots do not suffice. -/
def produceMany (wanted : Nat) : ProducerQueue α × Nat :=
  if wanted = 0 then
    (queue, 0)
  else
    let queue := if queue.available < wanted then queue.sync else queue
    (queue, min wanted queue.available)

/-- Publishes entries in reserved slots. -/
def publish (added : List α) : ProducerQueue α :=
  { queue with
    committed := queue.committed ++ added.take queue.available
    consumed_le := by
      rw [List.length_append]
      exact Nat.le_add_right_of_le queue.consumed_le
    room := by
      have room := queue.room
      rw [List.length_append, List.length_take, available]
      omega }

/-- The other side consumes entries. -/
def consume (count : Nat) : ProducerQueue α :=
  { queue with
    consumed := queue.consumed + min count queue.entries.length
    seen_le := Nat.le_add_right_of_le queue.seen_le
    consumed_le := by
      have le := queue.consumed_le
      rw [entries, List.length_drop]
      omega }

theorem length_entries : queue.entries.length = queue.committed.length - queue.consumed :=
  List.length_drop

@[simp]
theorem committed_sync : queue.sync.committed = queue.committed :=
  rfl

@[simp]
theorem entries_sync : queue.sync.entries = queue.entries :=
  rfl

/-- After a refresh the free slots are those without an unconsumed entry. -/
theorem available_sync : queue.sync.available = queue.capacity - queue.entries.length := by
  have consumed_le := queue.consumed_le
  rw [available, length_entries, sync]
  dsimp only
  omega

theorem available_le_capacity : queue.available ≤ queue.capacity := by
  have seen_le := queue.seen_le
  have consumed_le := queue.consumed_le
  rw [available]
  omega

variable {added : List α}

theorem committed_publish (fits : added.length ≤ queue.available) :
    (queue.publish added).committed = queue.committed ++ added :=
  congrArg (queue.committed ++ ·) (List.take_of_length_le fits)

theorem entries_publish (fits : added.length ≤ queue.available) :
    (queue.publish added).entries = queue.entries ++ added := by
  rw [entries, entries, queue.committed_publish fits]
  exact List.drop_append_of_le_length queue.consumed_le

/-- Consumption takes the oldest entries. -/
theorem entries_consume (count : Nat) :
    (queue.consume count).entries = queue.entries.drop count := by
  rw [entries, consume, ← List.drop_drop, ← entries]
  rcases Nat.le_total count queue.entries.length with le | le
  · rw [Nat.min_eq_left le]
  · rw [Nat.min_eq_right le, List.drop_length, List.drop_of_length_le le]

@[simp]
theorem available_consume (count : Nat) : (queue.consume count).available = queue.available :=
  rfl

/-- Slots that the cursor knows to be free are reserved as wanted. -/
theorem produceMany_of_le {wanted : Nat} (fits : wanted ≤ queue.available) :
    queue.produceMany wanted = (queue, wanted) := by
  rw [produceMany]
  split
  · rename_i none
    rw [none]
  · rw [if_neg (Nat.not_lt.mpr fits)]
    exact congrArg (queue, ·) (Nat.min_eq_left fits)

theorem produceMany_snd_le (wanted : Nat) :
    (queue.produceMany wanted).2 ≤ (queue.produceMany wanted).1.available := by
  rw [produceMany]
  split
  · exact Nat.zero_le _
  · exact Nat.min_le_right _ _

/-- Reserving at most refreshes the cursor. -/
theorem produceMany_fst (wanted : Nat) :
    (queue.produceMany wanted).1 = queue ∨ (queue.produceMany wanted).1 = queue.sync := by
  rw [produceMany]
  split
  · exact .inl rfl
  · dsimp only
    split
    · exact .inr rfl
    · exact .inl rfl

@[simp]
theorem committed_produceMany (wanted : Nat) :
    (queue.produceMany wanted).1.committed = queue.committed := by
  rcases queue.produceMany_fst wanted with same | synced
  · rw [same]
  · rw [synced, committed_sync]

@[simp]
theorem consumed_produceMany (wanted : Nat) :
    (queue.produceMany wanted).1.consumed = queue.consumed := by
  rcases queue.produceMany_fst wanted with same | synced
  · rw [same]
  · rw [synced, sync]

@[simp]
theorem entries_produceMany (wanted : Nat) :
    (queue.produceMany wanted).1.entries = queue.entries := by
  rw [entries, entries, committed_produceMany, consumed_produceMany]

@[simp]
theorem capacity_produceMany (wanted : Nat) :
    (queue.produceMany wanted).1.capacity = queue.capacity := by
  rcases queue.produceMany_fst wanted with same | synced
  · rw [same]
  · rw [synced, sync]

/-- No more slots are wanted than the ring has. -/
theorem produceMany_min {bound : Nat} (large : queue.capacity < bound) (wanted : Nat) :
    queue.produceMany (min wanted bound) = queue.produceMany wanted := by
  rcases Nat.le_total wanted bound with le | le
  · rw [Nat.min_eq_left le]
  · have known := queue.available_le_capacity
    have refreshed := queue.sync.available_le_capacity
    change queue.sync.available ≤ queue.capacity at refreshed
    have more : queue.available < bound ∧ queue.available < wanted := by omega
    have nonzero : bound ≠ 0 ∧ wanted ≠ 0 := by omega
    have least : min bound queue.sync.available = min wanted queue.sync.available := by omega
    rw [Nat.min_eq_right le]
    simp only [produceMany, if_neg nonzero.1, if_neg nonzero.2, if_pos more.1, if_pos more.2, least]

/-- Publishes as many leading entries as there are free slots. -/
def enqueueBatch (entries : List α) : Nat × ProducerQueue α :=
  let reserved := queue.produceMany entries.length
  (reserved.2, reserved.1.publish (entries.take reserved.2))

theorem length_take_produceMany (entries : List α) :
    (entries.take (queue.produceMany entries.length).2).length =
      (queue.produceMany entries.length).2 := by
  rw [List.length_take, produceMany]
  split
  · exact Nat.min_eq_left (Nat.zero_le _)
  · exact Nat.min_eq_left (Nat.min_le_left _ _)

theorem publish_nil : queue.publish [] = queue := by
  rw [publish]
  simp only [List.take_nil, List.append_nil]

end ProducerQueue

/-- A ring as its user consumer sees it.  `known` is how much of `published` the
cached cursor knows of. -/
structure ConsumerQueue (α : Type u) where
  capacity : Nat
  published : List α
  taken : Nat
  known : Nat
  taken_le : taken ≤ known
  known_le : known ≤ published.length
  room : published.length ≤ taken + capacity

namespace ConsumerQueue

variable (queue : ConsumerQueue α)

def empty (capacity : Nat) : ConsumerQueue α :=
  { capacity := capacity, published := [], taken := 0, known := 0
    taken_le := Nat.le_refl 0, known_le := Nat.le_refl 0, room := Nat.zero_le _ }

/-- The published entries that are not taken, oldest first. -/
def entries : List α :=
  queue.published.drop queue.taken

/-- Refreshes the cached producer count. -/
def sync : ConsumerQueue α :=
  { queue with
    known := queue.published.length
    taken_le := Nat.le_trans queue.taken_le queue.known_le
    known_le := Nat.le_refl _ }

/-- Entries to take as far as the cursor knows. -/
def available : Nat :=
  queue.known - queue.taken

/-- Moves past up to `wanted` of the known entries and releases them. -/
def advance (wanted : Nat) : ConsumerQueue α × List α :=
  ({ queue with
      taken := queue.taken + min wanted queue.available
      taken_le := by
        have le := queue.taken_le
        rw [available]
        omega
      room := by
        have room := queue.room
        omega },
    queue.entries.take (min wanted queue.available))

/-- Takes up to `wanted` entries.  The cursor is refreshed when the known entries do
not suffice. -/
def consumeMany (wanted : Nat) : ConsumerQueue α × List α :=
  if wanted = 0 then
    (queue, [])
  else if queue.available < wanted then
    queue.sync.advance wanted
  else
    queue.advance wanted

/-- The other side publishes an entry, if a slot is free. -/
def publish (entry : α) : Option (ConsumerQueue α) :=
  if free : queue.published.length < queue.taken + queue.capacity then
    some { queue with
      published := queue.published ++ [entry]
      known_le := by
        rw [List.length_append]
        exact Nat.le_add_right_of_le queue.known_le
      room := by
        rw [List.length_append]
        exact free }
  else
    none

theorem length_entries : queue.entries.length = queue.published.length - queue.taken :=
  List.length_drop

@[simp]
theorem entries_sync : queue.sync.entries = queue.entries :=
  rfl

theorem available_le : queue.available ≤ queue.entries.length := by
  rw [available, length_entries]
  exact Nat.sub_le_sub_right queue.known_le _

theorem advance_append (wanted : Nat) :
    (queue.advance wanted).2 ++ (queue.advance wanted).1.entries = queue.entries := by
  conv_rhs => rw [← List.take_append_drop (min wanted queue.available) queue.entries]
  rw [advance, entries, entries, List.drop_drop]

theorem taken_advance (wanted : Nat) :
    (queue.advance wanted).1.taken = queue.taken + (queue.advance wanted).2.length := by
  have le := queue.available_le
  rw [advance, List.length_take]
  dsimp only
  omega

/-- Taking entries is moving past known ones, after a refresh where needed. -/
theorem consumeMany_cases (wanted : Nat) :
    queue.consumeMany wanted = (queue, []) ∨
      queue.consumeMany wanted = queue.sync.advance wanted ∨
      queue.consumeMany wanted = queue.advance wanted := by
  rw [consumeMany]
  split
  · exact .inl rfl
  · split
    · exact .inr (.inl rfl)
    · exact .inr (.inr rfl)

/-- What is taken and what remains are the entries before. -/
theorem consumeMany_append (wanted : Nat) :
    (queue.consumeMany wanted).2 ++ (queue.consumeMany wanted).1.entries = queue.entries := by
  rcases queue.consumeMany_cases wanted with none | refreshed | known
  · rw [none, List.nil_append]
  · rw [refreshed, advance_append, entries_sync]
  · rw [known, advance_append]

theorem taken_consumeMany (wanted : Nat) :
    (queue.consumeMany wanted).1.taken =
      queue.taken + (queue.consumeMany wanted).2.length := by
  rcases queue.consumeMany_cases wanted with none | refreshed | known
  · rw [none, List.length_nil, Nat.add_zero]
  · rw [refreshed, taken_advance, sync]
  · rw [known, taken_advance]

theorem length_consumeMany_le (wanted : Nat) :
    (queue.consumeMany wanted).2.length ≤ wanted := by
  have advanced (other : ConsumerQueue α) : (other.advance wanted).2.length ≤ wanted := by
    rw [advance, List.length_take]
    exact Nat.le_trans (Nat.min_le_left _ _) (Nat.min_le_left _ _)
  rcases queue.consumeMany_cases wanted with none | refreshed | known
  · rw [none]
    exact Nat.zero_le wanted
  · rw [refreshed]
    exact advanced queue.sync
  · rw [known]
    exact advanced queue

theorem published_consumeMany (wanted : Nat) :
    (queue.consumeMany wanted).1.published = queue.published := by
  rcases queue.consumeMany_cases wanted with none | refreshed | known
  · rw [none]
  · rw [refreshed, advance, sync]
  · rw [known, advance]

theorem available_le_capacity : queue.available ≤ queue.capacity := by
  have known_le := queue.known_le
  have room := queue.room
  rw [available]
  omega

/-- No more entries are wanted than the ring has slots. -/
theorem consumeMany_min {bound : Nat} (large : queue.capacity < bound) (wanted : Nat) :
    queue.consumeMany (min wanted bound) = queue.consumeMany wanted := by
  rcases Nat.le_total wanted bound with le | le
  · rw [Nat.min_eq_left le]
  · have known := queue.available_le_capacity
    have refreshed := queue.sync.available_le_capacity
    change queue.sync.available ≤ queue.capacity at refreshed
    have more : queue.available < bound ∧ queue.available < wanted := by omega
    have nonzero : bound ≠ 0 ∧ wanted ≠ 0 := by omega
    have least : min bound queue.sync.available = min wanted queue.sync.available := by omega
    rw [Nat.min_eq_right le]
    simp only [consumeMany, if_neg nonzero.1, if_neg nonzero.2, if_pos more.1, if_pos more.2,
      advance, least]

variable {entry : α} {next : ConsumerQueue α}

theorem publish_spec (published : queue.publish entry = some next) :
    next.published = queue.published ++ [entry] ∧ next.taken = queue.taken ∧
      next.capacity = queue.capacity := by
  rw [publish] at published
  split at published
  · cases published
    exact ⟨rfl, rfl, rfl⟩
  · cases published

theorem entries_publish (published : queue.publish entry = some next) :
    next.entries = queue.entries ++ [entry] := by
  obtain ⟨history, taken, _⟩ := queue.publish_spec published
  rw [entries, history, taken]
  exact List.drop_append_of_le_length (Nat.le_trans queue.taken_le queue.known_le)

end ConsumerQueue

end FastSocket.Spsc
