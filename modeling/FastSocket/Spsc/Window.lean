import Mathlib.Data.Nat.ModEq
import Mathlib.Data.List.Basic

/-!
# Ring slots as a window on a history

The entries of a ring have absolute indexes that never wrap; an entry sits in the
slot of its index modulo the number of slots.  The slots form a window on the
history of all entries: they hold the entries from some index on, as long as the
window is no longer than the ring.
-/

namespace FastSocket.Spsc

universe u

variable {α : Type u}

/-- The slot of an absolute index. -/
def slot (origin size index : Nat) : Nat :=
  (origin + index) % size

variable {origin size index : Nat}

theorem slot_lt (pos : 0 < size) : slot origin size index < size :=
  Nat.mod_lt _ pos

/-- Different indexes less than a ring apart have different slots. -/
theorem slot_ne {low high : Nat} (less : low < high) (near : high < low + size) :
    slot origin size low ≠ slot origin size high := by
  intro equal
  have congruent : origin + low ≡ origin + high [MOD size] := equal
  have divides := (Nat.modEq_iff_dvd' (by omega)).mp congruent
  have distance := Nat.le_of_dvd (by omega) divides
  omega

/-- Moving on inside a ring without wrapping. -/
theorem slot_add {more : Nat} (inside : slot origin size index + more < size) :
    slot origin size (index + more) = slot origin size index + more := by
  rw [slot, ← Nat.add_assoc, Nat.add_mod, Nat.add_mod_mod]
  exact Nat.mod_eq_of_lt inside

/-- Stores entries at consecutive indexes. -/
def storeFrom (origin : Nat) : (slots : List α) → (index : Nat) → List α → List α
  | slots, _, [] => slots
  | slots, index, entry :: rest =>
    storeFrom origin (slots.set (slot origin slots.length index) entry) (index + 1) rest

/-- Reads entries at consecutive indexes. -/
def readFrom (origin : Nat) (slots : List α) : (index count : Nat) → List α
  | _, 0 => []
  | index, count + 1 =>
    (slots[slot origin slots.length index]?).toList ++ readFrom origin slots (index + 1) count

@[simp]
theorem length_storeFrom (origin : Nat) (slots : List α) (index : Nat) (entries : List α) :
    (storeFrom origin slots index entries).length = slots.length := by
  induction entries generalizing slots index with
  | nil => rfl
  | cons entry rest ih => rw [storeFrom, ih, List.length_set]

theorem storeFrom_append (origin : Nat) (slots : List α) (index : Nat) (first second : List α) :
    storeFrom origin slots index (first ++ second) =
      storeFrom origin (storeFrom origin slots index first) (index + first.length) second := by
  induction first generalizing slots index with
  | nil => rfl
  | cons entry rest ih =>
    rw [List.cons_append, storeFrom, ih, storeFrom, List.length_cons, Nat.add_assoc,
      Nat.add_comm 1]

theorem readFrom_add (origin : Nat) (slots : List α) (index first second : Nat) :
    readFrom origin slots index (first + second) =
      readFrom origin slots index first ++ readFrom origin slots (index + first) second := by
  induction first generalizing index with
  | zero => simp [readFrom]
  | succ first ih =>
    rw [Nat.succ_add, readFrom, ih, readFrom, List.append_assoc, Nat.add_assoc index 1,
      Nat.add_comm 1]

/-- Storing entries that do not wrap overwrites a block of slots. -/
theorem storeFrom_eq_block (origin : Nat) (slots : List α) (index : Nat) (entries : List α)
    (inside : slot origin slots.length index + entries.length ≤ slots.length) :
    storeFrom origin slots index entries =
      slots.take (slot origin slots.length index) ++ entries ++
        slots.drop (slot origin slots.length index + entries.length) := by
  induction entries generalizing slots index with
  | nil => simp [storeFrom]
  | cons entry rest ih =>
    rw [List.length_cons] at inside
    have position : slot origin slots.length index < slots.length := by omega
    rw [storeFrom]
    rcases rest with _ | ⟨second, rest⟩
    · rw [storeFrom, List.set_eq_take_append_cons_drop, if_pos position, List.append_assoc]
      rfl
    · rw [List.length_cons] at inside
      have next : slot origin slots.length (index + 1) =
          slot origin slots.length index + 1 := slot_add (by omega)
      rw [ih _ _ (by rw [List.length_set, next, List.length_cons]; omega), List.length_set, next,
        List.drop_set_of_lt (by omega), List.take_set, List.set_eq_take_append_cons_drop,
        if_pos (by rw [List.length_take]; omega), List.take_take, List.drop_take]
      simp only [List.length_cons, Nat.min_eq_left (Nat.le_succ _),
        Nat.sub_self, List.take_zero, List.append_assoc, List.cons_append, List.nil_append]
      rw [Nat.add_assoc (slot origin slots.length index) 1, Nat.add_comm 1]

/-- Reading entries that do not wrap is taking a block of slots. -/
theorem readFrom_eq_block (origin : Nat) (slots : List α) (index count : Nat)
    (inside : slot origin slots.length index + count ≤ slots.length) :
    readFrom origin slots index count =
      (slots.drop (slot origin slots.length index)).take count := by
  induction count generalizing index with
  | zero => simp [readFrom]
  | succ count ih =>
    have position : slot origin slots.length index < slots.length := by omega
    rw [readFrom, List.getElem?_eq_getElem position, List.drop_eq_getElem_cons position,
      List.take_succ_cons]
    rcases count with _ | count
    · simp [readFrom]
    · have next : slot origin slots.length (index + 1) =
          slot origin slots.length index + 1 := slot_add (by omega)
      rw [ih (index + 1) (by omega), next]
      rfl

/-! ## Windows -/

/-- The slots hold the entries of a history from an index on. -/
def Window (origin : Nat) (slots history : List α) (low : Nat) : Prop :=
  ∀ index, low ≤ index → index < history.length →
    slots[slot origin slots.length index]? = history[index]?

variable {slots history : List α} {low : Nat}

theorem Window.mono {higher : Nat} (window : Window origin slots history low)
    (le : low ≤ higher) : Window origin slots history higher :=
  fun index above inside => window index (Nat.le_trans le above) inside

theorem window_of_length_le (le : history.length ≤ low) : Window origin slots history low :=
  fun _ above inside => absurd (Nat.lt_of_lt_of_le inside le) (Nat.not_lt_of_le above)

/-- Storing the next entry of the history in a window that has room. -/
theorem Window.store (window : Window origin slots history low) (above : low ≤ history.length)
    (room : history.length < low + slots.length) (entry : α) :
    Window origin (slots.set (slot origin slots.length history.length) entry)
      (history ++ [entry]) low := by
  intro index atLeast inside
  rw [List.length_append, List.length_singleton] at inside
  rw [List.length_set]
  rcases Nat.lt_succ_iff_lt_or_eq.mp inside with less | rfl
  · rw [List.getElem?_set_ne (slot_ne less (by omega)).symm, window index atLeast less,
      List.getElem?_append_left less]
  · rw [List.getElem?_set_self (slot_lt (by omega)), List.getElem?_concat_length]

/-- Storing the next entries of the history in a window that has room. -/
theorem Window.storeFrom (window : Window origin slots history low)
    (above : low ≤ history.length) (entries : List α)
    (room : history.length + entries.length ≤ low + slots.length) :
    Window origin (storeFrom origin slots history.length entries) (history ++ entries) low := by
  induction entries generalizing slots history with
  | nil => rwa [Spsc.storeFrom, List.append_nil]
  | cons entry rest ih =>
    rw [List.length_cons] at room
    have next := ih (window.store above (by omega) entry)
      (by rw [List.length_append]; omega)
      (by rw [List.length_append, List.length_singleton, List.length_set]; omega)
    rw [List.length_append, List.length_singleton, List.append_assoc] at next
    exact next

/-- Reading from a window yields the history. -/
theorem Window.readFrom (window : Window origin slots history low) {count : Nat}
    (above : low ≤ index) (inside : index + count ≤ history.length) :
    readFrom origin slots index count = (history.drop index).take count := by
  induction count generalizing index with
  | zero => simp [Spsc.readFrom]
  | succ count ih =>
    have present : index < history.length := by omega
    rw [Spsc.readFrom, window index above present, ih (by omega) (by omega),
      List.getElem?_eq_getElem present, List.drop_eq_getElem_cons present, List.take_succ_cons]
    rfl

end FastSocket.Spsc
