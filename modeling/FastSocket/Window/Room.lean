import Mathlib.Data.List.Basic

/-!
# Windows with room at both ends

A window is a range of the cells of an area.  It grows into the cells around it by
overwriting them, and shrinks without touching any cell.  What it shows is a list of
values, and the room around it bounds how far it can grow.
-/

namespace FastSocket.Window

universe u

variable {α : Type u}

/-! ## Overwritten cells -/

/-- Overwrites the cells from an offset on. -/
def overwrite (cells : List α) (offset : Nat) (values : List α) : List α :=
  cells.take offset ++ values ++ cells.drop (offset + values.length)

variable {values : List α} {offset : Nat}

theorem length_overwrite {cells : List α} (inside : offset + values.length ≤ cells.length) :
    (overwrite cells offset values).length = cells.length := by
  rw [overwrite, List.length_append, List.length_append, List.length_take, List.length_drop]
  omega

theorem overwrite_append_right (front rest : List α) (offset : Nat) (values : List α) :
    overwrite (front ++ rest) (front.length + offset) values =
      front ++ overwrite rest offset values := by
  rw [overwrite, overwrite, List.take_length_add_append, Nat.add_assoc,
    List.drop_length_add_append, List.append_assoc, List.append_assoc, List.append_assoc]

theorem overwrite_append_left {front : List α} (inside : offset + values.length ≤ front.length)
    (rest : List α) :
    overwrite (front ++ rest) offset values = overwrite front offset values ++ rest := by
  rw [overwrite, overwrite, List.take_append_of_le_length (by omega),
    List.drop_append_of_le_length inside, List.append_assoc, List.append_assoc, List.append_assoc]

/-! ## Windows -/

/-- The cells from `start` to `stop` hold the values. -/
def Occupies (cells : List α) (start stop : Nat) (values : List α) : Prop :=
  ∃ front back, cells = front ++ values ++ back ∧ front.length = start ∧
    start + values.length = stop

namespace Occupies

variable {cells : List α} {start stop : Nat}

theorem length_eq (occupies : Occupies cells start stop values) : start + values.length = stop := by
  obtain ⟨_, _, _, _, length⟩ := occupies
  exact length

theorem le_length (occupies : Occupies cells start stop values) : stop ≤ cells.length := by
  obtain ⟨front, back, rfl, rfl, rfl⟩ := occupies
  rw [List.length_append, List.length_append]
  exact Nat.le_add_right _ _

theorem slice_eq (occupies : Occupies cells start stop values) :
    (cells.drop start).take (stop - start) = values := by
  obtain ⟨front, back, rfl, rfl, rfl⟩ := occupies
  rw [List.append_assoc, List.drop_left, Nat.add_sub_cancel_left, List.take_left]

/-- Every range inside the area is a window. -/
theorem of_le (ordered : start ≤ stop) (inside : stop ≤ cells.length) :
    Occupies cells start stop ((cells.drop start).take (stop - start)) := by
  refine ⟨cells.take start, (cells.drop start).drop (stop - start), ?_, ?_, ?_⟩
  · rw [List.append_assoc, List.take_append_drop, List.take_append_drop]
  · rw [List.length_take]
    omega
  · rw [List.length_take, List.length_drop]
    omega

variable {added : List α} {count : Nat}

/-- Values written right in front of a window extend it. -/
theorem pushFront (occupies : Occupies cells start stop values) (fits : added.length ≤ start) :
    Occupies (overwrite cells (start - added.length) added) (start - added.length) stop
      (added ++ values) := by
  obtain ⟨front, back, rfl, rfl, rfl⟩ := occupies
  refine ⟨front.take (front.length - added.length), back, ?_, ?_, ?_⟩
  · rw [overwrite, Nat.sub_add_cancel fits, List.append_assoc front,
      List.take_append_of_le_length (Nat.sub_le _ _), List.drop_left]
    simp only [List.append_assoc]
  · rw [List.length_take]
    omega
  · rw [List.length_append]
    omega

/-- Values written right behind a window extend it. -/
theorem pushBack (occupies : Occupies cells start stop values)
    (fits : stop + added.length ≤ cells.length) :
    Occupies (overwrite cells stop added) start (stop + added.length) (values ++ added) := by
  obtain ⟨front, back, rfl, rfl, rfl⟩ := occupies
  have room : added.length ≤ back.length := by
    rw [List.length_append, List.length_append] at fits
    omega
  refine ⟨front, back.drop added.length, ?_, rfl, ?_⟩
  · rw [← List.length_append, overwrite, List.take_left, List.drop_length_add_append]
    simp only [List.append_assoc]
  · rw [List.length_append, Nat.add_assoc]

theorem dropFront (occupies : Occupies cells start stop values) (inside : count ≤ values.length) :
    Occupies cells (start + count) stop (values.drop count) := by
  obtain ⟨front, back, rfl, rfl, rfl⟩ := occupies
  refine ⟨front ++ values.take count, back, ?_, ?_, ?_⟩
  · rw [List.append_assoc front (values.take count), List.take_append_drop]
  · rw [List.length_append, List.length_take]
    omega
  · rw [List.length_drop]
    omega

theorem dropBack (occupies : Occupies cells start stop values) (inside : count ≤ values.length) :
    Occupies cells start (stop - count) (values.take (values.length - count)) := by
  obtain ⟨front, back, rfl, rfl, rfl⟩ := occupies
  refine ⟨front, values.drop (values.length - count) ++ back, ?_, rfl, ?_⟩
  · rw [List.append_assoc front (values.take _), ← List.append_assoc (values.take _),
      List.take_append_drop, List.append_assoc]
  · rw [List.length_take]
    omega

end Occupies

/-! ## What a window shows -/

/-- Values with room for more at both ends. -/
structure Room (α : Type u) where
  before : Nat
  values : List α
  after : Nat
deriving DecidableEq, Repr

namespace Room

variable (room : Room α)

/-- The number of values that there are or that there is room for. -/
def total : Nat :=
  room.before + room.values.length + room.after

def pushFront (added : List α) : Option (Room α) :=
  if added.length ≤ room.before then
    some { room with before := room.before - added.length, values := added ++ room.values }
  else
    none

def pushBack (added : List α) : Option (Room α) :=
  if added.length ≤ room.after then
    some { room with values := room.values ++ added, after := room.after - added.length }
  else
    none

def dropFront (count : Nat) : Option (Room α) :=
  if count ≤ room.values.length then
    some { room with before := room.before + count, values := room.values.drop count }
  else
    none

def dropBack (count : Nat) : Option (Room α) :=
  if count ≤ room.values.length then
    some { room with
      values := room.values.take (room.values.length - count)
      after := room.after + count }
  else
    none

end Room

end FastSocket.Window
