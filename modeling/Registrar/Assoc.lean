/-!
This module contains the operations on ordered association lists: look a name up, and set a name
to a value in place or, if it is new, at the end. Names may repeat; the first entry counts.
-/

namespace Registrar.Assoc

variable {α : Type}

/-- The value of the first entry named `key`. -/
def find? (key : String) : List (String × α) → Option α
  | [] => none
  | (k, v) :: r => if k = key then some v else find? key r

/-- Set the first entry named `key`, or add one at the end. -/
def insert (key : String) (value : α) : List (String × α) → List (String × α)
  | [] => [(key, value)]
  | (k, v) :: r => if k = key then (k, value) :: r else (k, v) :: insert key value r

/-- The names of the entries, in order. -/
def names (entries : List (String × α)) : List String :=
  entries.map (·.1)

@[simp]
theorem find?_nil (key : String) : find? key ([] : List (String × α)) = none :=
  rfl

theorem find?_insert (key : String) (value : α) (entries : List (String × α)) (q : String) :
    find? q (insert key value entries) = if q = key then some value else find? q entries := by
  induction entries with
  | nil => grind [insert, find?]
  | cons e r ih => grind [insert, find?]

theorem find?_insert_self (key : String) (value : α) (entries : List (String × α)) :
    find? key (insert key value entries) = some value := by
  simp [find?_insert]

theorem find?_insert_of_ne {key q : String} (h : q ≠ key) (value : α)
    (entries : List (String × α)) : find? q (insert key value entries) = find? q entries := by
  simp [find?_insert, h]

theorem find?_isSome_iff (key : String) (entries : List (String × α)) :
    (find? key entries).isSome ↔ key ∈ names entries := by
  induction entries with
  | nil => simp [names]
  | cons e r ih => grind [find?, names]

theorem names_insert (key : String) (value : α) (entries : List (String × α)) :
    names (insert key value entries) =
      if key ∈ names entries then names entries else names entries ++ [key] := by
  induction entries with
  | nil => simp [insert, names]
  | cons e r ih => grind [insert, names]

theorem mem_insert {key : String} {value : α} {entries : List (String × α)} {e : String × α}
    (h : e ∈ insert key value entries) : e = (key, value) ∨ e ∈ entries := by
  induction entries with
  | nil => simpa [insert] using h
  | cons d r ih => grind [insert]

theorem mem_of_find?_eq_some {key : String} {value : α} {entries : List (String × α)}
    (h : find? key entries = some value) : (key, value) ∈ entries := by
  induction entries with
  | nil => simp at h
  | cons e r ih => grind [find?]

theorem find?_append (key : String) (a b : List (String × α)) :
    find? key (a ++ b) = (find? key a).or (find? key b) := by
  induction a with
  | nil => rfl
  | cons e r ih => grind [find?]

end Registrar.Assoc
