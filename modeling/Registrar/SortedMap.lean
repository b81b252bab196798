import Registrar.Assoc

/-!
This module contains maps from names to values whose entries are kept in the order of their names.
Texts are ordered by the code points of their characters.
-/

namespace Registrar

namespace SortedMap

variable {α : Type}

/-- Set `key` in a list of entries ordered by name. -/
def insertEntry (key : String) (value : α) : List (String × α) → List (String × α)
  | [] => [(key, value)]
  | (k, v) :: r =>
    if key < k then (key, value) :: (k, v) :: r
    else if key = k then (key, value) :: r
    else (k, v) :: insertEntry key value r

def Sorted (entries : List (String × α)) : Prop :=
  entries.Pairwise (·.1 < ·.1)

theorem mem_insertEntry {key : String} {value : α} {entries : List (String × α)}
    {e : String × α} (h : e ∈ insertEntry key value entries) : e = (key, value) ∨ e ∈ entries := by
  induction entries with
  | nil => simpa [insertEntry] using h
  | cons d r ih => grind [insertEntry]

theorem lt_of_not_lt_of_ne {a b : String} (h₁ : ¬ a < b) (h₂ : a ≠ b) : b < a := by
  rcases Decidable.em (b < a) with h | h
  . exact h
  . exact absurd (String.le_antisymm (String.not_lt.1 h) (String.not_lt.1 h₁)) h₂

theorem sorted_insertEntry (key : String) (value : α) {entries : List (String × α)}
    (h : Sorted entries) : Sorted (insertEntry key value entries) := by
  induction entries with
  | nil => simp [insertEntry, Sorted]
  | cons d r ih =>
    obtain ⟨k, v⟩ := d
    obtain ⟨hd, hr⟩ := List.pairwise_cons.1 h
    rw [insertEntry]
    split
    . next hlt =>
        refine List.pairwise_cons.2 ⟨fun e he => ?_, h⟩
        rcases List.mem_cons.1 he with rfl | he
        . exact hlt
        . exact String.lt_trans hlt (hd e he)
    . next hlt =>
        split
        . next heq =>
            subst heq
            exact List.pairwise_cons.2 ⟨hd, hr⟩
        . next hne =>
            refine List.pairwise_cons.2 ⟨fun e he => ?_, ih hr⟩
            rcases mem_insertEntry he with rfl | he
            . exact lt_of_not_lt_of_ne hlt hne
            . exact hd e he

end SortedMap

/-- Entries ordered by their names, which are distinct. -/
structure SortedMap (α : Type) where
  entries : List (String × α) := []
  sorted : SortedMap.Sorted entries := by exact List.Pairwise.nil

namespace SortedMap

variable {α : Type}

instance : Inhabited (SortedMap α) := ⟨{}⟩

instance [DecidableEq α] : DecidableEq (SortedMap α) := fun a b =>
  if h : a.entries = b.entries then
    isTrue (by cases a; cases b; simp_all)
  else
    isFalse fun hab => h (by rw [hab])

@[ext]
theorem ext {a b : SortedMap α} (h : a.entries = b.entries) : a = b := by
  cases a
  cases b
  simp_all

/-- Set `key` to `value`. -/
def insert (m : SortedMap α) (key : String) (value : α) : SortedMap α :=
  ⟨insertEntry key value m.entries, sorted_insertEntry key value m.sorted⟩

/-- The value of `key`. -/
def find? (m : SortedMap α) (key : String) : Option α :=
  Assoc.find? key m.entries

/-- Enter a list of entries one after the other; of entries with one name the last counts. -/
def ofList (entries : List (String × α)) : SortedMap α :=
  entries.foldl (fun m e => m.insert e.1 e.2) {}

def toList (m : SortedMap α) : List (String × α) :=
  m.entries

theorem find?_insertEntry (key : String) (value : α) (entries : List (String × α)) (q : String) :
    Sorted entries → Assoc.find? q (insertEntry key value entries) =
      if q = key then some value else Assoc.find? q entries := by
  induction entries with
  | nil => grind [insertEntry, Assoc.find?]
  | cons d r ih =>
    intro h
    obtain ⟨k, v⟩ := d
    have hr := (List.pairwise_cons.1 h).2
    rw [insertEntry]
    split
    . next => grind [Assoc.find?]
    . next =>
        split
        . next => grind [Assoc.find?]
        . next =>
            have := ih hr
            grind [Assoc.find?]

@[simp]
theorem find?_insert (m : SortedMap α) (key : String) (value : α) (q : String) :
    (m.insert key value).find? q = if q = key then some value else m.find? q :=
  find?_insertEntry key value m.entries q m.sorted

end SortedMap

end Registrar
