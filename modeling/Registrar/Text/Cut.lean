import Registrar.Text.Blank

/-!
This module contains the ways to take a text apart: at a character, at a word, at every occurrence
of a separator, and by removing a known beginning or end.
-/

namespace Registrar.Text

/-- The parts of a text before and after the first occurrence of `sep`. -/
def cut? (sep : Char) : List Char → Option (List Char × List Char)
  | [] => none
  | c :: r => if c = sep then some ([], r) else (cut? sep r).map fun (a, b) => (c :: a, b)

/-- What follows `word` in a text that begins with it. -/
def stripStart? : (word text : List Char) → Option (List Char)
  | [], s => some s
  | _ :: _, [] => none
  | w :: ws, c :: r => if w = c then stripStart? ws r else none

/-- What precedes `c` in a text that ends with it. -/
def stripLast? (c : Char) (s : List Char) : Option (List Char) :=
  if s.getLast? = some c then some s.dropLast else none

/-- The parts of a text before and after the first occurrence of `word`. -/
def cutWord? (word : List Char) : List Char → Option (List Char × List Char)
  | [] => (stripStart? word []).map fun r => ([], r)
  | c :: s =>
    match stripStart? word (c :: s) with
    | some r => some ([], r)
    | none => (cutWord? word s).map fun (a, b) => (c :: a, b)

/-- The fields of a text between the occurrences of `sep`: one more than there are separators. -/
def fields (sep : Char) : List Char → List (List Char)
  | [] => [[]]
  | c :: r =>
    if c = sep then [] :: fields sep r
    else
      match fields sep r with
      | [] => [[c]]
      | f :: fs => (c :: f) :: fs

/-- Drop every `c` at the end of a text. -/
def dropLastWhile (c : Char) (s : List Char) : List Char :=
  (s.reverse.dropWhile (· == c)).reverse

theorem length_of_cut? {sep : Char} {s a b : List Char} (h : cut? sep s = some (a, b)) :
    s.length = a.length + b.length + 1 := by
  induction s generalizing a with
  | nil => simp [cut?] at h
  | cons c r ih =>
    rw [cut?] at h
    split at h
    . obtain ⟨rfl, rfl⟩ : [] = a ∧ r = b := by simpa using h
      simp
    . obtain ⟨⟨a', b'⟩, hr, heq⟩ := Option.map_eq_some_iff.1 h
      obtain ⟨rfl, rfl⟩ : c :: a' = a ∧ b' = b := by simpa using heq
      have := ih hr
      simp only [List.length_cons]
      omega

theorem length_of_stripStart? {w s r : List Char} (h : stripStart? w s = some r) :
    s.length = w.length + r.length := by
  induction w generalizing s with
  | nil => simp_all [stripStart?]
  | cons c ws ih =>
    cases s with
    | nil => simp [stripStart?] at h
    | cons d t =>
      rw [stripStart?] at h
      split at h
      . have := ih h
        simp only [List.length_cons]
        omega
      . simp at h

theorem length_of_stripLast? {c : Char} {s r : List Char} (h : stripLast? c s = some r) :
    s.length = r.length + 1 := by
  rw [stripLast?] at h
  split at h
  . next hl =>
      obtain rfl : s.dropLast = r := by simpa using h
      cases s with
      | nil => simp at hl
      | cons d t => simp
  . next => simp at h

theorem length_of_cutWord? {w s a b : List Char} (h : cutWord? w s = some (a, b)) :
    s.length = a.length + w.length + b.length := by
  induction s generalizing a with
  | nil =>
    obtain ⟨r, hr, heq⟩ := Option.map_eq_some_iff.1 h
    obtain ⟨rfl, rfl⟩ : [] = a ∧ r = b := by simpa using heq
    have := length_of_stripStart? hr
    simpa using this
  | cons c t ih =>
    rw [cutWord?] at h
    split at h
    . next r hr =>
        obtain ⟨rfl, rfl⟩ : [] = a ∧ r = b := by simpa using h
        have := length_of_stripStart? hr
        simp only [List.length_nil]
        omega
    . next =>
        obtain ⟨⟨a', b'⟩, ht, heq⟩ := Option.map_eq_some_iff.1 h
        obtain ⟨rfl, rfl⟩ : c :: a' = a ∧ b' = b := by simpa using heq
        have := ih ht
        simp only [List.length_cons]
        omega

end Registrar.Text
