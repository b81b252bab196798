import Registrar.Json.Reader
import Registrar.Json.Writer

/-!
This module contains the proof that documents are read back from their text, whatever characters the
texts and the names in them consist of. It leaves out numbers, which may be rounded when they are
read, and what is broken.
-/

namespace Registrar.Json

mutual

/-- There are no numbers in a document, and nothing broken. -/
def isTextual : Json → Bool
  | .null => true
  | .bool _ => true
  | .number _ => false
  | .string _ => true
  | .array items => areTextual items
  | .object members => membersAreTextual members
  | .broken => false

def areTextual : List Json → Bool
  | [] => true
  | j :: r => isTextual j && areTextual r

def membersAreTextual : List (String × Json) → Bool
  | [] => true
  | (_, j) :: r => isTextual j && membersAreTextual r

end

theorem isTextual_of_cons {j : Json} {r : List Json} (h : areTextual (j :: r)) : j.isTextual := by
  unfold areTextual at h
  rw [Bool.and_eq_true] at h
  exact h.1

namespace Reader

theorem hexValue?_digit : ∀ n < 16, hexValue? (Hex.digit n) = some n := by
  decide

theorem unit?_digits {n : Nat} (h : n < 256) :
    unit? '0' '0' (Hex.digit (n / 16)) (Hex.digit (n % 16)) = some n := by
  have hzero : hexValue? '0' = some 0 := by decide
  unfold unit?
  rw [hzero, hexValue?_digit (n / 16) (by omega), hexValue?_digit (n % 16) (by omega)]
  simp only [Option.bind_eq_bind, Option.bind_some, Option.pure_def, Option.some.injEq]
  omega

theorem readText_unit {a b c d : Char} {u : Nat} (h : unit? a b c d = some u) (hu : u < 0xD800)
    (r : List Char) :
    readText none ('\\' :: 'u' :: a :: b :: c :: d :: r) =
      (readText none r).map fun (s, r) => (s.map (Char.ofNat u :: ·), r) := by
  have hhigh : ¬ (0xD800 ≤ u ∧ u ≤ 0xDBFF) := by omega
  have hlow : ¬ (0xDC00 ≤ u ∧ u ≤ 0xDFFF) := by omega
  rw [readText.eq_def]
  simp only [h, if_neg hhigh, if_neg hlow]

theorem readText_plain {c : Char} (hquote : c ≠ '"') (hslash : c ≠ '\\') (hc : ¬ c.toNat < 0x20)
    (r : List Char) :
    readText none (c :: r) = (readText none r).map fun (s, r) => (s.map (c :: ·), r) := by
  rw [readText.eq_def]
  split
  . next h => cases h
  . next h => exact absurd (List.cons.inj h).1 hslash
  . next h => exact absurd (List.cons.inj h).1 hslash
  . next h => exact absurd (List.cons.inj h).1 hslash
  . next h =>
    cases h
    rw [if_neg hslash, if_neg hquote, if_neg hc]
    rfl

theorem readText_escape (c : Char) (r : List Char) :
    readText none (escape c ++ r) =
      (readText none r).map fun (s, r) => (s.map (c :: ·), r) := by
  unfold escape
  -- seven characters have an escape of their own
  iterate 7
    split
    . next h =>
      subst h
      rfl
  split
  . next h =>
    simp only [List.cons_append, List.nil_append]
    rw [readText_unit (unit?_digits (by omega)) (by omega), Char.ofNat_toNat]
  . next hquote hslash _ _ _ _ _ hprintable =>
    exact readText_plain hquote hslash hprintable r

theorem readText_escaped (s r : List Char) :
    readText none (s.flatMap escape ++ '"' :: r) = .ok (some s, r) := by
  induction s with
  | nil => rfl
  | cons c s ih =>
    rw [List.flatMap_cons, List.append_assoc, readText_escape, ih]
    rfl

theorem quote_append (s : String) (r : List Char) :
    quote s ++ r = '"' :: (s.toList.flatMap escape ++ '"' :: r) := by
  simp [quote]

theorem skip_cons {c : Char} (h : isSpace c = false) (r : List Char) : skip (c :: r) = c :: r := by
  unfold skip
  rw [List.dropWhile_cons, h]
  rfl

/-- No document begins with a space or with what ends an array. -/
theorem exists_write_eq_cons {j : Json} (h : j.isTextual) :
    ∃ c r, write j = c :: r ∧ isSpace c = false ∧ c ≠ ']' := by
  cases j with
  | null => exact ⟨'n', _, rfl, by decide, by decide⟩
  | bool b =>
    cases b with
    | false => exact ⟨'f', _, rfl, by decide, by decide⟩
    | true => exact ⟨'t', _, rfl, by decide, by decide⟩
  | number n => cases h
  | string s => exact ⟨'"', _, rfl, by decide, by decide⟩
  | array items =>
    cases items with
    | nil => exact ⟨'[', _, rfl, by decide, by decide⟩
    | cons j r => exact ⟨'[', _, rfl, by decide, by decide⟩
  | object members =>
    cases members with
    | nil => exact ⟨'\x7b', _, rfl, by decide, by decide⟩
    | cons m r => exact ⟨'\x7b', _, rfl, by decide, by decide⟩
  | broken => cases h

theorem readValue_string (fuel : Nat) (s : String) (r : List Char) :
    readValue (fuel + 1) (quote s ++ r) = .ok (.string s, r) := by
  have hspace : isSpace '"' = false := by decide
  unfold readValue
  simp only [quote_append, skip_cons hspace, readText_escaped, Except.map, textOf,
    String.ofList_toList]

section Array

variable {fuel : Nat} {j : Json} {items : List Json} {c : Char} {s rest r : List Char}

theorem readValue_array (hspace : isSpace c = false) (hne : c ≠ ']')
    (h : readItems fuel (c :: s) = .ok (items, r)) :
    readValue (fuel + 1) ('[' :: c :: s) = .ok (.array items, r) := by
  have hopen : isSpace '[' = false := by decide
  unfold readValue
  simp only [skip_cons hopen, skip_cons hspace]
  split
  . next heq => cases heq
  . next heq => exact absurd (List.cons.inj heq).1 hne
  . rw [h]
    rfl

theorem readItems_last (h : readValue fuel s = .ok (j, ']' :: r)) :
    readItems (fuel + 1) s = .ok ([j], r) := by
  unfold readItems
  rw [h]
  rfl

theorem readItems_cons (h : readValue fuel s = .ok (j, ',' :: c :: rest))
    (hspace : isSpace c = false) (hne : c ≠ ']')
    (hitems : readItems fuel (c :: rest) = .ok (items, r)) :
    readItems (fuel + 1) s = .ok (j :: items, r) := by
  have hcomma : isSpace ',' = false := by decide
  unfold readItems
  rw [h]
  simp only [bind, Except.bind, skip_cons hcomma, skip_cons hspace]
  split
  . next heq => cases heq
  . next heq => exact absurd (List.cons.inj heq).1 hne
  . rw [hitems]
    rfl

end Array

section Object

variable {fuel : Nat} {name other : String} {j : Json} {members : List (String × Json)}
  {s rest r : List Char}

theorem readValue_object (h : readMembers fuel (quote name ++ s) = .ok (some members, r)) :
    readValue (fuel + 1) ('\x7b' :: (quote name ++ s)) = .ok (.object members, r) := by
  have hopen : isSpace '\x7b' = false := by decide
  have hquote : isSpace '"' = false := by decide
  rw [quote_append] at h ⊢
  unfold readValue
  simp only [skip_cons hopen, skip_cons hquote]
  split
  . next heq => cases heq
  . next heq => exact absurd (List.cons.inj heq).1 (by decide)
  . rw [h]
    rfl

theorem readMembers_last (h : readValue fuel s = .ok (j, '\x7d' :: r)) :
    readMembers (fuel + 1) (quote name ++ ':' :: s) = .ok (some [(name, j)], r) := by
  have hquote : isSpace '"' = false := by decide
  have hcolon : isSpace ':' = false := by decide
  have hclose : isSpace '\x7d' = false := by decide
  unfold readMembers
  simp only [quote_append, skip_cons hquote, readText_escaped, bind, Except.bind, skip_cons hcolon,
    h, skip_cons hclose]
  simp [putMember, pure, Except.pure]

theorem readMembers_cons (h : readValue fuel s = .ok (j, ',' :: (quote other ++ rest)))
    (hmembers : readMembers fuel (quote other ++ rest) = .ok (some members, r)) :
    readMembers (fuel + 1) (quote name ++ ':' :: s) = .ok (some ((name, j) :: members), r) := by
  have hquote : isSpace '"' = false := by decide
  have hcolon : isSpace ':' = false := by decide
  have hcomma : isSpace ',' = false := by decide
  rw [quote_append] at h hmembers
  unfold readMembers
  simp only [quote_append, skip_cons hquote, readText_escaped, bind, Except.bind, skip_cons hcolon,
    h, skip_cons hcomma]
  split
  . next heq => cases heq
  . next heq => exact absurd (List.cons.inj heq).1 (by decide)
  . rw [hmembers]
    simp [putMember, pure, Except.pure]

end Object

mutual

/-- As much fuel as the text is long is enough. -/
theorem readValue_write {j : Json} (h : j.isTextual) (fuel : Nat) (hf : (write j).length ≤ fuel)
    (rest : List Char) : readValue fuel (write j ++ rest) = .ok (j, rest) := by
  obtain ⟨c, s, hcons, -, -⟩ := exists_write_eq_cons h
  obtain ⟨n, rfl⟩ : ∃ n, fuel = n + 1 := by
    rw [hcons, List.length_cons] at hf
    exact ⟨fuel - 1, by omega⟩
  cases j with
  | null => rfl
  | bool b => cases b <;> rfl
  | number n => cases h
  | string s =>
    unfold write
    exact readValue_string n s rest
  | array items =>
    cases items with
    | nil => rfl
    | cons j r =>
      unfold isTextual at h
      obtain ⟨c, s, hs, hspace, hne⟩ := exists_write_eq_cons (isTextual_of_cons h)
      unfold write at hf ⊢
      rw [List.length_append, List.length_cons] at hf
      have hitems := readItems_write h n (by omega) rest
      rw [hs] at hitems ⊢
      exact readValue_array hspace hne hitems
  | object members =>
    cases members with
    | nil => rfl
    | cons m r =>
      cases m with
      | mk name j =>
        unfold isTextual at h
        unfold write at hf ⊢
        simp only [List.length_append, List.length_cons] at hf
        have hmembers := readMembers_write h n (by omega) rest
        simp only [List.append_assoc, List.cons_append] at hmembers ⊢
        exact readValue_object hmembers
  | broken => cases h
termination_by sizeOf j

theorem readItems_write {j : Json} {r : List Json} (h : areTextual (j :: r)) (fuel : Nat)
    (hf : (write j).length + (writeItems r).length ≤ fuel) (rest : List Char) :
    readItems fuel (write j ++ writeItems r ++ rest) = .ok (j :: r, rest) := by
  unfold areTextual at h
  rw [Bool.and_eq_true] at h
  obtain ⟨hj, hr⟩ := h
  rw [List.append_assoc]
  cases r with
  | nil =>
    unfold writeItems at hf ⊢
    rw [List.length_singleton] at hf
    obtain ⟨n, rfl⟩ : ∃ n, fuel = n + 1 := ⟨fuel - 1, by omega⟩
    exact readItems_last (readValue_write hj n (by omega) _)
  | cons i r =>
    obtain ⟨c, s, hs, hspace, hne⟩ := exists_write_eq_cons (isTextual_of_cons hr)
    unfold writeItems at hf ⊢
    rw [List.length_append, List.length_cons] at hf
    obtain ⟨n, rfl⟩ : ∃ n, fuel = n + 1 := ⟨fuel - 1, by omega⟩
    have hitem := readValue_write hj n (by omega)
    have hitems := readItems_write hr n (by omega) rest
    rw [hs] at hitems ⊢
    exact readItems_cons (hitem _) hspace hne hitems
termination_by sizeOf (j :: r)

theorem readMembers_write {name : String} {j : Json} {r : List (String × Json)}
    (h : membersAreTextual ((name, j) :: r)) (fuel : Nat)
    (hf : (quote name).length + (write j).length + (writeMembers r).length ≤ fuel)
    (rest : List Char) :
    readMembers fuel (quote name ++ ':' :: write j ++ writeMembers r ++ rest) =
      .ok (some ((name, j) :: r), rest) := by
  unfold membersAreTextual at h
  rw [Bool.and_eq_true] at h
  obtain ⟨hj, hr⟩ := h
  simp only [List.append_assoc, List.cons_append]
  cases r with
  | nil =>
    unfold writeMembers at hf ⊢
    rw [List.length_singleton] at hf
    obtain ⟨n, rfl⟩ : ∃ n, fuel = n + 1 := ⟨fuel - 1, by omega⟩
    exact readMembers_last (readValue_write hj n (by omega) _)
  | cons m r =>
    cases m with
    | mk other i =>
      unfold writeMembers at hf ⊢
      simp only [List.length_append, List.length_cons] at hf
      obtain ⟨n, rfl⟩ : ∃ n, fuel = n + 1 := ⟨fuel - 1, by omega⟩
      have hmember := readValue_write hj n (by omega)
      have hmembers := readMembers_write hr n (by omega) rest
      simp only [List.append_assoc, List.cons_append] at hmembers ⊢
      exact readMembers_cons (hmember _) hmembers
termination_by sizeOf ((name, j) :: r)

end

end Reader

/-- A document without numbers is read back from its text. -/
theorem read_text {j : Json} (h : j.isTextual) : read j.text = .ok j := by
  unfold read text Reader.readWholeText
  rw [String.toList_ofList]
  have hvalue := Reader.readValue_write h (2 * (write j).length + 2) (by omega) []
  rw [List.append_nil] at hvalue
  rw [hvalue]
  rfl

end Registrar.Json
