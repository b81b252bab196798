import Mathlib.Data.List.Basic
import Registrar.Cache

/-!
This module contains what storing a value does to what is remembered: the keys under which a value is
stored, that nothing else changes, and that nothing is ever forgotten.
-/

namespace Registrar.Cache

mutual

/-- The keys under which a value is stored: its own, or those of the fields of a record. -/
def storedKeys (key : String) : Value → List String
  | .record fields => storedFieldKeys key fields
  | _ => [key]

def storedFieldKeys (key : String) : List (String × Value) → List String
  | [] => []
  | (name, v) :: r => storedKeys (fieldKey key name) v ++ storedFieldKeys key r

end

variable {key q : String}

theorem exists_of_mem_storedFieldKeys {fields : List (String × Value)}
    (h : q ∈ storedFieldKeys key fields) :
    ∃ name v, (name, v) ∈ fields ∧ q ∈ storedKeys (fieldKey key name) v := by
  induction fields with
  | nil => cases h
  | cons field r ih =>
    obtain ⟨name, v⟩ := field
    unfold storedFieldKeys at h
    cases List.mem_append.1 h with
    | inl h => exact ⟨name, v, List.mem_cons_self, h⟩
    | inr h =>
      obtain ⟨name', v', hmem, h⟩ := ih h
      exact ⟨name', v', List.mem_cons_of_mem _ hmem, h⟩

mutual

/-- A value is stored under what its key begins. -/
theorem eq_append_of_mem_storedKeys :
    (key : String) → (v : Value) → q ∈ storedKeys key v → ∃ x, q = key ++ x
  | key, .record fields, h => by
    unfold storedKeys at h
    obtain ⟨x, hx⟩ := eq_append_of_mem_storedFieldKeys key fields h
    exact ⟨"." ++ x, by rw [hx, String.append_assoc]⟩
  | key, .bool _, h | key, .int _, h | key, .uint _, h | key, .string _, h | key, .bytes _, h
  | key, .address _, h | key, .array _, h | key, .g1 _, h | key, .g2 _, h => by
    unfold storedKeys at h
    rw [List.mem_singleton] at h
    exact ⟨"", by rw [h, String.append_empty]⟩

theorem eq_append_of_mem_storedFieldKeys (key : String) :
    (fields : List (String × Value)) → q ∈ storedFieldKeys key fields → ∃ x, q = key ++ "." ++ x
  | [], h => nomatch h
  | (name, v) :: r, h => by
    unfold storedFieldKeys at h
    cases List.mem_append.1 h with
    | inl h =>
      obtain ⟨x, hx⟩ := eq_append_of_mem_storedKeys (fieldKey key name) v h
      exact ⟨name ++ x, by rw [hx, fieldKey, String.append_assoc]⟩
    | inr h => exact eq_append_of_mem_storedFieldKeys key r h

end

/-- A value that is stored under another key than its own is that of a field. -/
theorem record_of_mem_storedKeys {v : Value} (hne : key ≠ q) (h : q ∈ storedKeys key v) :
    ∃ fields x, v = .record fields ∧ q = key ++ "." ++ x := by
  cases v with
  | record fields =>
    unfold storedKeys at h
    obtain ⟨x, hx⟩ := eq_append_of_mem_storedFieldKeys key fields h
    exact ⟨fields, x, rfl, hx⟩
  | _ =>
    unfold storedKeys at h
    rw [List.mem_singleton] at h
    exact absurd h.symm hne

/-- What is stored under a key with one point is the value of the key, or of a field of a record whose
key stands in front of the point. -/
theorem field_of_mem_storedKeys {name : String} {v : Value} (hkey : '.' ∉ key.toList)
    (hname : '.' ∉ name.toList) (hq : q ≠ fieldKey key name)
    (h : fieldKey key name ∈ storedKeys q v) :
    q = key ∧ ∃ fields w, v = .record fields ∧ (name, w) ∈ fields := by
  have hsplit {rest : String} (heq : fieldKey key name = fieldKey q rest) :
      q = key ∧ rest = name := by
    have hchars := congrArg String.toList heq
    simp only [fieldKey, String.toList_append, List.append_assoc] at hchars
    obtain ⟨hfront, -, hrest⟩ := (List.append_cons_inj_of_notMem hkey hname).1 hchars
    exact ⟨(String.toList_inj.1 hfront).symm, (String.toList_inj.1 hrest).symm⟩
  cases v with
  | record fields =>
    unfold storedKeys at h
    obtain ⟨name', w, hfield, h⟩ := exists_of_mem_storedFieldKeys h
    cases w with
    | record below =>
      unfold storedKeys at h
      obtain ⟨x, hx⟩ := eq_append_of_mem_storedFieldKeys _ _ h
      -- a field of the field would be behind another point
      have hrest : fieldKey key name = fieldKey q (name' ++ "." ++ x) := by
        rw [hx]
        simp only [fieldKey, String.append_assoc]
      obtain ⟨-, hpoint⟩ := hsplit hrest
      rw [← hpoint] at hname
      simp [String.toList_append] at hname
    | _ =>
      unfold storedKeys at h
      rw [List.mem_singleton] at h
      obtain ⟨rfl, rfl⟩ := hsplit h
      exact ⟨rfl, fields, _, rfl, hfield⟩
  | _ =>
    unfold storedKeys at h
    rw [List.mem_singleton] at h
    exact absurd h.symm hq

mutual

theorem find?_store_of_not_mem (c : Cache) :
    (key : String) → (v : Value) → q ∉ storedKeys key v → (c.store key v).find? q = c.find? q
  | key, .record fields, hq => by
    unfold storedKeys at hq
    unfold store
    exact find?_storeFields_of_not_mem c key fields hq
  | key, .bool _, hq | key, .int _, hq | key, .uint _, hq | key, .string _, hq | key, .bytes _, hq
  | key, .address _, hq | key, .array _, hq | key, .g1 _, hq | key, .g2 _, hq => by
    unfold storedKeys at hq
    rw [List.mem_singleton] at hq
    unfold store
    rw [find?_insert, if_neg hq]

theorem find?_storeFields_of_not_mem (c : Cache) (key : String) :
    (fields : List (String × Value)) → q ∉ storedFieldKeys key fields →
      (c.storeFields key fields).find? q = c.find? q
  | [], _ => by
    unfold storeFields
    rfl
  | (name, v) :: r, hq => by
    unfold storedFieldKeys at hq
    rw [List.mem_append, not_or] at hq
    unfold storeFields
    rw [find?_storeFields_of_not_mem _ key r hq.2]
    exact find?_store_of_not_mem c (fieldKey key name) v hq.1

end

theorem find?_memoize_of_not_mem (c : Cache) {v : Value} (hkey : q ≠ key)
    (hq : q ∉ storedKeys key v) : (c.memoize key v).find? q = c.find? q := by
  unfold memoize
  split
  . next fields =>
    unfold storedKeys at hq
    rw [find?_insert, if_neg hkey]
    exact find?_storeFields_of_not_mem c key fields hq
  . rw [find?_insert, if_neg hkey]

theorem find?_store (c : Cache) (hq : ∀ x, q ≠ key ++ x) (v : Value) :
    (c.store key v).find? q = c.find? q := by
  apply find?_store_of_not_mem
  intro h
  obtain ⟨x, hx⟩ := eq_append_of_mem_storedKeys key v h
  exact hq x hx

theorem find?_memoize (c : Cache) (hq : ∀ x, q ≠ key ++ x) (v : Value) :
    (c.memoize key v).find? q = c.find? q := by
  apply find?_memoize_of_not_mem
  . simpa using hq ""
  . intro h
    obtain ⟨x, hx⟩ := eq_append_of_mem_storedKeys key v h
    exact hq x hx

theorem find?_seedFields (c : Cache) (hq : ∀ x, q ≠ key ++ x) (fields : List (String × Value)) :
    (seedFields key c fields).find? q = c.find? q := by
  induction fields generalizing c with
  | nil => rfl
  | cons field r ih =>
    unfold seedFields
    rw [ih]
    apply find?_store
    intro x
    rw [String.append_assoc]
    apply hq

theorem isSome_find?_insert {c : Cache} (hq : (c.find? q).isSome) (key : String) (v : Value) :
    ((c.insert key v).find? q).isSome := by
  rw [find?_insert]
  split
  . rfl
  . exact hq

mutual

theorem isSome_find?_store :
    (v : Value) → (c : Cache) → (key : String) → (c.find? q).isSome →
      ((c.store key v).find? q).isSome
  | .record fields, c, key, hq => by
    unfold store
    exact isSome_find?_storeFields fields c key hq
  | .bool _, _, _, hq | .int _, _, _, hq | .uint _, _, _, hq | .string _, _, _, hq
  | .bytes _, _, _, hq | .address _, _, _, hq | .array _, _, _, hq | .g1 _, _, _, hq
  | .g2 _, _, _, hq => by
    unfold store
    exact isSome_find?_insert hq _ _

theorem isSome_find?_storeFields :
    (fields : List (String × Value)) → (c : Cache) → (key : String) → (c.find? q).isSome →
      ((c.storeFields key fields).find? q).isSome
  | [], _, _, hq => by
    unfold storeFields
    exact hq
  | (name, v) :: r, c, key, hq => by
    unfold storeFields
    apply isSome_find?_storeFields r
    exact isSome_find?_store v c _ hq

end

theorem isSome_find?_memoize {c : Cache} (hq : (c.find? q).isSome) (key : String) (v : Value) :
    ((c.memoize key v).find? q).isSome := by
  unfold memoize
  split
  . next fields =>
    apply isSome_find?_insert
    exact isSome_find?_storeFields fields c key hq
  . exact isSome_find?_insert hq key _

end Registrar.Cache
