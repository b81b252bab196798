import Mathlib.Data.List.Induction
import Registrar.Proofs.Leaves

/-!
This module contains the proof of what is known after a value has been stored or remembered: under
each key the last part of the value whose path leads to it, and everywhere else what was known
before. The parts of a value with their paths come first, and then the keys that paths lead to.
-/

namespace Registrar

namespace Assoc

variable {α : Type}

theorem find?_reverse_eq_getLast? (q : String) (entries : List (String × α)) :
    find? q entries.reverse = ((entries.filter fun e => e.1 = q).map (·.2)).getLast? := by
  induction entries with
  | nil => rfl
  | cons e r ih =>
    rw [List.reverse_cons, find?_append, ih]
    unfold find?
    by_cases h : e.1 = q
    . rw [if_pos h, List.filter_cons_of_pos (by simpa using h), List.map_cons, List.getLast?_cons]
      cases (List.map (·.2) (r.filter fun e => e.1 = q)).getLast? <;> rfl
    . rw [if_neg h, List.filter_cons_of_neg (by simpa using h), find?_nil, Option.or_none]

end Assoc

namespace Value

def isRecord : Value → Bool
  | .record _ => true
  | _ => false

mutual

/-- What stands in a value that is no record, in order, each with the names on the path to it. -/
def parts : Value → List (List String × Value)
  | .record fields => fieldParts fields
  | v => [([], v)]

def fieldParts : List (String × Value) → List (List String × Value)
  | [] => []
  | (name, v) :: r => (parts v).map (fun e => (name :: e.1, e.2)) ++ fieldParts r

end

mutual

/-- Whether a value is made of nothing but records. -/
def isHollow : Value → Bool
  | .record fields => fieldsAreHollow fields
  | _ => false

def fieldsAreHollow : List (String × Value) → Bool
  | [] => true
  | (_, v) :: r => isHollow v && fieldsAreHollow r

end

mutual

/-- Whether the names in each record of a value are different and have no points in them. -/
def isPlain : Value → Bool
  | .record fields => (Assoc.names fields).Nodup && fieldsArePlain fields
  | _ => true

def fieldsArePlain : List (String × Value) → Bool
  | [] => true
  | (name, v) :: r => '.' ∉ name.toList && isPlain v && fieldsArePlain r

end

theorem parts_of_not_isRecord {v : Value} (h : ¬ v.isRecord) : v.parts = [([], v)] := by
  cases v with
  | record fields => exact absurd rfl h
  | _ =>
    unfold parts
    rfl

mutual

theorem not_isRecord_of_mem_parts : (v : Value) → ∀ e ∈ v.parts, ¬ e.2.isRecord
  | .record fields, e, h => by
    unfold parts at h
    exact not_isRecord_of_mem_fieldParts fields e h
  | .bool _, _, h | .int _, _, h | .uint _, _, h | .string _, _, h | .bytes _, _, h
  | .address _, _, h | .array _, _, h | .g1 _, _, h | .g2 _, _, h => by
    unfold parts at h
    rw [List.mem_singleton] at h
    rw [h]
    exact Bool.false_ne_true

theorem not_isRecord_of_mem_fieldParts :
    (fields : List (String × Value)) → ∀ e ∈ fieldParts fields, ¬ e.2.isRecord
  | [], _, h => by
    unfold fieldParts at h
    cases h
  | (name, v) :: r, e, h => by
    unfold fieldParts at h
    cases List.mem_append.1 h with
    | inl h =>
      obtain ⟨d, hd, rfl⟩ := List.mem_map.1 h
      exact not_isRecord_of_mem_parts v d hd
    | inr h => exact not_isRecord_of_mem_fieldParts r e h

end

mutual

theorem parts_of_isHollow : (v : Value) → v.isHollow → v.parts = []
  | .record fields, h => by
    unfold isHollow at h
    unfold parts
    exact fieldParts_of_fieldsAreHollow fields h
  | .bool _, h | .int _, h | .uint _, h | .string _, h | .bytes _, h | .address _, h | .array _, h
  | .g1 _, h | .g2 _, h => by
    unfold isHollow at h
    cases h

theorem fieldParts_of_fieldsAreHollow :
    (fields : List (String × Value)) → fieldsAreHollow fields → fieldParts fields = []
  | [], _ => by
    unfold fieldParts
    rfl
  | (name, v) :: r, h => by
    unfold fieldsAreHollow at h
    obtain ⟨hv, hr⟩ := (Bool.and_eq_true _ _).mp h
    unfold fieldParts
    rw [parts_of_isHollow v hv, fieldParts_of_fieldsAreHollow r hr]
    rfl

end

theorem exists_of_mem_fieldParts {e : List String × Value} {fields : List (String × Value)}
    (h : e ∈ fieldParts fields) :
    ∃ name v p, (name, v) ∈ fields ∧ p ∈ parts v ∧ e = (name :: p.1, p.2) := by
  induction fields with
  | nil =>
    unfold fieldParts at h
    cases h
  | cons field r ih =>
    obtain ⟨name, v⟩ := field
    unfold fieldParts at h
    cases List.mem_append.1 h with
    | inl h =>
      obtain ⟨p, hp, rfl⟩ := List.mem_map.1 h
      exact ⟨name, v, p, List.mem_cons_self, hp, rfl⟩
    | inr h =>
      obtain ⟨name', v', p, hmem, hp, rfl⟩ := ih h
      exact ⟨name', v', p, List.mem_cons_of_mem _ hmem, hp, rfl⟩

mutual

theorem not_mem_of_mem_parts :
    (v : Value) → v.isPlain → ∀ e ∈ v.parts, ∀ name ∈ e.1, '.' ∉ name.toList
  | .record fields, hv, e, h => by
    unfold isPlain at hv
    unfold parts at h
    exact not_mem_of_mem_fieldParts fields ((Bool.and_eq_true _ _).mp hv).2 e h
  | .bool _, _, _, h | .int _, _, _, h | .uint _, _, _, h | .string _, _, _, h | .bytes _, _, _, h
  | .address _, _, _, h | .array _, _, _, h | .g1 _, _, _, h | .g2 _, _, _, h => by
    unfold parts at h
    rw [List.mem_singleton] at h
    rw [h]
    intro name hname
    cases hname

theorem not_mem_of_mem_fieldParts :
    (fields : List (String × Value)) → fieldsArePlain fields →
      ∀ e ∈ fieldParts fields, ∀ name ∈ e.1, '.' ∉ name.toList
  | [], _, _, h => by
    unfold fieldParts at h
    cases h
  | (name, v) :: r, hv, e, h => by
    unfold fieldsArePlain at hv
    simp only [Bool.and_eq_true, decide_eq_true_eq] at hv
    unfold fieldParts at h
    cases List.mem_append.1 h with
    | inl h =>
      obtain ⟨d, hd, rfl⟩ := List.mem_map.1 h
      rw [List.forall_mem_cons]
      exact ⟨hv.1.1, not_mem_of_mem_parts v hv.1.2 d hd⟩
    | inr h => exact not_mem_of_mem_fieldParts r hv.2 e h

end

mutual

/-- No path leads to two parts of a value. -/
theorem nodup_paths : (v : Value) → v.isPlain → (v.parts.map (·.1)).Nodup
  | .record fields, h => by
    unfold isPlain at h
    simp only [Bool.and_eq_true, decide_eq_true_eq] at h
    unfold parts
    exact nodup_fieldPaths fields h.1 h.2
  | .bool _, _ | .int _, _ | .uint _, _ | .string _, _ | .bytes _, _ | .address _, _ | .array _, _
  | .g1 _, _ | .g2 _, _ => by
    unfold parts
    exact List.nodup_singleton _

theorem nodup_fieldPaths : (fields : List (String × Value)) → (Assoc.names fields).Nodup →
    fieldsArePlain fields → ((fieldParts fields).map (·.1)).Nodup
  | [], _, _ => by
    unfold fieldParts
    exact List.nodup_nil
  | (name, v) :: r, hnames, h => by
    obtain ⟨hname, hr⟩ := List.nodup_cons.1 hnames
    unfold fieldsArePlain at h
    simp only [Bool.and_eq_true, decide_eq_true_eq] at h
    unfold fieldParts
    rw [List.map_append, List.map_map, List.nodup_append']
    refine ⟨?_, nodup_fieldPaths r hr h.2, ?_⟩
    . have hpaths := (nodup_paths v h.1.2).map (List.cons_injective (a := name))
      rwa [List.map_map] at hpaths
    . -- the paths through other fields begin with other names
      rw [List.disjoint_left]
      intro path hv hfields
      obtain ⟨e, -, rfl⟩ := List.mem_map.1 hv
      obtain ⟨d, hd, heq⟩ := List.mem_map.1 hfields
      obtain ⟨name', v', p, hmem, -, rfl⟩ := exists_of_mem_fieldParts hd
      obtain ⟨rfl, -⟩ := List.cons.inj heq
      exact hname (Assoc.mem_names_of_mem hmem)

end

end Value

namespace Cache

/-- The key that a path leads to in a value known by a key. -/
def pathKey (key : String) (path : List String) : String :=
  path.foldl fieldKey key

theorem pathKey_append (key : String) (a b : List String) :
    pathKey key (a ++ b) = pathKey (pathKey key a) b :=
  List.foldl_append

theorem exists_pathKey_eq (key : String) (path : List String) :
    ∃ rest, pathKey key path = key ++ rest := by
  induction path generalizing key with
  | nil => exact ⟨"", (String.append_empty).symm⟩
  | cons name path ih =>
    obtain ⟨rest, h⟩ := ih (fieldKey key name)
    refine ⟨"." ++ name ++ rest, ?_⟩
    rw [pathKey, List.foldl_cons, ← pathKey, h]
    unfold fieldKey
    simp only [String.append_assoc]

/-- A path that is not empty leads to a key that goes on behind a point. -/
theorem exists_pathKey_cons_eq (key name : String) (path : List String) :
    ∃ rest, pathKey key (name :: path) = key ++ "." ++ rest := by
  obtain ⟨rest, h⟩ := exists_pathKey_eq (fieldKey key name) path
  refine ⟨name ++ rest, ?_⟩
  rw [pathKey, List.foldl_cons, ← pathKey, h]
  unfold fieldKey
  simp only [String.append_assoc]

theorem pathKey_cons_ne (key name : String) (path : List String) :
    pathKey key (name :: path) ≠ key := by
  obtain ⟨rest, h⟩ := exists_pathKey_cons_eq key name path
  rw [h]
  intro heq
  have hlength := congrArg String.length heq
  simp only [String.length_append] at hlength
  have hpoint : ".".length = 1 := rfl
  omega

/-- Paths lead to different keys, unless there are points in their names. -/
theorem pathKey_inj {key : String} {a b : List String} (ha : ∀ name ∈ a, '.' ∉ name.toList)
    (hb : ∀ name ∈ b, '.' ∉ name.toList) : pathKey key a = pathKey key b ↔ a = b := by
  refine ⟨fun h => ?_, congrArg _⟩
  -- keys are told apart from their ends
  induction a using List.reverseRecOn generalizing b with
  | nil =>
    cases b with
    | nil => rfl
    | cons name b => exact absurd h.symm (pathKey_cons_ne key name b)
  | append_singleton a x ih =>
    cases b using List.reverseRecOn with
    | nil =>
      cases a with
      | nil => exact absurd h (pathKey_cons_ne key x [])
      | cons name a => exact absurd h (pathKey_cons_ne key name (a ++ [x]))
    | append_singleton b y =>
      rw [pathKey_append, pathKey_append] at h
      obtain ⟨hfront, rfl⟩ := (fieldKey_inj (ha x (by simp)) (hb y (by simp))).1 h
      rw [ih (fun name hname => ha name (List.mem_append_left _ hname))
        (fun name hname => hb name (List.mem_append_left _ hname)) hfront]

end Cache

namespace Value

open Cache (pathKey pathKey_inj fieldKey)

mutual

theorem leaves_eq_parts :
    (key : String) → (v : Value) → v.leaves key = v.parts.map fun e => (pathKey key e.1, e.2)
  | key, .record fields => by
    unfold leaves parts
    exact fieldLeaves_eq_fieldParts key fields
  | _, .bool _ | _, .int _ | _, .uint _ | _, .string _ | _, .bytes _ | _, .address _ | _, .array _
  | _, .g1 _ | _, .g2 _ => by
    unfold leaves parts
    rfl

theorem fieldLeaves_eq_fieldParts :
    (key : String) → (fields : List (String × Value)) →
      fieldLeaves key fields = (fieldParts fields).map fun e => (pathKey key e.1, e.2)
  | _, [] => by
    unfold fieldLeaves fieldParts
    rfl
  | key, (name, v) :: r => by
    unfold fieldLeaves fieldParts
    rw [List.map_append, List.map_map, leaves_eq_parts, fieldLeaves_eq_fieldParts]
    rfl

end

/-- The parts of a value that stand, in order, at the ends of the paths to a key. -/
def partsAt (key q : String) (v : Value) : List Value :=
  (v.parts.filter fun e => pathKey key e.1 = q).map (·.2)

theorem find?_reverse_leaves (key q : String) (v : Value) :
    Assoc.find? q (v.leaves key).reverse = (v.partsAt key q).getLast? := by
  rw [Assoc.find?_reverse_eq_getLast?, leaves_eq_parts, List.filter_map, List.map_map]
  rfl

/-- No part of a plain value is hidden by another. -/
theorem nodup_names_leaves {v : Value} (h : v.isPlain) (key : String) :
    (Assoc.names (v.leaves key)).Nodup := by
  have hkeys : Assoc.names (v.leaves key) = (v.parts.map (·.1)).map (pathKey key) := by
    unfold Assoc.names
    rw [leaves_eq_parts, List.map_map, List.map_map]
    rfl
  rw [hkeys]
  apply (nodup_paths v h).map_on
  intro a ha b hb heq
  obtain ⟨d, hd, rfl⟩ := List.mem_map.1 ha
  obtain ⟨e, he, rfl⟩ := List.mem_map.1 hb
  exact (pathKey_inj (not_mem_of_mem_parts v h d hd) (not_mem_of_mem_parts v h e he)).1 heq

end Value

namespace Cache

variable (c : Cache) (key q : String) (v : Value)

theorem find?_store_eq :
    (c.store key v).find? q = (v.partsAt key q).getLast?.or (c.find? q) := by
  rw [store_eq_insertAll, find?_insertAll, Value.find?_reverse_leaves]

theorem memoize_eq :
    c.memoize key v = (if v.isRecord then c.store key v else c).insert key v := by
  cases v with
  | record fields =>
    unfold memoize store
    rfl
  | _ => rfl

theorem find?_memoize_of_ne (hq : q ≠ key) :
    (c.memoize key v).find? q = if v.isRecord then (c.store key v).find? q else c.find? q := by
  rw [memoize_eq, find?_insert, if_neg hq]
  split
  . rfl
  . rfl

theorem partsAt_eq_nil (hq : q ≠ key) (hrest : ∀ rest, q ≠ key ++ "." ++ rest) :
    v.partsAt key q = [] := by
  unfold Value.partsAt
  rw [List.filter_eq_nil_iff.2, List.map_nil]
  rintro ⟨path, w⟩ -
  rw [decide_eq_true_eq]
  intro heq
  cases path with
  | nil => exact hq heq.symm
  | cons name path =>
    obtain ⟨rest, h⟩ := exists_pathKey_cons_eq key name path
    exact hrest rest (heq.symm.trans h)

theorem find?_store_pathKey {v : Value} (h : v.isPlain) {e : List String × Value}
    (he : e ∈ v.parts) : (c.store key v).find? (pathKey key e.1) = some e.2 := by
  have hmem : (pathKey key e.1, e.2) ∈ v.leaves key := by
    rw [Value.leaves_eq_parts]
    exact List.mem_map_of_mem he
  have hnodup := Value.nodup_names_leaves h key
  rw [store_eq_insertAll, find?_insertAll, Assoc.find?_reverse hnodup,
    (Assoc.find?_eq_some_iff hnodup).2 hmem]
  rfl

theorem find?_memoize_pathKey {v : Value} (h : v.isPlain) {e : List String × Value}
    (he : e ∈ v.parts) : (c.memoize key v).find? (pathKey key e.1) = some e.2 := by
  by_cases hv : v.isRecord
  . have hne : pathKey key e.1 ≠ key := by
      cases v with
      | record fields =>
        unfold Value.parts at he
        obtain ⟨name, w, p, -, -, rfl⟩ := Value.exists_of_mem_fieldParts he
        exact pathKey_cons_ne key name p.1
      | _ => cases hv
    rw [find?_memoize_of_ne c key _ v hne, if_pos hv, find?_store_pathKey c key h he]
  . rw [Value.parts_of_not_isRecord hv, List.mem_singleton] at he
    rw [he]
    exact find?_memoize_self c key v

/-- After a value has been stored, the last of its parts that a path leads to from the key is known
there, and every other key is as it was. No record comes to be known, and where there are only records
nothing changes. After a value has been remembered, it is known under its own key too. Keys that do
not go on behind the key and a point are left alone; and where the names in a value are different and
have no points, each of its parts is known at the end of its path. -/
theorem parts_stored :
    (∀ q, (c.store key v).find? q = (v.partsAt key q).getLast?.or (c.find? q)) ∧
    (∀ q fields, (c.store key v).find? q = some (.record fields) →
      c.find? q = some (.record fields)) ∧
    (v.isHollow → c.store key v = c) ∧
    (c.memoize key v).find? key = some v ∧
    (∀ q, q ≠ key → (c.memoize key v).find? q =
      if v.isRecord then (c.store key v).find? q else c.find? q) ∧
    (∀ q, q ≠ key → (∀ rest, q ≠ key ++ "." ++ rest) →
      (c.store key v).find? q = c.find? q ∧ (c.memoize key v).find? q = c.find? q) ∧
    (v.isPlain → ∀ e ∈ v.parts, (c.store key v).find? (pathKey key e.1) = some e.2 ∧
      (c.memoize key v).find? (pathKey key e.1) = some e.2) := by
  refine ⟨fun q => find?_store_eq c key q v, ?_, ?_, find?_memoize_self c key v,
    fun q => find?_memoize_of_ne c key q v, ?_, ?_⟩
  . intro q fields h
    rw [find?_store_eq] at h
    cases hlast : (v.partsAt key q).getLast? with
    | none =>
      rw [hlast] at h
      exact h
    | some w =>
      rw [hlast] at h
      cases h
      obtain ⟨e, he, heq⟩ := List.mem_map.1 (List.mem_of_getLast? hlast)
      have hrecord := Value.not_isRecord_of_mem_parts v e (List.mem_filter.1 he).1
      rw [heq] at hrecord
      exact absurd rfl hrecord
  . intro h
    rw [store_eq_insertAll, Value.leaves_eq_parts, Value.parts_of_isHollow v h]
    rfl
  . intro q hq hrest
    have hstore : (c.store key v).find? q = c.find? q := by
      rw [find?_store_eq, partsAt_eq_nil key q v hq hrest]
      rfl
    refine ⟨hstore, ?_⟩
    rw [find?_memoize_of_ne c key q v hq, hstore, ite_self]
  . intro h e he
    exact ⟨find?_store_pathKey c key h he, find?_memoize_pathKey c key h he⟩

/-- A record was known before. The first value is plain, and has records in it that are empty; in the
second two parts meet on a key, of which the last counts. -/
theorem parts_stored_meeting :
    let c := insert {} "k.d" (.record [])
    let v := Value.record
      [("a", .record [("b", .uint 1), ("", .bool true), ("c", .record [])]), ("d", .array [])]
    let w := Value.record [("a.b", .uint 1), ("a", .record [("b", .uint 2)]), ("d", .record [])]
    (v.isPlain ∧ (c.store "k" v).find? "k.a." = some (.bool true) ∧
      (c.memoize "k" v).find? "k.a." = some (.bool true)) ∧
    (¬ w.isPlain ∧ (c.store "k" w).find? "k.a.b" = some (.uint 2) ∧
      (c.store "k" w).find? "k.d" = some (.record []) ∧ (c.memoize "k" w).find? "k" = some w) ∧
    (Value.record [("e", .record [])]).isHollow ∧ c.store "k" (.record [("e", .record [])]) = c := by
  intro c v w
  have hv : v.isPlain := by decide
  have hw : ¬ w.isPlain := by decide
  have hhollow : (Value.record [("e", .record [])]).isHollow := by decide
  obtain ⟨-, -, -, -, -, -, hplain⟩ := parts_stored c "k" v
  obtain ⟨hstored, -, -, hself, -⟩ := parts_stored c "k" w
  obtain ⟨-, -, hnothing, -⟩ := parts_stored c "k" (.record [("e", .record [])])
  have hpart : (["a", ""], Value.bool true) ∈ v.parts := .tail _ (.head _)
  exact ⟨⟨hv, hplain hv _ hpart⟩, ⟨hw, hstored "k.a.b", hstored "k.d", hself⟩, hhollow,
    hnothing hhollow⟩

end Cache

end Registrar
