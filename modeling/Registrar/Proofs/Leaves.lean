import Mathlib.Data.List.Nodup
import Mathlib.Data.List.Perm.Lattice
import Registrar.Cache
import Registrar.Proofs.Nesting
import Registrar.Settings

/-!
This module contains the leaves of values and of documents: what stands in them that is taken apart
no further, each under the names on its path. To store a value is to insert its leaves one after the
other, and so is to enter a document into the settings. Of leaves that meet on one path the last
counts.
-/

namespace Registrar

namespace Assoc

variable {α β σ : Type} {q key : String} {v : α} {entries : List (String × α)}

/-- What is found after insertions is the last that has been inserted, or else what was there
before. -/
theorem find?_foldl {set : σ → String → α → σ} (get : String → σ → Option α)
    (h : ∀ made key v q, get q (set made key v) = if q = key then some v else get q made)
    (q : String) (new : List (String × α)) (made : σ) :
    get q (new.foldl (fun made e => set made e.1 e.2) made) =
      (find? q new.reverse).or (get q made) := by
  induction new generalizing made with
  | nil => rfl
  | cons e r ih =>
    obtain ⟨key, v⟩ := e
    rw [List.foldl_cons, ih, h, List.reverse_cons, find?_append, Option.or_assoc]
    congr 1
    by_cases hq : q = key
    . simp [find?, hq]
    . simp [find?, hq, Ne.symm hq]

theorem mem_names_of_mem (h : (key, v) ∈ entries) : key ∈ names entries :=
  List.mem_map_of_mem h

theorem find?_eq_none_iff : find? key entries = none ↔ key ∉ names entries := by
  rw [← find?_isSome_iff, Bool.not_eq_true, Option.isSome_eq_false_iff, Option.isNone_iff_eq_none]

/-- Where no name repeats, an entry is what is found under its name. -/
theorem find?_eq_some_iff (h : (names entries).Nodup) :
    find? key entries = some v ↔ (key, v) ∈ entries := by
  induction entries with
  | nil => simp
  | cons e r ih =>
    obtain ⟨k, w⟩ := e
    obtain ⟨hk, hr⟩ := List.nodup_cons.1 h
    unfold find?
    split
    . next heq =>
      subst heq
      have hv : (k, v) ∉ r := fun hmem => hk (mem_names_of_mem hmem)
      simp [hv, eq_comm]
    . next hne =>
      rw [ih hr, List.mem_cons, Prod.mk.injEq]
      simp [Ne.symm hne]

theorem nodup_of_nodup_names (h : (names entries).Nodup) : entries.Nodup :=
  List.Nodup.of_map _ h

/-- Where no name repeats, entries are determined up to their order by what is found. -/
theorem perm_of_find?_eq {other : List (String × α)} (h : (names entries).Nodup)
    (hother : (names other).Nodup) (heq : ∀ q, find? q entries = find? q other) :
    entries.Perm other := by
  rw [List.perm_ext_iff_of_nodup (nodup_of_nodup_names h) (nodup_of_nodup_names hother)]
  rintro ⟨key, v⟩
  rw [← find?_eq_some_iff h, ← find?_eq_some_iff hother, heq]

theorem names_reverse (entries : List (String × α)) :
    names entries.reverse = (names entries).reverse :=
  List.map_reverse

theorem find?_reverse (h : (names entries).Nodup) (q : String) :
    find? q entries.reverse = find? q entries := by
  have hreverse : (names entries.reverse).Nodup := by
    rw [names_reverse, List.nodup_reverse]
    exact h
  apply Option.ext
  intro v
  rw [find?_eq_some_iff hreverse, find?_eq_some_iff h, List.mem_reverse]

theorem nodup_names_insert (h : (names entries).Nodup) (key : String) (v : α) :
    (names (insert key v entries)).Nodup := by
  rw [names_insert]
  split
  . exact h
  . next hkey =>
    rw [← List.concat_eq_append]
    exact h.concat hkey

/-- The entries behind a prefix, with what stands under them changed. -/
def behind (space : String) (f : α → β) (entries : List (String × α)) : List (String × β) :=
  entries.map fun e => (space ++ e.1, f e.2)

theorem find?_behind (space : String) (f : α → β) (key : String) (entries : List (String × α)) :
    find? (space ++ key) (behind space f entries) = (find? key entries).map f := by
  induction entries with
  | nil => rfl
  | cons e r ih =>
    unfold behind at ih ⊢
    rw [List.map_cons]
    unfold find?
    by_cases h : e.1 = key
    . rw [if_pos h, if_pos (by rw [h])]
      rfl
    . rw [if_neg h, if_neg (by simpa using h)]
      exact ih

theorem find?_behind_eq_none {space : String} (f : α → β) (hq : ∀ key, q ≠ space ++ key)
    (entries : List (String × α)) : find? q (behind space f entries) = none := by
  rw [find?_eq_none_iff]
  unfold names behind
  rw [List.map_map, List.mem_map]
  rintro ⟨e, -, he⟩
  exact hq e.1 he.symm

theorem behind_reverse (space : String) (f : α → β) (entries : List (String × α)) :
    (behind space f entries).reverse = behind space f entries.reverse :=
  List.map_reverse.symm

end Assoc

namespace SortedMap

variable {α : Type}

theorem nodup_names (m : SortedMap α) : (Assoc.names m.toList).Nodup := by
  unfold Assoc.names List.Nodup
  rw [List.pairwise_map]
  apply m.sorted.imp
  intro a b hlt heq
  rw [heq] at hlt
  exact String.lt_irrefl _ hlt

end SortedMap

mutual

/-- What stands in a value that is no record, in order, under the keys of the fields it is in. -/
def Value.leaves (key : String) : Value → List (String × Value)
  | .record fields => Value.fieldLeaves key fields
  | v => [(key, v)]

def Value.fieldLeaves (key : String) : List (String × Value) → List (String × Value)
  | [] => []
  | (name, v) :: r => Value.leaves (Cache.fieldKey key name) v ++ Value.fieldLeaves key r

end

mutual

/-- What stands in a document that is no object, in order, under the names on its path. -/
def Json.leaves (path : String) : Json → List (String × Json)
  | .object members => Json.memberLeaves path members
  | j => [(path, j)]

def Json.memberLeaves (path : String) : List (String × Json) → List (String × Json)
  | [] => []
  | (name, j) :: r => Json.leaves (Cache.fieldKey path name) j ++ Json.memberLeaves path r

end

/-- The leaves of a document with the given members, which itself has no name. -/
def Json.leavesOf (members : List (String × Json)) : List (String × Json) :=
  members.flatMap fun m => m.2.leaves m.1

namespace Cache

/-- The last name of a key can be told, unless there is a point in it. -/
theorem fieldKey_inj {a b x y : String} (hx : '.' ∉ x.toList) (hy : '.' ∉ y.toList) :
    fieldKey a x = fieldKey b y ↔ a = b ∧ x = y := by
  constructor
  . intro h
    have hchars := congrArg (fun text => Text.cut? '.' text.toList.reverse) h
    simp only [fieldKey, String.toList_append, List.reverse_append, List.append_assoc] at hchars
    have hcut {text : String} (ht : '.' ∉ text.toList) (front : List Char) :
        Text.cut? '.' (text.toList.reverse ++ (".".toList.reverse ++ front)) =
          some (text.toList.reverse, front) :=
      Text.cut?_append (by rwa [List.mem_reverse]) front
    rw [hcut hx, hcut hy, Option.some_inj, Prod.mk.injEq, List.reverse_inj, List.reverse_inj,
      String.toList_inj, String.toList_inj] at hchars
    exact hchars.symm
  . rintro ⟨rfl, rfl⟩
    rfl

def insertAll (c : Cache) (new : List (String × Value)) : Cache :=
  new.foldl (fun c e => c.insert e.1 e.2) c

theorem insertAll_append (c : Cache) (a b : List (String × Value)) :
    c.insertAll (a ++ b) = (c.insertAll a).insertAll b :=
  List.foldl_append

theorem find?_insertAll (c : Cache) (new : List (String × Value)) (q : String) :
    (c.insertAll new).find? q = (Assoc.find? q new.reverse).or (c.find? q) :=
  Assoc.find?_foldl (fun q c => c.find? q) find?_insert q new c

theorem nodup_names_insertAll {c : Cache} (h : (Assoc.names c.entries).Nodup)
    (new : List (String × Value)) : (Assoc.names (c.insertAll new).entries).Nodup := by
  induction new generalizing c with
  | nil => exact h
  | cons e r ih =>
    apply ih
    exact Assoc.nodup_names_insert h e.1 e.2

mutual

theorem store_eq_insertAll :
    (c : Cache) → (key : String) → (v : Value) → c.store key v = c.insertAll (v.leaves key)
  | c, key, .record fields => by
    unfold store Value.leaves
    exact storeFields_eq_insertAll c key fields
  | _, _, .bool _ | _, _, .int _ | _, _, .uint _ | _, _, .string _ | _, _, .bytes _
  | _, _, .address _ | _, _, .array _ | _, _, .g1 _ | _, _, .g2 _ => by
    unfold store Value.leaves
    rfl

theorem storeFields_eq_insertAll :
    (c : Cache) → (key : String) → (fields : List (String × Value)) →
      c.storeFields key fields = c.insertAll (Value.fieldLeaves key fields)
  | _, _, [] => by
    unfold storeFields Value.fieldLeaves
    rfl
  | c, key, (name, v) :: r => by
    unfold storeFields Value.fieldLeaves
    rw [insertAll_append, ← store_eq_insertAll, storeFields_eq_insertAll]

end

theorem seedFields_eq_insertAll (space : String) (c : Cache) (fields : List (String × Value)) :
    seedFields space c fields =
      c.insertAll (fields.flatMap fun f => f.2.leaves (space ++ f.1)) := by
  induction fields generalizing c with
  | nil => rfl
  | cons field r ih =>
    obtain ⟨name, v⟩ := field
    unfold seedFields
    rw [ih, List.flatMap_cons, insertAll_append, store_eq_insertAll]

end Cache

namespace Settings

def insertAll (made : Settings) (new : List (String × Json)) : Settings :=
  new.foldl (fun made e => made.insert e.1 e.2) made

theorem insertAll_append (made : Settings) (a b : List (String × Json)) :
    made.insertAll (a ++ b) = (made.insertAll a).insertAll b :=
  List.foldl_append

theorem find?_insertAll (made : Settings) (new : List (String × Json)) (q : String) :
    (made.insertAll new).find? q = (Assoc.find? q new.reverse).or (made.find? q) :=
  Assoc.find?_foldl (fun q made => made.find? q) SortedMap.find?_insert q new made

variable {path name : String}

theorem extend_eq_fieldKey (h : path ≠ "") : extend path name = Cache.fieldKey path name := by
  unfold extend Cache.fieldKey
  rw [if_neg]
  simpa using h

theorem extend_empty (name : String) : extend "" name = name := by
  rfl

theorem fieldKey_ne_empty (path name : String) : Cache.fieldKey path name ≠ "" := by
  unfold Cache.fieldKey
  simp

mutual

theorem enter_eq_insertAll :
    (made : Settings) → {path : String} → path ≠ "" → (j : Json) →
      made.enter path j = made.insertAll (j.leaves path)
  | made, path, h, .object members => by
    unfold enter Json.leaves
    exact enterMembers_eq_insertAll made h members
  | _, path, h, .null | _, path, h, .bool _ | _, path, h, .number _ | _, path, h, .string _
  | _, path, h, .array _ | _, path, h, .broken => by
    unfold enter Json.leaves
    rw [if_neg]
    . rfl
    . simpa using h

theorem enterMembers_eq_insertAll :
    (made : Settings) → {path : String} → path ≠ "" → (members : List (String × Json)) →
      made.enterMembers path members = made.insertAll (Json.memberLeaves path members)
  | _, _, _, [] => by
    unfold enterMembers Json.memberLeaves
    rfl
  | made, path, h, (name, j) :: r => by
    unfold enterMembers Json.memberLeaves
    rw [insertAll_append, extend_eq_fieldKey h,
      ← enter_eq_insertAll made (fieldKey_ne_empty path name) j, enterMembers_eq_insertAll _ h r]

end

/-- The settings of a document are the leaves of its members, if these have names. -/
theorem ofJson_object {members : List (String × Json)} (h : ∀ m ∈ members, m.1 ≠ "") :
    ofJson (.object members) = insertAll {} (Json.leavesOf members) := by
  unfold ofJson enter
  generalize ({} : Settings) = made
  induction members generalizing made with
  | nil =>
    unfold enterMembers
    rfl
  | cons m r ih =>
    obtain ⟨hm, hr⟩ := List.forall_mem_cons.1 h
    obtain ⟨name, j⟩ := m
    unfold enterMembers Json.leavesOf
    rw [ih hr, List.flatMap_cons, insertAll_append, extend_empty, enter_eq_insertAll made hm j]
    rfl

end Settings

section Document

variable {j : Json}

theorem Json.memberLeaves_eq_flatMap (path : String) (members : List (String × Json)) :
    Json.memberLeaves path members =
      members.flatMap fun m => m.2.leaves (Cache.fieldKey path m.1) := by
  induction members with
  | nil =>
    unfold Json.memberLeaves
    rfl
  | cons m r ih =>
    obtain ⟨name, j⟩ := m
    unfold Json.memberLeaves
    rw [ih, List.flatMap_cons]

theorem Json.leaves_of_asObject?_eq_none (h : j.asObject? = none) (path : String) :
    j.leaves path = [(path, j)] := by
  cases j with
  | object members => cases h
  | _ =>
    unfold Json.leaves
    rfl

mutual

theorem Json.asObject?_eq_none_of_mem_leaves {e : String × Json} :
    (path : String) → (j : Json) → e ∈ j.leaves path → e.2.asObject? = none
  | path, .object members, h => by
    unfold Json.leaves at h
    exact Json.asObject?_eq_none_of_mem_memberLeaves path members h
  | _, .null, h | _, .bool _, h | _, .number _, h | _, .string _, h | _, .array _, h
  | _, .broken, h => by
    unfold Json.leaves at h
    rw [List.mem_singleton] at h
    rw [h]
    rfl

theorem Json.asObject?_eq_none_of_mem_memberLeaves {e : String × Json} (path : String) :
    (members : List (String × Json)) → e ∈ Json.memberLeaves path members → e.2.asObject? = none
  | [], h => by
    unfold Json.memberLeaves at h
    cases h
  | (name, j) :: r, h => by
    unfold Json.memberLeaves at h
    cases List.mem_append.1 h with
    | inl h => exact Json.asObject?_eq_none_of_mem_leaves _ j h
    | inr h => exact Json.asObject?_eq_none_of_mem_memberLeaves path r h

end

theorem Json.asObject?_eq_none_of_mem_leavesOf {e : String × Json} {members : List (String × Json)}
    (h : e ∈ Json.leavesOf members) : e.2.asObject? = none := by
  obtain ⟨m, -, he⟩ := List.mem_flatMap.1 h
  exact Json.asObject?_eq_none_of_mem_leaves m.1 m.2 he

theorem Cache.append_fieldKey (space key name : String) :
    space ++ Cache.fieldKey key name = Cache.fieldKey (space ++ key) name := by
  unfold Cache.fieldKey
  simp only [String.append_assoc]

mutual

/-- The leaves of the value of a document are the values of its leaves. -/
theorem Value.leaves_ofJson (space : String) :
    (path : String) → (j : Json) →
      (Value.ofJson j).leaves (space ++ path) = Assoc.behind space Value.ofJson (j.leaves path)
  | path, .object members => by
    unfold Value.ofJson Value.leaves Json.leaves
    exact Value.fieldLeaves_ofJsonMembers space path members
  | path, .null | path, .bool _ | path, .string _ | path, .array _ | path, .broken => by
    unfold Json.leaves Assoc.behind
    rw [List.map_singleton]
    unfold Value.ofJson Value.leaves
    rfl
  | path, .number n => by
    unfold Json.leaves Assoc.behind
    rw [List.map_singleton]
    unfold Value.ofJson Value.ofNumber
    split <;> (unfold Value.leaves; rfl)

theorem Value.fieldLeaves_ofJsonMembers (space : String) (path : String) :
    (members : List (String × Json)) →
      Value.fieldLeaves (space ++ path) (Value.ofJsonMembers members) =
        Assoc.behind space Value.ofJson (Json.memberLeaves path members)
  | [] => by
    unfold Value.ofJsonMembers Value.fieldLeaves Json.memberLeaves
    rfl
  | (name, j) :: r => by
    unfold Value.ofJsonMembers Value.fieldLeaves Json.memberLeaves Assoc.behind
    rw [List.map_append, ← Cache.append_fieldKey, Value.leaves_ofJson,
      Value.fieldLeaves_ofJsonMembers]
    rfl

end

/-- To seed a document is to insert the values of its leaves. -/
theorem Cache.seed_object (c : Cache) (space : String) (members : List (String × Json)) :
    c.seed space (.object members) =
      c.insertAll (Assoc.behind space Value.ofJson (Json.leavesOf members)) := by
  unfold Cache.seed Value.ofJson
  dsimp only
  rw [Cache.seedFields_eq_insertAll]
  congr 1
  induction members with
  | nil =>
    unfold Value.ofJsonMembers
    rfl
  | cons m r ih =>
    obtain ⟨name, j⟩ := m
    unfold Value.ofJsonMembers
    rw [List.flatMap_cons, ih, Value.leaves_ofJson]
    exact List.map_append.symm

end Document

end Registrar
