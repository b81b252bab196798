import Mathlib.Data.List.Forall2
import Mathlib.Data.List.Perm.Basic
import Registrar.Json.Members
import Registrar.Proofs.Document.Text
import Registrar.Proofs.Leaves

/-!
This module contains documents that differ in the order of members only, and the proof that this
order makes no difference where a part of a document is taken apart by the names of its members.
-/

namespace Registrar

namespace Assoc

variable {α : Type} {entries others : List (String × α)}

theorem nodup_names_iff_of_perm (h : entries.Perm others) :
    (names entries).Nodup ↔ (names others).Nodup :=
  (h.map _).nodup_iff

theorem find?_eq_of_perm (hnodup : (names entries).Nodup) (h : entries.Perm others) (q : String) :
    find? q entries = find? q others := by
  apply Option.ext
  intro v
  rw [find?_eq_some_iff hnodup, find?_eq_some_iff ((nodup_names_iff_of_perm h).1 hnodup), h.mem_iff]

/-- Where no name repeats, as many entries of another list are all of its entries, in some order. -/
theorem perm_of_subset (hnodup : (names entries).Nodup) (h : entries ⊆ others)
    (hlength : others.length ≤ entries.length) : entries.Perm others :=
  (List.subperm_of_subset (nodup_of_nodup_names hnodup) h).perm_of_length_le hlength

theorem eq_of_subset {a b c : List (String × α)} (hnames : names a = names b)
    (ha : a ⊆ c) (hb : b ⊆ c) (hc : (names c).Nodup) : a = b := by
  induction a generalizing b with
  | nil =>
    cases b with
    | nil => rfl
    | cons e b => cases hnames
  | cons e a ih =>
    cases b with
    | nil => cases hnames
    | cons f b =>
      obtain ⟨key, v⟩ := e
      obtain ⟨key', w⟩ := f
      obtain ⟨rfl, hrest⟩ : key = key' ∧ names a = names b := List.cons.inj hnames
      rw [List.cons_subset, ← find?_eq_some_iff hc] at ha hb
      have hv : v = w := Option.some.inj (ha.1.symm.trans hb.1)
      rw [hv, ih hrest ha.2 hb.2]

end Assoc

theorem mapM_eq_some_of_forall₂ {α β : Type} {f : α → Option β} {as : List α}
    {bs : List β} (h : List.Forall₂ (fun a b => f a = some b) as bs) : as.mapM f = some bs := by
  induction h with
  | nil => rfl
  | cons hhead _ ih =>
    rw [List.mapM_cons, hhead, ih]
    rfl

namespace SortedMap

variable {α : Type} {a b : SortedMap α}

theorem eq_of_find?_eq (h : ∀ q, a.find? q = b.find? q) : a = b := by
  have hperm := Assoc.perm_of_find?_eq a.nodup_names b.nodup_names h
  apply ext
  refine hperm.eq_of_pairwise ?_ a.sorted b.sorted
  intro e d _ _ hlt hgt
  exact absurd (String.lt_trans hlt hgt) (String.lt_irrefl _)

theorem ofList_of_perm {entries : List (String × α)} (h : entries.Perm a.toList) :
    ofList entries = a := by
  apply eq_of_find?_eq
  intro q
  have hnodup := (Assoc.nodup_names_iff_of_perm h).2 a.nodup_names
  have hfold := Assoc.find?_foldl (fun q (m : SortedMap α) => m.find? q)
    (fun m key v q => m.find?_insert key v q) q entries {}
  unfold ofList
  rw [hfold, Assoc.find?_reverse hnodup, Assoc.find?_eq_of_perm hnodup h]
  exact Option.or_none

end SortedMap

namespace Json

mutual

/-- The same document, with the members of its objects in any order. -/
inductive Reordered : Json → Json → Prop
  | null : Reordered .null .null
  | bool (b : Bool) : Reordered (.bool b) (.bool b)
  | number (n : Number) : Reordered (.number n) (.number n)
  | string (s : String) : Reordered (.string s) (.string s)
  | array {items others : List Json} (h : List.Forall₂ Reordered items others) :
    Reordered (.array items) (.array others)
  | object {members others made : List (String × Json)}
    (h : List.Forall₂ MemberReordered members others) (hmade : made.Perm others) :
    Reordered (.object members) (.object made)
  | broken : Reordered .broken .broken

inductive MemberReordered : String × Json → String × Json → Prop
  | mk (name : String) {j k : Json} (h : Reordered j k) : MemberReordered (name, j) (name, k)

end

mutual

theorem Reordered.refl : (j : Json) → Reordered j j
  | .null => .null
  | .bool b => .bool b
  | .number n => .number n
  | .string s => .string s
  | .array items => .array (forall₂_reordered items)
  | .object members => .object (forall₂_memberReordered members) (.refl _)
  | .broken => .broken

theorem forall₂_reordered : (items : List Json) → List.Forall₂ Reordered items items
  | [] => .nil
  | j :: r => .cons (.refl j) (forall₂_reordered r)

theorem forall₂_memberReordered :
    (members : List (String × Json)) → List.Forall₂ MemberReordered members members
  | [] => .nil
  | (name, j) :: r => .cons (.mk name (.refl j)) (forall₂_memberReordered r)

end

theorem areTextual_iff {items : List Json} : areTextual items ↔ ∀ j ∈ items, j.isTextual := by
  induction items with
  | nil => simp [areTextual]
  | cons j r ih =>
    unfold areTextual
    rw [Bool.and_eq_true, ih, List.forall_mem_cons]

theorem membersAreTextual_iff {members : List (String × Json)} :
    membersAreTextual members ↔ ∀ m ∈ members, m.2.isTextual := by
  induction members with
  | nil => simp [membersAreTextual]
  | cons m r ih =>
    unfold membersAreTextual
    rw [Bool.and_eq_true, ih, List.forall_mem_cons]

mutual

theorem Reordered.isTextual : {j k : Json} → Reordered j k → j.isTextual → k.isTextual
  | .null, k, hr, h => by cases hr; exact h
  | .bool b, k, hr, h => by cases hr; exact h
  | .number n, k, hr, h => by cases hr; exact h
  | .string s, k, hr, h => by cases hr; exact h
  | .array items, k, hr, h => by
    cases hr with
    | array hitems =>
      unfold Json.isTextual at h ⊢
      exact areTextual_of_forall₂ hitems h
  | .object members, k, hr, h => by
    cases hr with
    | object hmembers hmade =>
      unfold Json.isTextual at h ⊢
      have hothers := membersAreTextual_of_forall₂ hmembers h
      rw [membersAreTextual_iff] at hothers ⊢
      intro m hm
      exact hothers m (hmade.subset hm)
  | .broken, k, hr, h => by cases hr; exact h

theorem areTextual_of_forall₂ : {items others : List Json} →
    List.Forall₂ Reordered items others → areTextual items → areTextual others
  | [], others, hr, h => by
    cases hr
    exact h
  | j :: r, others, hr, h => by
    cases hr with
    | cons hj hrest =>
      unfold areTextual at h ⊢
      rw [Bool.and_eq_true] at h ⊢
      exact ⟨hj.isTextual h.1, areTextual_of_forall₂ hrest h.2⟩

theorem membersAreTextual_of_forall₂ : {members others : List (String × Json)} →
    List.Forall₂ MemberReordered members others → membersAreTextual members →
      membersAreTextual others
  | [], others, hr, h => by
    cases hr
    exact h
  | (name, j) :: r, others, hr, h => by
    cases hr with
    | cons hm hrest =>
      cases hm with
      | mk name hj =>
        unfold membersAreTextual at h ⊢
        rw [Bool.and_eq_true] at h ⊢
        exact ⟨hj.isTextual h.1, membersAreTextual_of_forall₂ hrest h.2⟩

end

variable {α : Type}

/-- Whether a document comes to a part of a specification, in whatever order its members stand. -/
def Yields (read : Json → Option α) (j : Json) (a : α) : Prop :=
  ∀ k, j.Reordered k → read k = some a

namespace Yields

variable {read : Json → Option α} {j : Json} {o : Option Json} {a : α}

theorem string (s : String) : Yields asString? (.string s) s := by
  intro k hk
  cases hk
  rfl

theorem bool (b : Bool) : Yields asBool? (.bool b) b := by
  intro k hk
  cases hk
  rfl

theorem mapM {items others : List Json} {as : List α} (h : List.Forall₂ (Yields read) items as)
    (hr : List.Forall₂ Reordered items others) : others.mapM read = some as := by
  apply mapM_eq_some_of_forall₂
  induction h generalizing others with
  | nil =>
    cases hr
    exact .nil
  | cons hj _ ih =>
    cases hr with
    | cons hk hrest => exact .cons (hj _ hk) (ih hrest)

theorem list {items : List Json} {as : List α} (h : List.Forall₂ (Yields read) items as) :
    Yields (Json.list read) (.array items) as := by
  intro k hk
  cases hk with
  | array hitems =>
    unfold Json.list asArray?
    rw [Option.bind_eq_bind, Option.bind_some]
    exact mapM h hitems

theorem texts (texts : List String) :
    Yields (Json.list asString?) (.array (texts.map .string)) texts := by
  apply list
  rw [List.forall₂_map_left_iff, List.forall₂_same]
  intro s _
  exact string s

theorem required (h : Yields read j a) (ho : ∃ k, o = some k ∧ j.Reordered k) :
    Json.required read o = some a := by
  obtain ⟨k, rfl, hk⟩ := ho
  exact h k hk

theorem optional (default : α) (h : Yields read j a) (ho : ∃ k, o = some k ∧ j.Reordered k) :
    Json.optional default read o = some a := by
  obtain ⟨k, rfl, hk⟩ := ho
  exact h k hk

end Yields

section Members

variable {members others : List (String × Json)}

theorem single?_eq_find? (h : (Assoc.names members).Nodup) (name : String) :
    single? members name = some (Assoc.find? name members) := by
  induction members with
  | nil => rfl
  | cons m r ih =>
    obtain ⟨hm, hr⟩ := List.nodup_cons.1 h
    obtain ⟨key, j⟩ := m
    have hrest := ih hr
    unfold single? at hrest ⊢
    unfold Assoc.find?
    rw [List.filter_cons]
    by_cases heq : key = name
    . subst heq
      have hnone : r.filter (fun m => m.1 = key) = [] := by
        rw [List.filter_eq_nil_iff]
        intro m hmem hname
        apply hm
        rw [← of_decide_eq_true hname]
        exact Assoc.mem_names_of_mem hmem
      simp only [decide_true, if_true, hnone]
    . simp only [heq, decide_false, Bool.false_eq_true, if_false]
      exact hrest

theorem members?_object (h : (Assoc.names members).Nodup) (names : List String) :
    members? names (.object members) = some (names.map fun name => Assoc.find? name members) := by
  unfold members?
  dsimp only
  rw [funext (single?_eq_find? h)]
  exact List.mapM_pure

theorem names_eq_of_forall₂ (h : List.Forall₂ MemberReordered members others) :
    Assoc.names others = Assoc.names members := by
  induction h with
  | nil => rfl
  | cons hm _ ih =>
    cases hm with
    | mk name _ =>
      unfold Assoc.names at ih ⊢
      rw [List.map_cons, List.map_cons, ih]

theorem exists_mem_of_mem (h : List.Forall₂ MemberReordered members others) :
    ∀ m ∈ members, ∃ k, (m.1, k) ∈ others ∧ m.2.Reordered k := by
  induction h with
  | nil => simp
  | cons hm _ ih =>
    rw [List.forall_mem_cons]
    constructor
    . cases hm with
      | mk name hj => exact ⟨_, List.mem_cons_self, hj⟩
    . intro m hmem
      obtain ⟨k, hk, hj⟩ := ih m hmem
      exact ⟨k, List.mem_cons_of_mem _ hk, hj⟩

theorem exists_members?_eq (hnodup : (Assoc.names members).Nodup) {k : Json}
    (h : Reordered (.object members) k) (names : List String) :
    ∃ f : String → Option Json, members? names k = some (names.map f) ∧
      ∀ m ∈ members, ∃ j, f m.1 = some j ∧ m.2.Reordered j := by
  cases h with
  | object h hmade =>
    rw [← names_eq_of_forall₂ h, ← Assoc.nodup_names_iff_of_perm hmade] at hnodup
    refine ⟨_, members?_object hnodup names, ?_⟩
    intro m hm
    obtain ⟨k, hk, hj⟩ := exists_mem_of_mem h m hm
    exact ⟨k, (Assoc.find?_eq_some_iff hnodup).2 (hmade.mem_iff.2 hk), hj⟩

end Members

end Json

end Registrar
