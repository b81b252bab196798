import Mathlib.Data.List.Induction
import Registrar.Builtin.Keys
import Registrar.Proofs.Leaves

/-!
This module contains what insertions make of named entries. An insertion changes the first entry of
its name, which is the one that is found, or adds one at the end. A history of insertions leaves each
name once, in the order in which the names come first, with the value that comes last for it. In this
sense records are ordered maps, those that repeat a name included, and the records that signatures are
packaged in are made of insertions.
-/

namespace Registrar

theorem eraseDups_concat (l : List String) (a : String) :
    (l ++ [a]).eraseDups = if a ∈ l then l.eraseDups else l.eraseDups ++ [a] := by
  rw [List.eraseDups_append, List.cons_removeAll, List.nil_removeAll]
  by_cases h : a ∈ l
  . simp [h]
  . have hsingle : [a].eraseDups = [a] := rfl
    simp [h, hsingle]

theorem nodup_eraseDups (l : List String) : l.eraseDups.Nodup := by
  induction l using List.reverseRecOn with
  | nil => exact List.nodup_nil
  | append_singleton l a ih =>
    rw [eraseDups_concat]
    split
    . exact ih
    . next h =>
      rw [← List.concat_eq_append]
      apply ih.concat
      rw [List.mem_eraseDups]
      exact h

namespace Assoc

variable {α : Type} {key q : String} {value old v : α}
  {before after entries history new made a b : List (String × α)}

/-- Entries whose names do not repeat are determined by their names, in order, and by what is found. -/
theorem eq_of_find?_eq (hnames : names a = names b) (hnodup : (names a).Nodup)
    (h : ∀ q, find? q a = find? q b) : a = b := by
  induction a generalizing b with
  | nil =>
    cases b with
    | nil => rfl
    | cons e b => cases hnames
  | cons e a ih =>
    cases b with
    | nil => cases hnames
    | cons f b =>
      obtain ⟨key, v⟩ := e
      obtain ⟨key', w⟩ := f
      have hcons : key = key' ∧ names a = names b := List.cons.inj hnames
      obtain ⟨rfl, hrest⟩ := hcons
      have hrepeats : key ∉ names a ∧ (names a).Nodup := List.nodup_cons.1 hnodup
      obtain ⟨hkey, hnodup⟩ := hrepeats
      have hv : v = w := by simpa [find?] using h key
      rw [hv, ih hrest hnodup]
      intro q
      by_cases hq : q = key
      . rw [hq, find?_eq_none_iff.2 hkey]
        rw [hrest] at hkey
        exact (find?_eq_none_iff.2 hkey).symm
      . simpa [find?, Ne.symm hq] using h q

/-- What it means that a value has been set under a name. Of entries with this name the first is the
one that counts, before and after; all others stay as they are. -/
structure Inserted (key : String) (value : α) (entries made : List (String × α)) : Prop where
  find?_self : find? key made = some value
  find?_other (q : String) (h : q ≠ key) : find? q made = find? q entries
  names_kept : names entries <+: names made
  grows_iff : made.length = entries.length + 1 ↔ key ∉ names entries
  length_of_mem (h : key ∈ names entries) : made.length = entries.length
  added (h : key ∉ names entries) : made = entries ++ [(key, value)]
  changed (before after : List (String × α)) (old : α)
    (hentries : entries = before ++ (key, old) :: after) (h : key ∉ names before) :
    find? key entries = some old ∧ made = before ++ (key, value) :: after

/-- What it means that a history of insertions comes to certain entries: each name stands there once,
in the order in which the names come first in the history, with the value that comes last for it. -/
structure Condensed (history made : List (String × α)) : Prop where
  nodup_names : (names made).Nodup
  names_eq : names made = (names history).eraseDups
  find?_eq_some_iff (q : String) (v : α) : find? q made = some v ↔
    ∃ earlier later, history = earlier ++ (q, v) :: later ∧ q ∉ names later

/-- Insert entries one after the other. -/
def insertAll (new entries : List (String × α)) : List (String × α) :=
  new.foldl (fun made e => insert e.1 e.2 made) entries

theorem length_names (entries : List (String × α)) : (names entries).length = entries.length :=
  List.length_map _

theorem names_append (a b : List (String × α)) : names (a ++ b) = names a ++ names b :=
  List.map_append

theorem not_mem_names_cons {e : String × α} (h : key ∉ names (e :: entries)) :
    e.1 ≠ key ∧ key ∉ names entries := by
  unfold names at h
  rw [List.map_cons, List.mem_cons, not_or] at h
  exact ⟨Ne.symm h.1, h.2⟩

theorem exists_first (h : key ∈ names entries) :
    ∃ before v after, entries = before ++ (key, v) :: after ∧ key ∉ names before := by
  obtain ⟨front, back, hnames, hfront⟩ := List.eq_append_cons_of_mem h
  obtain ⟨before, rest, rfl, rfl, hrest⟩ := List.map_eq_append_iff.1 hnames
  obtain ⟨⟨_, v⟩, after, rfl, rfl, -⟩ := List.map_eq_cons_iff.1 hrest
  exact ⟨before, v, after, rfl, hfront⟩

theorem find?_first (h : key ∉ names before) :
    find? key (before ++ (key, value) :: after) = some value := by
  rw [find?_append, find?_eq_none_iff.2 h, Option.none_or]
  unfold find?
  rw [if_pos rfl]

theorem find?_eq_some_iff_first :
    find? key entries = some v ↔
      ∃ before after, entries = before ++ (key, v) :: after ∧ key ∉ names before := by
  constructor
  . intro h
    obtain ⟨before, w, after, rfl, hbefore⟩ :=
      exists_first (mem_names_of_mem (mem_of_find?_eq_some h))
    rw [find?_first hbefore] at h
    cases h
    exact ⟨before, after, rfl, hbefore⟩
  . rintro ⟨before, after, rfl, hbefore⟩
    exact find?_first hbefore

/-- What is found in reverse is what comes last. -/
theorem find?_reverse_eq_some_iff :
    find? key entries.reverse = some v ↔
      ∃ earlier later, entries = earlier ++ (key, v) :: later ∧ key ∉ names later := by
  rw [find?_eq_some_iff_first]
  constructor
  . rintro ⟨before, after, heq, hbefore⟩
    refine ⟨after.reverse, before.reverse, ?_, ?_⟩
    . rw [List.reverse_eq_iff.1 heq]
      simp
    . rw [names_reverse, List.mem_reverse]
      exact hbefore
  . rintro ⟨earlier, later, rfl, hlater⟩
    refine ⟨later.reverse, earlier.reverse, ?_, ?_⟩
    . simp
    . rw [names_reverse, List.mem_reverse]
      exact hlater

theorem insert_first (h : key ∉ names before) (old value : α) (after : List (String × α)) :
    insert key value (before ++ (key, old) :: after) = before ++ (key, value) :: after := by
  induction before with
  | nil =>
    unfold insert
    exact if_pos rfl
  | cons e before ih =>
    obtain ⟨hne, hbefore⟩ := not_mem_names_cons h
    rw [List.cons_append, insert, if_neg hne, ih hbefore, List.cons_append]

theorem insert_of_not_mem (h : key ∉ names entries) (value : α) :
    insert key value entries = entries ++ [(key, value)] := by
  induction entries with
  | nil => rfl
  | cons e entries ih =>
    obtain ⟨hne, hentries⟩ := not_mem_names_cons h
    rw [insert, if_neg hne, ih hentries, List.cons_append]

theorem length_insert (key : String) (value : α) (entries : List (String × α)) :
    (insert key value entries).length =
      if key ∈ names entries then entries.length else entries.length + 1 := by
  rw [← length_names, names_insert]
  split
  . exact length_names entries
  . rw [List.length_append, length_names, List.length_singleton]

theorem inserted_insert (key : String) (value : α) (entries : List (String × α)) :
    Inserted key value entries (insert key value entries) where
  find?_self := find?_insert_self key value entries
  find?_other q h := find?_insert_of_ne h value entries
  names_kept := by
    rw [names_insert]
    split
    . exact List.prefix_rfl
    . exact List.prefix_append _ _
  grows_iff := by
    rw [length_insert]
    split
    . next h => simp [h]
    . next h => simp [h]
  length_of_mem h := by
    rw [length_insert, if_pos h]
  added h := insert_of_not_mem h value
  changed before after old hentries h := by
    subst hentries
    exact ⟨find?_first h, insert_first h old value after⟩

theorem insertAll_concat (history entries : List (String × α)) (e : String × α) :
    insertAll (history ++ [e]) entries = insert e.1 e.2 (insertAll history entries) := by
  unfold insertAll
  rw [List.foldl_append]
  rfl

theorem names_insertAll (history : List (String × α)) :
    names (insertAll history []) = (names history).eraseDups := by
  -- the last insertion is the outermost one, so a history is taken apart from its end
  induction history using List.reverseRecOn with
  | nil => rfl
  | append_singleton history e ih =>
    have hsingle : names [e] = [e.1] := rfl
    rw [insertAll_concat, names_insert, ih, names_append, hsingle, eraseDups_concat]
    simp only [List.mem_eraseDups]

theorem find?_insertAll (q : String) (new entries : List (String × α)) :
    find? q (insertAll new entries) = (find? q new.reverse).or (find? q entries) :=
  find?_foldl find? (fun made key v q => find?_insert key v made q) q new entries

theorem condensed_insertAll (history : List (String × α)) :
    Condensed history (insertAll history []) where
  nodup_names := by
    rw [names_insertAll]
    exact nodup_eraseDups _
  names_eq := names_insertAll history
  find?_eq_some_iff q v := by
    rw [find?_insertAll, find?_nil, Option.or_none, find?_reverse_eq_some_iff]

/-- What a history comes to is determined by the history. -/
theorem Condensed.unique {other : List (String × α)} (h : Condensed history made)
    (hother : Condensed history other) : made = other := by
  apply eq_of_find?_eq
  . rw [h.names_eq, hother.names_eq]
  . exact h.nodup_names
  . intro q
    apply Option.ext
    intro v
    rw [h.find?_eq_some_iff, hother.find?_eq_some_iff]

theorem condensed_iff : Condensed history made ↔ made = insertAll history [] := by
  constructor
  . intro h
    exact h.unique (condensed_insertAll history)
  . rintro rfl
    exact condensed_insertAll history

end Assoc

namespace Builtin

variable (signature g1 g2 : Value) (valid : Validity)

/-- The record of a signature is made by one insertion after the other, of what has been given. -/
theorem signatureRecord_eq_insertAll :
    signatureRecord signature valid =
      Assoc.insertAll (valid.expiry.map ("expiry", ·)).toList
        (Assoc.insertAll (valid.salt.map ("salt", ·)).toList
          (Assoc.insert "signature" signature [])) := by
  obtain ⟨salt, expiry⟩ := valid
  cases salt <;> cases expiry <;> rfl

/-- Public keys are inserted behind all that is there. -/
theorem signatureRecord_append_eq_insert :
    signatureRecord signature valid ++ [("pubkeyG1", g1), ("pubkeyG2", g2)] =
      Assoc.insert "pubkeyG2" g2 (Assoc.insert "pubkeyG1" g1 (signatureRecord signature valid)) := by
  obtain ⟨salt, expiry⟩ := valid
  cases salt <;> cases expiry <;> rfl

end Builtin

namespace Record

/-- Records are ordered maps. An insertion sets one name and leaves the others alone, whether names
repeat or not, and a record is what a history of insertions leaves if and only if it has each name
once, in the order in which the names come first, with the value that comes last. The records that
signatures are packaged in are made of insertions. -/
theorem inserted_in_order :
    (∀ (record : Record) (name : String) (v : Value),
      Assoc.Inserted name v record (Assoc.insert name v record)) ∧
    (∀ history made : Record,
      made = Assoc.insertAll history [] ↔ Assoc.Condensed history made) ∧
    ∀ (signature g1 g2 : Value) (valid : Builtin.Validity),
      Builtin.signatureRecord signature valid =
        Assoc.insertAll (valid.expiry.map ("expiry", ·)).toList
          (Assoc.insertAll (valid.salt.map ("salt", ·)).toList
            (Assoc.insert "signature" signature [])) ∧
      Builtin.signatureRecord signature valid ++ [("pubkeyG1", g1), ("pubkeyG2", g2)] =
        Assoc.insert "pubkeyG2" g2
          (Assoc.insert "pubkeyG1" g1 (Builtin.signatureRecord signature valid)) := by
  refine ⟨?_, ?_, ?_⟩
  . intro record name v
    exact Assoc.inserted_insert name v record
  . intro history made
    exact Assoc.condensed_iff.symm
  . intro signature g1 g2 valid
    exact ⟨Builtin.signatureRecord_eq_insertAll signature valid,
      Builtin.signatureRecord_append_eq_insert signature g1 g2 valid⟩

/-- The first of two fields of one name is the one that is replaced, and a name that is inserted again
keeps its place. -/
theorem inserted_in_order_repeating :
    let record : Record := [("x", .uint 1), ("y", .uint 2), ("x", .uint 3)]
    let history : Record := [("b", .uint 1), ("a", .uint 2), ("b", .uint 3)]
    Assoc.insert "x" (.uint 9) record = [("x", .uint 9), ("y", .uint 2), ("x", .uint 3)] ∧
      Assoc.find? "y" (Assoc.insert "x" (.uint 9) record) = some (.uint 2) ∧
      Assoc.insert "z" (.uint 9) record = record ++ [("z", .uint 9)] ∧
      Assoc.names (Assoc.insertAll history []) = ["b", "a"] ∧
      Assoc.find? "b" (Assoc.insertAll history []) = some (.uint 3) := by
  intro record history
  obtain ⟨hinsert, hhistory, -⟩ := inserted_in_order
  have hx := hinsert record "x" (.uint 9)
  have hz := hinsert record "z" (.uint 9)
  have hall := (hhistory history _).1 rfl
  refine ⟨?_, ?_, ?_, ?_, ?_⟩
  . exact (hx.changed [] [("y", .uint 2), ("x", .uint 3)] (.uint 1) rfl List.not_mem_nil).2
  . exact hx.find?_other "y" (by decide)
  . exact hz.added (by decide)
  . exact hall.names_eq
  . exact (hall.find?_eq_some_iff "b" (.uint 3)).2
      ⟨[("b", .uint 1), ("a", .uint 2)], [], rfl, List.not_mem_nil⟩

end Record

end Registrar
