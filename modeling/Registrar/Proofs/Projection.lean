import Registrar.Proofs.Grammar.Word
import Registrar.Proofs.Insertion
import Registrar.Proofs.Validation
import Registrar.Transform

/-!
This module contains the proof that the transform `struct` relabels fields: the record that it makes
has the new names in the order in which they come first, and under each of them what the last item for
it takes from the source. Two such transforms, one after the other, are one of them. A transform is
given here by its parts, together with all blanks that may stand between them.
-/

namespace Registrar

namespace Text

theorem fields_intercalate {sep : Char} {s : List Char} {r : List (List Char)}
    (h : ∀ t ∈ s :: r, sep ∉ t) : fields sep (List.intercalate [sep] (s :: r)) = s :: r := by
  induction r generalizing s with
  | nil =>
    rw [List.intercalate_singleton]
    exact fields_of_not_mem (h s List.mem_cons_self)
  | cons t r ih =>
    rw [List.forall_mem_cons] at h
    rw [List.intercalate_cons_cons, List.append_assoc, List.singleton_append, fields_append h.1]
    rw [ih h.2]

end Text

namespace Assoc

variable {α β : Type} {q : String}

theorem find?_map_values (f : α → β) (entries : List (String × α)) :
    find? q (entries.map fun e => (e.1, f e.2)) = (find? q entries).map f := by
  induction entries with
  | nil => rfl
  | cons e r ih =>
    rw [List.map_cons]
    unfold find?
    split
    . rfl
    . exact ih

end Assoc

namespace Transform

/-- The name of a field, as it may stand in an item: without blanks at its ends, and without commas. -/
structure Label where
  text : List Char
  solid : Text.Solid text
  no_comma : ',' ∉ text

/-- A name that may be given to a field: what follows the first colon is the source. -/
structure Target extends Label where
  no_colon : ':' ∉ text

/-- An item of a `struct`, with the blanks in front of it, around its colon and behind it. -/
structure Mapping where
  before : Key.Blanks
  target : Target
  beforeColon : Key.Blanks
  afterColon : Key.Blanks
  source : Label
  after : Key.Blanks

/-- What may stand between two commas. -/
inductive Piece where
  | blank (b : Key.Blanks)
  | mapping (m : Mapping)

/-- A transform `struct` as it is written. -/
structure Projection where
  before : Key.Blanks
  beforeItems : Key.Blanks
  pieces : List Piece
  after : Key.Blanks

namespace Mapping

variable (m : Mapping)

def core : List Char :=
  m.target.text ++ (m.beforeColon.text ++ ':' :: (m.afterColon.text ++ m.source.text))

def text : List Char :=
  m.before.text ++ (m.core ++ m.after.text)

/-- The new name, and that of the source. -/
def names : String × String :=
  (String.ofList m.target.text, String.ofList m.source.text)

end Mapping

namespace Piece

def text : Piece → List Char
  | .blank b => b.text
  | .mapping m => m.text

def mapping? : Piece → Option Mapping
  | .blank _ => none
  | .mapping m => some m

end Piece

/-- The text of a transform with a name and pieces between its parentheses. -/
def callChars (name gap : List Char) (pieces : List (List Char)) : List Char :=
  name ++ (gap ++ '(' :: (List.intercalate [','] pieces ++ [')']))

namespace Projection

variable (p : Projection)

def core : List Char :=
  callChars "struct".toList p.beforeItems.text (p.pieces.map Piece.text)

def text : String :=
  String.ofList (p.before.text ++ (p.core ++ p.after.text))

/-- The text as errors show it. -/
def shown : String :=
  String.ofList p.core

def items : List Mapping :=
  p.pieces.filterMap Piece.mapping?

/-- The names that the items relate, in order. -/
def mappings : List (String × String) :=
  p.items.map Mapping.names

def targets : List String :=
  p.mappings.map (·.1)

def sources : List String :=
  p.mappings.map (·.2)

/-- The source of the last item for a name, or else the name. -/
def lastSource (name : Label) : Label :=
  ((p.items.reverse.find? fun m => m.target.text = name.text).map Mapping.source).getD name

/-- A projection in one with another one behind it. -/
def andThen (q : Projection) : Projection :=
  { q with pieces := q.items.map fun m => .mapping { m with source := p.lastSource m.source } }

end Projection

/-- What mappings make of a record: its fields have the targets as names, once each and in the order in
which they come first, and hold what the last mapping for a target names. -/
structure Relabels (mappings : List (String × String)) (source made : Record) : Prop where
  names_eq : Assoc.names made = (mappings.map (·.1)).eraseDups
  find?_eq (q : String) :
    Assoc.find? q made = (Assoc.find? q mappings.reverse).bind (Assoc.find? · source)

/-- The mappings that lead from the sources of the first ones to the targets of the second ones: each
source is replaced by the source of the last mapping for it. -/
def compose (first second : List (String × String)) : List (String × String) :=
  second.map fun (target, source) => (target, (Assoc.find? source first.reverse).getD source)

open Key

theorem Call.read?_callChars {name gap : List Char} {pieces : List (List Char)}
    (hname : Text.Solid name) (hopen : '(' ∉ name) (hgap : Text.isBlankText gap)
    (hpieces : ∀ piece ∈ pieces, ',' ∉ piece) :
    Call.read? (callChars name gap pieces) =
      some ⟨String.ofList name,
        ((pieces.map Text.trim).filter fun item => !item.isEmpty).map String.ofList⟩ := by
  have hfront : '(' ∉ name ++ gap :=
    List.not_mem_append hopen (Blanks.not_mem (by decide) ⟨gap, hgap⟩)
  have htrim : Text.trim (name ++ gap) = name := hname.trim_append hgap
  have hcut := Text.cut?_append hfront (List.intercalate [','] pieces ++ [')'])
  have hstrip : Text.stripLast? ')' (List.intercalate [','] pieces ++ [')']) =
      some (List.intercalate [','] pieces) := by
    unfold Text.stripLast?
    rw [List.getLast?_append, List.dropLast_concat]
    rfl
  unfold Call.read? callChars
  rw [← List.append_assoc, hcut]
  dsimp only [Option.bind_eq_bind, Option.bind_some]
  rw [hstrip, Option.bind_some, htrim]
  cases pieces with
  | nil => rfl
  | cons piece pieces =>
    rw [Text.fields_intercalate hpieces]
    rfl

theorem solid_callChars {name : List Char} (hname : Text.Solid name) (gap : List Char)
    (pieces : List (List Char)) : Text.Solid (callChars name gap pieces) := by
  have hclosing : Text.Solid [')'] := Text.Solid.of_ends (by decide) (by decide)
  have h := hname.append hclosing (gap ++ '(' :: List.intercalate [','] pieces)
  rw [List.append_assoc, List.cons_append] at h
  exact h

namespace Mapping

variable (m : Mapping)

theorem solid_core : Text.Solid m.core := by
  have h := m.target.solid.append m.source.solid
    (m.beforeColon.text ++ ':' :: m.afterColon.text)
  unfold core
  rw [List.append_assoc, List.cons_append] at h
  exact h

theorem not_mem_text : ',' ∉ m.text := by
  have hblanks := Blanks.not_mem (c := ',') (by decide)
  unfold text core
  simp [hblanks, m.target.no_comma, m.source.no_comma]

theorem trim_text : Text.trim m.text = m.core :=
  m.solid_core.trim_between m.before.isBlankText m.after.isBlankText

theorem mapping?_core : mapping? (String.ofList m.core) = some m.names := by
  have hfront : ':' ∉ m.target.text ++ m.beforeColon.text :=
    List.not_mem_append m.target.no_colon (m.beforeColon.not_mem (by decide))
  have htarget : Text.trim (m.target.text ++ m.beforeColon.text) = m.target.text :=
    m.target.solid.trim_append m.beforeColon.isBlankText
  have hsource : Text.trim (m.afterColon.text ++ m.source.text) = m.source.text :=
    m.source.solid.trim_blank_append m.afterColon.isBlankText
  unfold mapping? core
  rw [String.toList_ofList, ← List.append_assoc, Text.cut?_append hfront]
  dsimp only
  rw [htarget, hsource, if_neg]
  . rfl
  . simp [m.target.solid.ne_nil, m.source.solid.ne_nil]

end Mapping

theorem Piece.not_mem_text (piece : Piece) : ',' ∉ piece.text := by
  cases piece with
  | blank b => exact b.not_mem (by decide)
  | mapping m => exact m.not_mem_text

/-- Of the pieces only the items are left when blanks are stripped. -/
theorem filter_trim_pieces (pieces : List Piece) :
    ((pieces.map Piece.text).map Text.trim).filter (fun item => !item.isEmpty) =
      (pieces.filterMap Piece.mapping?).map Mapping.core := by
  induction pieces with
  | nil => rfl
  | cons piece pieces ih =>
    cases piece with
    | blank b =>
      have htrim : Text.trim b.text = [] := Text.trim_of_blank b.isBlankText
      rw [List.filterMap_cons_none rfl, ← ih]
      exact List.filter_cons_of_neg (by simp [Piece.text, htrim])
    | mapping m =>
      have htrim := m.trim_text
      have hne := m.solid_core.ne_nil
      have hpiece : Piece.mapping? (.mapping m) = some m := rfl
      rw [List.filterMap_cons_some hpiece, List.map_cons (f := Mapping.core), ← ih, ← htrim]
      exact List.filter_cons_of_pos (by simp [Piece.text, htrim, hne])

variable {shown : String} {source made : Record} {mappings : List (String × String)}

/-- What mappings take from a record, under the new names. -/
def selected (source : Record) (mappings : List (String × String)) : Record :=
  mappings.filterMap fun (target, field) => (Assoc.find? field source).map (target, ·)

/-- A projection takes every field or fails with the first one that is missing. -/
theorem project_eq {items : List String} (h : items.map mapping? = mappings.map some) :
    project shown source made items =
      match (mappings.map (·.2)).find? (· ∉ Assoc.names source) with
      | some field => .error (.missingField shown field)
      | none => .ok (.record
          ((selected source mappings).foldl (fun made e => Assoc.insert e.1 e.2 made) made)) := by
  induction mappings generalizing items made with
  | nil =>
    rw [List.map_nil, List.map_eq_nil_iff] at h
    rw [h]
    rfl
  | cons m mappings ih =>
    obtain ⟨target, field⟩ := m
    cases items with
    | nil => cases h
    | cons item items =>
      obtain ⟨hitem, hrest⟩ := List.cons.inj h
      unfold project
      rw [hitem, List.map_cons, List.find?_cons]
      cases hfound : Assoc.find? field source with
      | none =>
        have hmem := Assoc.find?_eq_none_iff.1 hfound
        simp [hmem, hfound]
      | some v =>
        have hmem : field ∈ Assoc.names source := by
          rw [← Assoc.find?_isSome_iff, hfound]
          rfl
        simp [hmem, ih hrest, selected, hfound]

/-- The record that mappings make. -/
def relabelled (source : Record) (mappings : List (String × String)) : Record :=
  (selected source mappings).foldl (fun made e => Assoc.insert e.1 e.2 made) []

theorem relabelled_eq_insertAll :
    relabelled source mappings = Assoc.insertAll (selected source mappings) [] :=
  rfl

theorem selected_cons {target field : String} {v : Value} (hv : Assoc.find? field source = some v) :
    selected source ((target, field) :: mappings) = (target, v) :: selected source mappings := by
  unfold selected
  rw [List.filterMap_cons_some]
  dsimp only
  rw [hv]
  rfl

theorem names_selected (h : ∀ field ∈ mappings.map (·.2), field ∈ Assoc.names source) :
    Assoc.names (selected source mappings) = mappings.map (·.1) := by
  induction mappings with
  | nil => rfl
  | cons m mappings ih =>
    obtain ⟨target, field⟩ := m
    rw [List.map_cons, List.forall_mem_cons] at h
    obtain ⟨v, hv⟩ := Option.isSome_iff_exists.1 ((Assoc.find?_isSome_iff field source).2 h.1)
    rw [selected_cons hv, List.map_cons, ← ih h.2]
    rfl

theorem find?_selected (q : String) (h : ∀ field ∈ mappings.map (·.2), field ∈ Assoc.names source) :
    Assoc.find? q (selected source mappings) =
      (Assoc.find? q mappings).bind (Assoc.find? · source) := by
  induction mappings with
  | nil => rfl
  | cons m mappings ih =>
    obtain ⟨target, field⟩ := m
    rw [List.map_cons, List.forall_mem_cons] at h
    obtain ⟨v, hv⟩ := Option.isSome_iff_exists.1 ((Assoc.find?_isSome_iff field source).2 h.1)
    rw [selected_cons hv, Assoc.find?, Assoc.find?]
    split
    . rw [Option.bind_some, hv]
    . exact ih h.2

theorem relabels_relabelled (h : ∀ field ∈ mappings.map (·.2), field ∈ Assoc.names source) :
    Relabels mappings source (relabelled source mappings) where
  names_eq := by
    rw [relabelled_eq_insertAll, Assoc.names_insertAll, names_selected h]
  find?_eq q := by
    have hreverse : (selected source mappings).reverse = selected source mappings.reverse :=
      List.filterMap_reverse.symm
    rw [relabelled_eq_insertAll, Assoc.find?_insertAll, Assoc.find?_nil, Option.or_none, hreverse]
    apply find?_selected
    rw [List.map_reverse]
    exact fun field hfield => h field (List.mem_reverse.1 hfield)

theorem Relabels.unique {made' : Record} (h : Relabels mappings source made)
    (h' : Relabels mappings source made') : made = made' := by
  apply Assoc.eq_of_find?_eq
  . rw [h.names_eq, h'.names_eq]
  . rw [h.names_eq]
    exact nodup_eraseDups _
  . intro q
    rw [h.find?_eq, h'.find?_eq]

/-- A target has a last mapping. -/
theorem exists_find?_reverse {target : String} (h : target ∈ mappings.map (·.1)) :
    ∃ field, Assoc.find? target mappings.reverse = some field ∧ field ∈ mappings.map (·.2) := by
  have hname : target ∈ Assoc.names mappings.reverse := by
    rw [Assoc.names_reverse, List.mem_reverse]
    exact h
  rw [← Assoc.find?_isSome_iff] at hname
  obtain ⟨field, hfield⟩ := Option.isSome_iff_exists.1 hname
  have hpair := Assoc.mem_of_find?_eq_some hfield
  exact ⟨field, hfield, List.mem_map_of_mem (List.mem_reverse.1 hpair)⟩

theorem targets_compose (first second : List (String × String)) :
    (compose first second).map (·.1) = second.map (·.1) := by
  unfold compose
  rw [List.map_map]
  rfl

/-- What is relabelled twice is relabelled by the composed mappings. -/
theorem Relabels.compose {first second : List (String × String)} {twice : Record}
    (hfirst : Relabels first source made) (hsecond : Relabels second made twice)
    (h : ∀ field ∈ second.map (·.2), field ∈ first.map (·.1)) :
    Relabels (compose first second) source twice where
  names_eq := by
    rw [targets_compose, hsecond.names_eq]
  find?_eq q := by
    have hreverse : (Transform.compose first second).reverse =
        second.reverse.map fun e => (e.1, (Assoc.find? e.2 first.reverse).getD e.2) :=
      List.map_reverse.symm
    rw [hsecond.find?_eq, hreverse,
      Assoc.find?_map_values fun field => (Assoc.find? field first.reverse).getD field]
    cases hfield : Assoc.find? q second.reverse with
    | none => rfl
    | some field =>
      have hmem : field ∈ second.map (·.2) := by
        have hpair := Assoc.mem_of_find?_eq_some hfield
        exact List.mem_map_of_mem (List.mem_reverse.1 hpair)
      obtain ⟨last, hlast, -⟩ := exists_find?_reverse (h field hmem)
      rw [Option.bind_some, hfirst.find?_eq, Option.map_some, hlast]
      rfl

namespace Projection

variable (p : Projection)

theorem solid_name : Text.Solid "struct".toList :=
  Text.Solid.of_ends (by decide) (by decide)

theorem trim_text : Text.trim p.text.toList = p.core := by
  unfold text
  rw [String.toList_ofList]
  exact (solid_callChars solid_name _ _).trim_between p.before.isBlankText p.after.isBlankText

theorem read?_core :
    Call.read? p.core =
      some ⟨"struct", p.items.map fun m => String.ofList m.core⟩ := by
  have hpieces : ∀ piece ∈ p.pieces.map Piece.text, ',' ∉ piece := by
    rw [List.forall_mem_map]
    exact fun piece _ => piece.not_mem_text
  unfold core
  rw [Call.read?_callChars solid_name (by decide) p.beforeItems.isBlankText hpieces]
  rw [filter_trim_pieces, List.map_map, String.ofList_toList]
  rfl

end Projection

/-- A projection that is applied takes its fields from the record that the value is. -/
theorem apply_text (p : Projection) (v : Value) :
    apply p.text v =
      match v.asRecord? with
      | none => .error (.notARecord p.shown v.text)
      | some source =>
        match p.sources.find? (· ∉ Assoc.names source) with
        | some field => .error (.missingField p.shown field)
        | none => .ok (.record (relabelled source p.mappings)) := by
  have hitems : (p.items.map fun m => String.ofList m.core).map mapping? = p.mappings.map some := by
    unfold Projection.mappings
    rw [List.map_map, List.map_map]
    apply List.map_congr_left
    exact fun m _ => m.mapping?_core
  unfold apply
  dsimp only
  rw [p.trim_text, p.read?_core]
  dsimp only
  rw [if_neg (by decide), if_pos rfl]
  cases v.asRecord? with
  | none => rfl
  | some source => exact project_eq hitems

theorem apply_text_eq_ok {p : Projection} {v : Value} (hv : v.asRecord? = some source)
    (h : ∀ field ∈ p.sources, field ∈ Assoc.names source) :
    apply p.text v = .ok (.record (relabelled source p.mappings)) := by
  have hnone : p.sources.find? (· ∉ Assoc.names source) = none := by
    rw [List.find?_eq_none]
    intro field hfield
    simpa using h field hfield
  rw [apply_text, hv]
  dsimp only
  rw [hnone]

theorem sources_compose {first second : List (String × String)} {field : String}
    (h : ∀ field ∈ second.map (·.2), field ∈ first.map (·.1))
    (hfield : field ∈ (compose first second).map (·.2)) : field ∈ first.map (·.2) := by
  unfold compose at hfield
  rw [List.map_map] at hfield
  obtain ⟨⟨target, source⟩, hmem, rfl⟩ := List.mem_map.1 hfield
  obtain ⟨last, hlast, hsource⟩ := exists_find?_reverse (h source (List.mem_map_of_mem hmem))
  dsimp only [Function.comp_apply]
  rw [hlast]
  exact hsource

theorem find?_names (name : Label) (items : List Mapping) :
    Assoc.find? (String.ofList name.text) (items.map Mapping.names) =
      (items.find? fun m => m.target.text = name.text).map fun m => String.ofList m.source.text := by
  induction items with
  | nil => rfl
  | cons m items ih =>
    rw [List.map_cons, List.find?_cons, Mapping.names, Assoc.find?]
    by_cases h : m.target.text = name.text
    . simp [h]
    . rw [if_neg fun heq => h (String.ofList_injective heq), ih]
      simp [h]

theorem Projection.lastSource_text (p : Projection) (name : Label) :
    String.ofList (p.lastSource name).text =
      (Assoc.find? (String.ofList name.text) p.mappings.reverse).getD (String.ofList name.text) := by
  unfold Projection.mappings Projection.lastSource
  rw [← List.map_reverse, find?_names]
  cases p.items.reverse.find? fun m => m.target.text = name.text with
  | none => rfl
  | some m => rfl

/-- The mappings that two projections compose can be written as a projection. -/
theorem Projection.mappings_andThen (p q : Projection) :
    (p.andThen q).mappings = compose p.mappings q.mappings := by
  have hitems : (p.andThen q).items =
      q.items.map fun m => { m with source := p.lastSource m.source } := by
    unfold Projection.andThen
    rw [Projection.items, List.filterMap_map]
    exact congrFun List.filterMap_eq_map q.items
  unfold Projection.mappings compose
  rw [hitems, List.map_map, List.map_map]
  apply List.map_congr_left
  intro m _
  exact congrArg (String.ofList m.target.text, ·) (p.lastSource_text m.source)

theorem apply_text_composed {p q r : Projection} {v : Value} (hv : v.asRecord? = some source)
    (h : ∀ field ∈ p.sources, field ∈ Assoc.names source)
    (hq : ∀ field ∈ q.sources, field ∈ p.targets)
    (hr : r.mappings = compose p.mappings q.mappings)
    (htwice : Relabels (compose p.mappings q.mappings) source made) :
    apply r.text v = .ok (.record made) := by
  have hsources : ∀ field ∈ r.sources, field ∈ Assoc.names source := by
    intro field hfield
    unfold Projection.sources at hfield
    rw [hr] at hfield
    exact h field (sources_compose hq hfield)
  have honce := relabels_relabelled hsources
  rw [hr] at honce
  rw [apply_text_eq_ok hv hsources, hr, honce.unique htwice]

/-- A projection relabels the fields of a record, if it has all of them, and otherwise names the first
that is missing. What it makes can be projected again, which comes to any projection whose mappings are
composed of those of both. -/
theorem apply_projection (p : Projection) (v : Value) :
    (v.asRecord? = none → apply p.text v = .error (.notARecord p.shown v.text)) ∧
    ∀ source, v.asRecord? = some source →
      (∀ field, p.sources.find? (· ∉ Assoc.names source) = some field →
        apply p.text v = .error (.missingField p.shown field)) ∧
      ((∀ field ∈ p.sources, field ∈ Assoc.names source) →
        ∃ made, apply p.text v = .ok (.record made) ∧ Relabels p.mappings source made ∧
          ∀ q : Projection, (∀ field ∈ q.sources, field ∈ p.targets) →
            ∃ twice, apply q.text (.record made) = .ok (.record twice) ∧
              apply (p.andThen q).text v = .ok (.record twice) ∧
              ∀ r : Projection, r.mappings = compose p.mappings q.mappings →
                apply r.text v = .ok (.record twice)) := by
  refine ⟨?_, ?_⟩
  . intro hv
    rw [apply_text, hv]
  . intro source hv
    refine ⟨?_, ?_⟩
    . intro field hfield
      rw [apply_text, hv]
      dsimp only
      rw [hfield]
    . intro h
      have hfirst := relabels_relabelled h
      refine ⟨_, apply_text_eq_ok hv h, hfirst, ?_⟩
      intro q hq
      have hmade : ∀ field ∈ q.sources, field ∈ Assoc.names (relabelled source p.mappings) := by
        intro field hfield
        rw [hfirst.names_eq, List.mem_eraseDups]
        exact hq field hfield
      have htwice := hfirst.compose (relabels_relabelled hmade) hq
      refine ⟨_, apply_text_eq_ok rfl hmade, ?_, ?_⟩
      . exact apply_text_composed hv h hq (p.mappings_andThen q) htwice
      . exact fun r hr => apply_text_composed hv h hq hr htwice

/-- A name of one letter. -/
def Target.letter (c : Char) (hblank : Text.isBlank c = false) (hcomma : c ≠ ',')
    (hcolon : c ≠ ':') : Target where
  text := [c]
  solid := ⟨⟨c, [], rfl, hblank⟩, ⟨[], c, rfl, hblank⟩⟩
  no_comma := by simp [Ne.symm hcomma]
  no_colon := by simp [Ne.symm hcolon]

/-- An item with a blank between all of its parts. -/
def Mapping.spaced (target source : Target) : Mapping where
  before := ⟨[' '], rfl⟩
  target := target
  beforeColon := ⟨[' '], rfl⟩
  afterColon := ⟨[' '], rfl⟩
  source := source.toLabel
  after := ⟨[], rfl⟩

def Projection.plain (pieces : List Piece) : Projection where
  before := ⟨[], rfl⟩
  beforeItems := ⟨[], rfl⟩
  pieces := pieces
  after := ⟨[], rfl⟩

/-- A field that comes twice, and a name that is given twice, with an empty item in between; then the
result is projected again. -/
theorem apply_projection_again :
    let a := Target.letter 'a' rfl (by decide) (by decide)
    let b := Target.letter 'b' rfl (by decide) (by decide)
    let x := Target.letter 'x' rfl (by decide) (by decide)
    let y := Target.letter 'y' rfl (by decide) (by decide)
    let v := Value.record [("x", .uint 1), ("y", .uint 2), ("x", .uint 3)]
    let p := Projection.plain [.mapping (.spaced a x), .blank ⟨[], rfl⟩, .mapping (.spaced b x),
      .mapping (.spaced a y)]
    let q := Projection.plain [.mapping (.spaced x b), .mapping (.spaced y a)]
    let r := Projection.plain [.mapping (.spaced x x), .mapping (.spaced y y)]
    p.text = "struct( a : x,, b : x, a : y)" ∧
      ∃ made twice, apply p.text v = .ok (.record made) ∧ Assoc.names made = ["a", "b"] ∧
        apply q.text (.record made) = .ok (.record twice) ∧ apply r.text v = .ok (.record twice) := by
  intro a b x y v p q r
  refine ⟨rfl, ?_⟩
  obtain ⟨made, hmade, hrelabels, htwice⟩ := ((apply_projection p v).2 _ rfl).2 (by decide)
  obtain ⟨twice, hq, -, hr⟩ := htwice q (by decide)
  refine ⟨made, twice, hmade, ?_, hq, hr r (by decide)⟩
  rw [hrelabels.names_eq]
  decide

end Transform

end Registrar
