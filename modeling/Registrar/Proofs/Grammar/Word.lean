import Registrar.Proofs.Insertion
import Registrar.Proofs.Nesting

/-!
This module contains the words that key expressions are made of, and what the scanners make of the
texts they form: a literal or a callee behind the name of its source, arguments between parentheses,
and a transform behind an arrow.
-/

namespace Registrar

namespace Key

structure Blanks where
  text : List Char
  isBlankText : Text.isBlankText text

/-- A text without parentheses, commas and arrows, and without blanks at its ends. -/
structure Word where
  text : List Char
  edges : text = [] ∨ Text.Solid text
  no_opening : '(' ∉ text
  no_closing : ')' ∉ text
  no_comma : ',' ∉ text
  no_arrow : ¬ "->".toList <:+: text

structure Name extends Word where
  ne_nil : text ≠ []

structure ParameterName extends Name where
  no_equals : '=' ∉ text

/-- What may follow an arrow. -/
structure Ending where
  text : List Char
  solid : Text.Solid text
  isSealed : Sealed text

/-- A literal behind the name of its source. Without one it must not look as if it had one. -/
structure Literal where
  source : KeySource
  word : Word
  proper : match source with
    | .call | .func => False
    | .bare => word.text ≠ [] ∧ ∀ s ∈ KeySource.named, ¬ s.marker <+: word.text
    | _ => True

/-- The name of a parameter, with the blanks in front of it and before its equals sign. -/
structure Slot where
  before : Blanks
  name : ParameterName
  after : Blanks

def Slot.filled (slot : Slot) (before : Blanks) (key : List Char) : List Char :=
  slot.name.text ++ (slot.after.text ++ '=' :: (before.text ++ key))

def endingChars : Option Ending → List Char
  | none => []
  | some e => "->".toList ++ e.text

def expressionChars (source : KeySource) (payload : List Char) (ending : Option Ending) :
    List Char :=
  source.marker ++ (payload ++ endingChars ending)

def invocationChars (callee : List Char) (arguments : List (List Char)) : List Char :=
  callee ++ '(' :: (List.intercalate [','] arguments ++ [')'])

variable {source : KeySource} {w payload : List Char} {arguments : List (List Char)}

theorem Blanks.not_mem {c : Char} (hc : Text.isBlank c = false) (b : Blanks) : c ∉ b.text := by
  intro hmem
  have h := List.all_eq_true.1 b.isBlankText c hmem
  rw [hc] at h
  cases h

theorem Blanks.isSealed (b : Blanks) : Sealed b.text :=
  sealed_of_not_mem (b.not_mem (by decide)) (b.not_mem (by decide)) (b.not_mem (by decide))

theorem Word.isSealed (w : Word) : Sealed w.text :=
  sealed_of_not_mem w.no_opening w.no_closing w.no_comma

theorem Name.solid (n : Name) : Text.Solid n.text :=
  n.edges.resolve_left n.ne_nil

theorem not_infix_of_not_mem (hw : '-' ∉ w) : ¬ "->".toList <:+: w :=
  fun h => hw (h.subset List.mem_cons_self)

theorem not_infix_append {m : List Char} (hm : '-' ∉ m) (hw : ¬ "->".toList <:+: w) :
    ¬ "->".toList <:+: m ++ w := by
  induction m with
  | nil => exact hw
  | cons c m ih =>
    rw [List.mem_cons, not_or] at hm
    rw [List.cons_append, List.infix_cons_iff, not_or]
    constructor
    . intro h
      exact hm.1 (List.cons_prefix_cons.1 h).1
    . exact ih hm.2

/-- The names of the built-in functions are names of the grammar. -/
def builtinName (b : Builtin) : Name where
  text := b.name.toList
  edges := by
    apply Or.inr
    apply Text.Solid.of_ends
    . cases b <;> decide
    . cases b <;> decide
  no_opening := by cases b <;> decide
  no_closing := by cases b <;> decide
  no_comma := by cases b <;> decide
  no_arrow := by
    apply not_infix_of_not_mem
    cases b <;> decide
  ne_nil := by cases b <;> decide

theorem not_mem_marker (source : KeySource) {c : Char} (hc : c ∈ ['-', '(', ')', ',']) :
    c ∉ source.marker := by
  rw [List.mem_cons, List.mem_cons, List.mem_cons, List.mem_singleton] at hc
  obtain rfl | rfl | rfl | rfl := hc
  . cases source <;> decide
  . cases source <;> decide
  . cases source <;> decide
  . cases source <;> decide

theorem sealed_marker (source : KeySource) : Sealed source.marker := by
  apply sealed_of_not_mem
  . exact not_mem_marker source (by decide)
  . exact not_mem_marker source (by decide)
  . exact not_mem_marker source (by decide)

theorem solid_marker (hs : source ≠ .bare) : Text.Solid source.marker := by
  apply Text.Solid.of_ends
  . cases source with
    | bare => exact absurd rfl hs
    | _ => decide
  . cases source with
    | bare => exact absurd rfl hs
    | _ => decide

theorem solid_marked (source : KeySource) (hs : source ≠ .bare) (hw : w = [] ∨ Text.Solid w) :
    Text.Solid (source.marker ++ w) := by
  cases hw with
  | inl hw =>
    rw [hw, List.append_nil]
    exact solid_marker hs
  | inr hw => exact (solid_marker hs).append hw []

theorem splitSource_marker (source : KeySource) (hs : source ≠ .bare) (w : List Char) :
    splitSource (source.marker ++ w) = (source, w) := by
  cases source with
  | bare => exact absurd rfl hs
  | _ => rfl

/-- A text that does not begin with a marker does not get one from what begins with an arrow. -/
theorem stripStart?_marker_eq_none (hw : ¬ source.marker <+: w) (ending : Option Ending) :
    Text.stripStart? source.marker (w ++ endingChars ending) = none := by
  cases hs : Text.stripStart? source.marker (w ++ endingChars ending) with
  | none => rfl
  | some r =>
    cases List.append_eq_append_iff.1 (Text.stripStart?_eq_some hs) with
    | inl h =>
      obtain ⟨m, hmarker, hending⟩ := h
      cases m with
      | nil =>
        rw [List.append_nil] at hmarker
        exact absurd (hmarker ▸ List.prefix_rfl) hw
      | cons c m =>
        cases ending with
        | none => cases hending
        | some e =>
          have hmem : c ∈ source.marker := by simp [hmarker]
          have heq : '-' = c := (List.cons.inj hending).1
          rw [← heq] at hmem
          exact absurd hmem (not_mem_marker source (by decide))
    | inr h =>
      obtain ⟨m, hmarker, -⟩ := h
      exact absurd ⟨m, hmarker.symm⟩ hw

theorem sealed_endingChars (ending : Option Ending) : Sealed (endingChars ending) := by
  cases ending with
  | none => exact .nil
  | some e =>
    apply Sealed.append _ e.isSealed
    apply sealed_of_not_mem <;> decide

theorem sealed_expressionChars (source : KeySource) (hp : Sealed payload)
    (ending : Option Ending) : Sealed (expressionChars source payload ending) := by
  apply (sealed_marker source).append
  exact hp.append (sealed_endingChars ending)

theorem sealed_invocationChars (callee : Name) (ha : ∀ a ∈ arguments, Sealed a) :
    Sealed (invocationChars callee.text arguments) := by
  apply callee.isSealed.append
  apply Sealed.nested _ .nil
  exact balanced_intercalate fun a h => (ha a h).balanced

theorem sealed_filled (slot : Slot) (before : Blanks) (hw : Sealed w) :
    Sealed (slot.filled before w) := by
  apply slot.name.isSealed.append
  apply slot.after.isSealed.append
  apply Sealed.plain (by decide)
  exact before.isSealed.append hw

theorem solid_endingChars (ending : Option Ending) (hw : Text.Solid w) :
    Text.Solid (w ++ endingChars ending) := by
  cases ending with
  | none =>
    unfold endingChars
    rw [List.append_nil]
    exact hw
  | some e => exact hw.append e.solid "->".toList

theorem solid_invocationChars (callee : Name) (arguments : List (List Char)) :
    Text.Solid (invocationChars callee.text arguments) := by
  have hclosing : Text.Solid [')'] := Text.Solid.of_ends (by decide) (by decide)
  exact callee.solid.append hclosing ('(' :: List.intercalate [','] arguments)

theorem solid_filled (slot : Slot) (before : Blanks) (hw : Text.Solid w) :
    Text.Solid (slot.filled before w) := by
  have h := slot.name.solid.append hw (slot.after.text ++ '=' :: before.text)
  rw [List.append_assoc, List.cons_append] at h
  exact h

theorem head?_endingChars (ending : Option Ending) : (endingChars ending).head? ≠ some '>' := by
  cases ending with
  | none => nofun
  | some e => exact fun h => absurd (Option.some.inj h) (by decide)

theorem cutArrow?_endingChars (ending : Option Ending) :
    cutArrow? 0 (endingChars ending) = ending.map fun e => ([], e.text) := by
  cases ending with
  | none => rfl
  | some e => rfl

theorem cutWord?_endingChars (ending : Option Ending) :
    Text.cutWord? "->".toList (endingChars ending) = ending.map fun e => ([], e.text) := by
  cases ending with
  | none => rfl
  | some e => rfl

theorem not_infix_marker (source : KeySource) (hw : ¬ "->".toList <:+: w) :
    ¬ "->".toList <:+: source.marker ++ w :=
  not_infix_append (not_mem_marker source (by decide)) hw

theorem cutArrow?_method (target : Name) (ending : Option Ending) :
    cutArrow? 0 (KeySource.call.marker ++ target.text ++ endingChars ending) =
      ending.map fun e => (KeySource.call.marker ++ target.text, e.text) := by
  rw [cutArrow?_append (not_infix_marker .call target.no_arrow) _ _ (head?_endingChars ending)]
  . rw [cutArrow?_endingChars]
    simp [Function.comp_def]
  . exact List.not_mem_append (not_mem_marker .call (by decide)) target.no_opening
  . exact List.not_mem_append (not_mem_marker .call (by decide)) target.no_closing

theorem cutArrow?_invocation (source : KeySource) (callee : Name)
    (ha : ∀ a ∈ arguments, Sealed a) (ending : Option Ending) :
    cutArrow? 0 (source.marker ++ invocationChars callee.text arguments ++ endingChars ending) =
      ending.map fun e => (source.marker ++ invocationChars callee.text arguments, e.text) := by
  have hinner : Balanced (List.intercalate [','] arguments) :=
    balanced_intercalate fun a h => (ha a h).balanced
  have heq : source.marker ++ invocationChars callee.text arguments ++ endingChars ending =
      (source.marker ++ callee.text) ++
        '(' :: (List.intercalate [','] arguments ++ ')' :: endingChars ending) := by
    simp [invocationChars]
  rw [heq, cutArrow?_append (not_infix_marker source callee.no_arrow) _ _ (by simp)]
  . rw [cutArrow?, if_pos rfl, cutArrow?_append_of_balanced hinner]
    rw [cutArrow?, if_neg (by decide), if_pos rfl, cutArrow?_endingChars]
    simp [Function.comp_def, invocationChars]
  . exact List.not_mem_append (not_mem_marker source (by decide)) callee.no_opening
  . exact List.not_mem_append (not_mem_marker source (by decide)) callee.no_closing

theorem cutWord?_literal (l : Literal) (ending : Option Ending) :
    Text.cutWord? "->".toList (l.source.marker ++ l.word.text ++ endingChars ending) =
      ending.map fun e => (l.source.marker ++ l.word.text, e.text) := by
  rw [cutWord?_append (not_infix_marker l.source l.word.no_arrow) (head?_endingChars ending)]
  rw [cutWord?_endingChars]
  simp [Function.comp_def]

theorem cutTransform?_nested (hw : isNested w = true) : cutTransform? w = cutArrow? 0 w :=
  if_pos hw

theorem cutTransform?_plain (hw : isNested w = false) :
    cutTransform? w = Text.cutWord? "->".toList w :=
  if_neg (by simp [hw])

theorem isNested_literal (l : Literal) (ending : Option Ending) :
    isNested (l.source.marker ++ l.word.text ++ endingChars ending) = false := by
  obtain ⟨source, w, hp⟩ := l
  cases source with
  | call => exact hp.elim
  | func => exact hp.elim
  | config => rfl
  | const => rfl
  | passwd => rfl
  | bare =>
    have hsolid : Text.Solid w.text := w.edges.resolve_left hp.1
    have hcall := stripStart?_marker_eq_none (hp.2 .call (by decide)) ending
    have hfunc := stripStart?_marker_eq_none (hp.2 .func (by decide)) ending
    unfold isNested
    dsimp only
    rw [show KeySource.bare.marker ++ w.text = w.text from rfl, hsolid.trimStart_append]
    rw [hcall, hfunc]
    rfl

theorem splitSource_go_eq_bare {sources : List KeySource}
    (hs : ∀ s ∈ sources, ¬ s.marker <+: w) : splitSource.go w sources = (.bare, w) := by
  induction sources with
  | nil => rfl
  | cons s r ih =>
    rw [List.forall_mem_cons] at hs
    have hnone := stripStart?_marker_eq_none hs.1 none
    unfold endingChars at hnone
    rw [List.append_nil] at hnone
    unfold splitSource.go
    rw [hnone]
    exact ih hs.2

theorem splitSource_literal (l : Literal) :
    splitSource (l.source.marker ++ l.word.text) = (l.source, l.word.text) := by
  by_cases hs : l.source = .bare
  . have hp := l.proper
    rw [hs] at hp
    simp only [hs]
    exact splitSource_go_eq_bare hp.2
  . exact splitSource_marker l.source hs l.word.text

/-- An invocation is taken apart into its callee and its arguments. -/
theorem invocation?_invocationChars (callee : Name) (arguments : List (List Char)) :
    invocation? (invocationChars callee.text arguments) =
      some (callee.text, List.intercalate [','] arguments) := by
  have hclosing : Text.Solid [')'] := Text.Solid.of_ends (by decide) (by decide)
  have hlast : Text.stripLast? ')' (List.intercalate [','] arguments ++ [')']) =
      some (List.intercalate [','] arguments) := by
    unfold Text.stripLast?
    rw [List.getLast?_append, List.dropLast_append_of_ne_nil (List.cons_ne_nil _ _)]
    simp
  unfold invocation? invocationChars
  rw [Text.cut?_append callee.no_opening]
  dsimp only [Option.bind_eq_bind, Option.bind_some]
  rw [hclosing.trimEnd_append, hlast, callee.solid.trim_eq]
  rfl

theorem invocation?_eq_none (target : Name) : invocation? target.text = none := by
  unfold invocation?
  rw [Text.cut?_eq_none target.no_opening]
  rfl

end Key

/-- Sealed pieces that are not blank are the arguments of an invocation of them. -/
theorem Invocation.read_invocationChars (callee : Key.Name) {pieces : List (List Char)}
    (hs : ∀ p ∈ pieces, Key.Sealed p) (hne : ∀ p ∈ pieces.map Text.trim, p ≠ []) :
    read (String.ofList (Key.invocationChars callee.text pieces)) =
      ⟨String.ofList callee.text, (pieces.map Text.trim).map String.ofList⟩ := by
  unfold read
  rw [String.toList_ofList, Key.invocation?_invocationChars]
  dsimp only
  rw [Key.splitArguments_intercalate hs]
  exact fun p hp => hne _ (List.mem_map_of_mem hp)

namespace BuiltinCall

theorem parameter?_filled (slot : Key.Slot) (before : Key.Blanks) {key : List Char}
    (hk : Text.Solid key) :
    parameter? (String.ofList (slot.filled before key)) =
      some (String.ofList slot.name.text, String.ofList key) := by
  have hequals : '=' ∉ slot.name.text ++ slot.after.text :=
    List.not_mem_append slot.name.no_equals (slot.after.not_mem (by decide))
  have hname : Text.trim (slot.name.text ++ slot.after.text) = slot.name.text :=
    slot.name.solid.trim_append slot.after.isBlankText
  have hkey : Text.trim (before.text ++ key) = key := hk.trim_blank_append before.isBlankText
  unfold parameter? Key.Slot.filled
  rw [String.toList_ofList, ← List.append_assoc, Text.cut?_append hequals]
  dsimp only
  rw [hname, hkey]
  simp [slot.name.ne_nil]

/-- To enter names and expressions is to insert them one after the other. -/
theorem enter_eq_ok {texts : List String} {entries : List (String × String)}
    (h : texts.map parameter? = entries.map some) (made : List (String × String)) :
    enter made texts = .ok (Assoc.insertAll entries made) := by
  induction texts generalizing entries made with
  | nil =>
    cases entries with
    | nil => rfl
    | cons _ _ => cases h
  | cons text texts ih =>
    cases entries with
    | nil => cases h
    | cons entry entries =>
      obtain ⟨hfirst, hrest⟩ := List.cons.inj h
      unfold enter
      rw [hfirst]
      exact ih hrest (Assoc.insert entry.1 entry.2 made)

end BuiltinCall

end Registrar
