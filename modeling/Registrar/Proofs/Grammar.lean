import Registrar.Proofs.Grammar.Word

/-!
This module contains the trees of the key grammar, with the blanks that stand around their commas
and equals signs, and the proof that the text of a tree is read back: its source, its payload and its
transform are those of the tree, and the payload is taken apart into the texts of the trees below.
-/

namespace Registrar

inductive KeyTree where
  | literal (l : Key.Literal) (ending : Option Key.Ending)
  /-- A method without a list of arguments. -/
  | method (target : Key.Name) (ending : Option Key.Ending)
  | call (target : Key.Name) (arguments : List (Key.Blanks × KeyTree × Key.Blanks))
      (ending : Option Key.Ending)
  | function (builtin : Builtin)
      (parameters : List (Key.Slot × Key.Blanks × KeyTree × Key.Blanks))
      (ending : Option Key.Ending)

namespace KeyTree

def source : KeyTree → KeySource
  | literal l _ => l.source
  | method _ _ => .call
  | call _ _ _ => .call
  | function _ _ _ => .func

def ending : KeyTree → Option Key.Ending
  | literal _ e => e
  | method _ e => e
  | call _ _ e => e
  | function _ _ e => e

mutual

def payloadChars : KeyTree → List Char
  | literal l _ => l.word.text
  | method target _ => target.text
  | call target arguments _ => Key.invocationChars target.text (argumentPieces arguments)
  | function b parameters _ => Key.invocationChars b.name.toList (parameterPieces parameters)

def argumentPieces : List (Key.Blanks × KeyTree × Key.Blanks) → List (List Char)
  | [] => []
  | (before, e, after) :: r =>
    (before.text ++ (Key.expressionChars e.source (payloadChars e) e.ending ++ after.text)) ::
      argumentPieces r

def parameterPieces : List (Key.Slot × Key.Blanks × KeyTree × Key.Blanks) → List (List Char)
  | [] => []
  | (slot, before, e, after) :: r =>
    (slot.before.text ++
      (slot.filled before (Key.expressionChars e.source (payloadChars e) e.ending) ++ after.text)) ::
      parameterPieces r

end

def chars (e : KeyTree) : List Char :=
  Key.expressionChars e.source e.payloadChars e.ending

def text (e : KeyTree) : String :=
  String.ofList e.chars

def payload (e : KeyTree) : String :=
  String.ofList e.payloadChars

def transform (e : KeyTree) : Option String :=
  e.ending.map fun ending => String.ofList ending.text

/-- The names of parameters with the texts of their expressions. -/
def bindings (parameters : List (Key.Slot × Key.Blanks × KeyTree × Key.Blanks)) :
    List (String × String) :=
  parameters.map fun (slot, _, e, _) => (String.ofList slot.name.text, e.text)

/-- The payload of a tree is taken apart into what the tree has in it. Of parameters with one name
the last counts. -/
def PartsRead (e : KeyTree) : Prop :=
  match e with
  | literal _ _ => True
  | method target _ => Invocation.read e.payload = ⟨String.ofList target.text, []⟩
  | call target arguments _ =>
    Invocation.read e.payload =
      ⟨String.ofList target.text, arguments.map fun (_, a, _) => a.text⟩
  | function b parameters _ =>
    ∃ c, BuiltinCall.read e.payload = .ok c ∧ c.builtin = b ∧
      ∀ name, c.parameter name = Assoc.find? name (bindings parameters).reverse

mutual

theorem sealed_payloadChars : ∀ e : KeyTree, Key.Sealed e.payloadChars
  | literal l _ => by
    unfold payloadChars
    exact l.word.isSealed
  | method target _ => by
    unfold payloadChars
    exact target.isSealed
  | call target arguments _ => by
    unfold payloadChars
    exact Key.sealed_invocationChars target (sealed_argumentPieces arguments)
  | function b parameters _ => by
    unfold payloadChars
    exact Key.sealed_invocationChars (Key.builtinName b) (sealed_parameterPieces parameters)

theorem sealed_argumentPieces :
    ∀ arguments : List (Key.Blanks × KeyTree × Key.Blanks),
      ∀ p ∈ argumentPieces arguments, Key.Sealed p
  | [] => by simp [argumentPieces]
  | (before, e, after) :: r => by
    unfold argumentPieces
    rw [List.forall_mem_cons]
    constructor
    . apply before.isSealed.append
      apply Key.Sealed.append _ after.isSealed
      exact Key.sealed_expressionChars e.source (sealed_payloadChars e) e.ending
    . exact sealed_argumentPieces r

theorem sealed_parameterPieces :
    ∀ parameters : List (Key.Slot × Key.Blanks × KeyTree × Key.Blanks),
      ∀ p ∈ parameterPieces parameters, Key.Sealed p
  | [] => by simp [parameterPieces]
  | (slot, before, e, after) :: r => by
    unfold parameterPieces
    rw [List.forall_mem_cons]
    constructor
    . apply slot.before.isSealed.append
      apply Key.Sealed.append _ after.isSealed
      apply Key.sealed_filled
      exact Key.sealed_expressionChars e.source (sealed_payloadChars e) e.ending
    . exact sealed_parameterPieces r

end

theorem argumentPieces_eq (arguments : List (Key.Blanks × KeyTree × Key.Blanks)) :
    argumentPieces arguments =
      arguments.map fun (before, e, after) => before.text ++ (e.chars ++ after.text) := by
  induction arguments with
  | nil => rfl
  | cons a r ih =>
    unfold argumentPieces
    rw [ih]
    rfl

theorem parameterPieces_eq
    (parameters : List (Key.Slot × Key.Blanks × KeyTree × Key.Blanks)) :
    parameterPieces parameters = parameters.map fun (slot, before, e, after) =>
      slot.before.text ++ (slot.filled before e.chars ++ after.text) := by
  induction parameters with
  | nil => rfl
  | cons a r ih =>
    unfold parameterPieces
    rw [ih]
    rfl

/-- A tree without its transform has no blanks at its ends. -/
theorem solid_core (e : KeyTree) : Text.Solid (e.source.marker ++ e.payloadChars) := by
  cases e with
  | literal l _ =>
    unfold source payloadChars
    by_cases hs : l.source = .bare
    . have hp := l.proper
      rw [hs] at hp
      simp only [hs]
      exact l.word.edges.resolve_left hp.1
    . exact Key.solid_marked l.source hs l.word.edges
  | method target _ =>
    unfold source payloadChars
    exact Key.solid_marked .call nofun (.inr target.solid)
  | call target arguments _ =>
    unfold source payloadChars
    exact Key.solid_marked .call nofun (.inr (Key.solid_invocationChars target _))
  | function b parameters _ =>
    unfold source payloadChars
    exact Key.solid_marked .func nofun (.inr (Key.solid_invocationChars (Key.builtinName b) _))

theorem chars_eq (e : KeyTree) :
    e.chars = (e.source.marker ++ e.payloadChars) ++ Key.endingChars e.ending :=
  (List.append_assoc ..).symm

theorem solid_chars (e : KeyTree) : Text.Solid e.chars := by
  rw [chars_eq]
  exact Key.solid_endingChars e.ending e.solid_core

theorem cutTransform?_chars (e : KeyTree) :
    Key.cutTransform? e.chars =
      e.ending.map fun ending => (e.source.marker ++ e.payloadChars, ending.text) := by
  rw [chars_eq]
  cases e with
  | literal l ending =>
    simp only [source, payloadChars, KeyTree.ending]
    rw [Key.cutTransform?_plain (Key.isNested_literal l ending)]
    exact Key.cutWord?_literal l ending
  | method target ending =>
    simp only [source, payloadChars, KeyTree.ending]
    rw [Key.cutTransform?_nested rfl]
    exact Key.cutArrow?_method target ending
  | call target arguments ending =>
    simp only [source, payloadChars, KeyTree.ending]
    rw [Key.cutTransform?_nested rfl]
    exact Key.cutArrow?_invocation .call target (sealed_argumentPieces arguments) ending
  | function b parameters ending =>
    simp only [source, payloadChars, KeyTree.ending]
    rw [Key.cutTransform?_nested rfl]
    exact Key.cutArrow?_invocation .func (Key.builtinName b) (sealed_parameterPieces parameters)
      ending

theorem splitSource_core (e : KeyTree) :
    Key.splitSource (e.source.marker ++ e.payloadChars) = (e.source, e.payloadChars) := by
  cases e with
  | literal l _ =>
    unfold source payloadChars
    exact Key.splitSource_literal l
  | method _ _ => exact Key.splitSource_marker .call nofun _
  | call _ _ _ => exact Key.splitSource_marker .call nofun _
  | function _ _ _ => exact Key.splitSource_marker .func nofun _

theorem read?_text (e : KeyTree) :
    KeyExpression.read? e.text = some ⟨e.source, e.payload, e.transform⟩ := by
  have hcore : (e.source.marker ++ e.payloadChars).isEmpty = false := by
    simpa using e.solid_core.ne_nil
  unfold KeyExpression.read? text
  rw [String.toList_ofList]
  cases he : e.ending with
  | none =>
    have hchars : e.chars = e.source.marker ++ e.payloadChars := by
      rw [chars_eq, he]
      exact List.append_nil _
    have hcut : Key.cutTransform? (e.source.marker ++ e.payloadChars) = none := by
      rw [← hchars, cutTransform?_chars, he]
      rfl
    simp [hcut, hchars, e.solid_core.trim_eq, hcore, splitSource_core, payload, transform, he]
  | some ending =>
    have hcut : Key.cutTransform? e.chars =
        some (e.source.marker ++ e.payloadChars, ending.text) := by
      rw [cutTransform?_chars, he]
      rfl
    simp [hcut, e.solid_core.trim_eq, hcore, ending.solid.trim_eq, ending.solid.ne_nil,
      splitSource_core, payload, transform, he]

theorem map_trim_argumentPieces (arguments : List (Key.Blanks × KeyTree × Key.Blanks)) :
    (argumentPieces arguments).map Text.trim = arguments.map fun (_, e, _) => e.chars := by
  rw [argumentPieces_eq, List.map_map]
  apply List.map_congr_left
  intro (before, e, after) _
  exact e.solid_chars.trim_between before.isBlankText after.isBlankText

theorem map_trim_parameterPieces
    (parameters : List (Key.Slot × Key.Blanks × KeyTree × Key.Blanks)) :
    (parameterPieces parameters).map Text.trim =
      parameters.map fun (slot, before, e, _) => slot.filled before e.chars := by
  rw [parameterPieces_eq, List.map_map]
  apply List.map_congr_left
  intro (slot, before, e, after) _
  exact (Key.solid_filled slot before e.solid_chars).trim_between slot.before.isBlankText
    after.isBlankText

theorem read_method (target : Key.Name) (ending : Option Key.Ending) :
    Invocation.read (method target ending).payload = ⟨String.ofList target.text, []⟩ := by
  unfold payload payloadChars Invocation.read
  rw [String.toList_ofList, Key.invocation?_eq_none, target.solid.trim_eq]

theorem read_call (target : Key.Name) (arguments : List (Key.Blanks × KeyTree × Key.Blanks))
    (ending : Option Key.Ending) :
    Invocation.read (call target arguments ending).payload =
      ⟨String.ofList target.text, arguments.map fun (_, a, _) => a.text⟩ := by
  unfold payload payloadChars
  rw [Invocation.read_invocationChars target (sealed_argumentPieces arguments)]
  . rw [map_trim_argumentPieces, List.map_map]
    rfl
  . rw [map_trim_argumentPieces, List.forall_mem_map]
    exact fun a _ => a.2.1.solid_chars.ne_nil

theorem read_function (b : Builtin)
    (parameters : List (Key.Slot × Key.Blanks × KeyTree × Key.Blanks))
    (ending : Option Key.Ending) :
    Invocation.read (function b parameters ending).payload =
      ⟨b.name, parameters.map fun (slot, before, e, _) =>
        String.ofList (slot.filled before e.chars)⟩ := by
  have hread := Invocation.read_invocationChars (Key.builtinName b)
    (sealed_parameterPieces parameters)
  unfold payload payloadChars
  rw [map_trim_parameterPieces, List.forall_mem_map, List.map_map] at hread
  have hcallee : String.ofList (Key.builtinName b).text = b.name := String.ofList_toList
  rw [hcallee] at hread
  exact hread fun p _ => (Key.solid_filled p.1 p.2.1 p.2.2.1.solid_chars).ne_nil

theorem builtinCall_read_function (b : Builtin)
    (parameters : List (Key.Slot × Key.Blanks × KeyTree × Key.Blanks))
    (ending : Option Key.Ending) :
    ∃ c, BuiltinCall.read (function b parameters ending).payload = .ok c ∧ c.builtin = b ∧
      ∀ name, c.parameter name = Assoc.find? name (bindings parameters).reverse := by
  have hentries : (parameters.map fun (slot, before, e, _) =>
      String.ofList (slot.filled before e.chars)).map BuiltinCall.parameter? =
        (bindings parameters).map some := by
    unfold bindings
    rw [List.map_map, List.map_map]
    apply List.map_congr_left
    intro (slot, before, e, _) _
    exact BuiltinCall.parameter?_filled slot before e.solid_chars
  refine ⟨⟨b, Assoc.insertAll (bindings parameters) []⟩, ?_, rfl, ?_⟩
  . unfold BuiltinCall.read
    dsimp only
    rw [read_function, Builtin.ofName?_name, BuiltinCall.enter_eq_ok hentries]
    rfl
  . intro name
    unfold BuiltinCall.parameter
    rw [Assoc.find?_insertAll, Assoc.find?_nil, Option.or_none]

/-- The text of a tree is read back as what it was made of. -/
theorem reads_back (e : KeyTree) :
    KeyExpression.read? e.text = some ⟨e.source, e.payload, e.transform⟩ ∧ e.PartsRead := by
  constructor
  . exact e.read?_text
  . cases e with
    | literal _ _ => trivial
    | method target ending => exact read_method target ending
    | call target arguments ending => exact read_call target arguments ending
    | function b parameters ending => exact builtinCall_read_function b parameters ending

end KeyTree

end Registrar
