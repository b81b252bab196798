import Mathlib.Data.List.Forall2
import Registrar.Proofs.Number.Address
import Registrar.Proofs.Packaging
import Registrar.Proofs.Projection
import Registrar.Proofs.Reconversion
import Registrar.Proofs.Separation

/-!
This module contains what a call that lists bytes comes to. The text of the list is cut at its
commas, and every item has to denote a byte, but for blanks around it. The bytes are encoded as the
numbers that they are, in an array of their number if its length is fixed.
-/

namespace Registrar

namespace Text

theorem intercalate_fields (sep : Char) (s : List Char) :
    List.intercalate [sep] (fields sep s) = s := by
  induction s with
  | nil => rfl
  | cons c s ih =>
    by_cases hc : c = sep
    . obtain ⟨f, fs, hs⟩ := List.exists_cons_of_ne_nil (fields_ne_nil sep s)
      rw [fields, if_pos hc, hs, List.intercalate_cons_cons, ← hs, ih, hc]
      rfl
    . obtain ⟨f, fs, hs, hcons⟩ := fields_cons_eq hc s
      rw [hs] at ih
      rw [hcons, ← ih]
      cases fs with
      | nil => simp only [List.intercalate_singleton]
      | cons g gs => simp only [List.intercalate_cons_cons, List.cons_append]

theorem not_mem_of_mem_fields {sep : Char} {s f : List Char} (h : f ∈ fields sep s) : sep ∉ f := by
  induction s generalizing f with
  | nil =>
    obtain rfl : f = [] := List.mem_singleton.1 h
    exact List.not_mem_nil
  | cons c s ih =>
    by_cases hc : c = sep
    . rw [fields, if_pos hc, List.mem_cons] at h
      cases h with
      | inl h =>
        rw [h]
        exact List.not_mem_nil
      | inr h => exact ih h
    . obtain ⟨g, gs, hs, hcons⟩ := fields_cons_eq hc s
      rw [hcons, List.mem_cons] at h
      rw [hs] at ih
      cases h with
      | inl h =>
        rw [h, List.mem_cons, not_or]
        exact ⟨Ne.symm hc, ih List.mem_cons_self⟩
      | inr h => exact ih (List.mem_cons_of_mem g h)

/-- The fields of a text are the only way to cut it at every separator. -/
theorem fields_eq_iff {sep : Char} {s : List Char} {ps : List (List Char)} :
    fields sep s = ps ↔
      ps ≠ [] ∧ (∀ p ∈ ps, sep ∉ p) ∧ s = List.intercalate [sep] ps := by
  constructor
  . rintro rfl
    exact ⟨fields_ne_nil sep s, fun p => not_mem_of_mem_fields, (intercalate_fields sep s).symm⟩
  . rintro ⟨hne, hps, rfl⟩
    obtain ⟨p, ps, rfl⟩ := List.exists_cons_of_ne_nil hne
    exact fields_intercalate hps

end Text

namespace Builtin

/-- A text that, but for blanks around it, denotes the number of a byte. -/
structure IsByte (p : List Char) (w : Word) : Prop where
  numeral : Decimal.IsNumeral (Text.trim p) w.toNat
  le : w.toNat ≤ 255

/-- A text whose items, between its commas, denote the numbers of bytes. -/
def Lists (s : List Char) (ws : List Word) : Prop :=
  ∃ ps, ps ≠ [] ∧ (∀ p ∈ ps, ',' ∉ p) ∧ s = List.intercalate [','] ps ∧ List.Forall₂ IsByte ps ws

/-- A text with an item that denotes no byte. The first one is told. -/
def Unlisted (s : List Char) (e : ConversionError) : Prop :=
  ∃ ps q qs fault, (∀ p ∈ ps ++ q :: qs, ',' ∉ p) ∧ s = List.intercalate [','] (ps ++ q :: qs) ∧
    (∀ p ∈ ps, ∃ w, IsByte p w) ∧ (∀ w, ¬ IsByte q w) ∧
    e = .parse (String.ofList (Text.trim q)) "uint8" fault ∧
    (Value.string (String.ofList (Text.trim q))).convert (.uint 8) = .error e

variable {p s : List Char} {ps : List (List Char)} {ws : List Word} {e : ConversionError}

theorem convert_item_eq_ok_iff {v : Value} :
    (Value.string (String.ofList (Text.trim p))).convert (.uint 8) = .ok v ↔
      ∃ w, IsByte p w ∧ v = .uint w := by
  rw [(Value.convert_uint_text _ (by decide)).1, String.toList_ofList]
  constructor
  . rintro ⟨n, hn, hlt, w, rfl, rfl⟩
    exact ⟨w, ⟨hn, Nat.le_of_lt_succ hlt⟩, rfl⟩
  . rintro ⟨w, hw, rfl⟩
    exact ⟨w.toNat, hw.numeral, Nat.lt_succ_of_le hw.le, w, rfl, rfl⟩

theorem exists_isByte_iff :
    (∃ w, IsByte p w) ↔
      ∃ v, (Value.string (String.ofList (Text.trim p))).convert (.uint 8) = .ok v := by
  simp only [convert_item_eq_ok_iff]
  constructor
  . rintro ⟨w, hw⟩
    exact ⟨_, w, hw, rfl⟩
  . rintro ⟨_, w, hw, rfl⟩
    exact ⟨w, hw⟩

theorem bytesOfList_eq_ok_iff {vs : List Value} :
    bytesOfList ps = .ok vs ↔ ∃ ws, List.Forall₂ IsByte ps ws ∧ vs = ws.map .uint := by
  induction ps generalizing vs with
  | nil => simp [bytesOfList, eq_comm]
  | cons p ps ih =>
    unfold bytesOfList
    rw [bind_eq_ok_iff]
    simp only [bind_eq_ok_iff, convert_item_eq_ok_iff, ih]
    constructor
    . rintro ⟨_, ⟨w, hw, rfl⟩, _, ⟨ws, hws, rfl⟩, heq⟩
      cases heq
      exact ⟨w :: ws, .cons hw hws, rfl⟩
    . rintro ⟨ws, hws, rfl⟩
      cases hws with
      | cons hw hws => exact ⟨_, ⟨_, hw, rfl⟩, _, ⟨_, hws, rfl⟩, rfl⟩

theorem bytesOfList_eq_error_iff :
    bytesOfList ps = .error e ↔
      ∃ ps₁ q ps₂, ps = ps₁ ++ q :: ps₂ ∧ (∀ p ∈ ps₁, ∃ w, IsByte p w) ∧
        (Value.string (String.ofList (Text.trim q))).convert (.uint 8) = .error e := by
  induction ps with
  | nil => simp [bytesOfList]
  | cons p ps ih =>
    unfold bytesOfList
    cases hp : (Value.string (String.ofList (Text.trim p))).convert (.uint 8) with
    | error e' =>
      constructor
      . intro h
        cases h
        exact ⟨[], p, ps, rfl, nofun, hp⟩
      . rintro ⟨ps₁, q, ps₂, heq, hps, hq⟩
        cases ps₁ with
        | nil =>
          cases heq
          rw [hp, Except.error.injEq] at hq
          rw [hq]
          rfl
        | cons p' ps₁ =>
          cases heq
          obtain ⟨v, hv⟩ := exists_isByte_iff.1 (hps p List.mem_cons_self)
          cases hp.symm.trans hv
    | ok v =>
      have hbyte := exists_isByte_iff.2 ⟨v, hp⟩
      have hrest : ((do
          let vs ← bytesOfList ps
          return v :: vs) = Except.error e) ↔ bytesOfList ps = .error e := by
        cases bytesOfList ps with
        | ok vs => exact ⟨nofun, nofun⟩
        | error e' => exact Iff.rfl
      refine (hrest.trans ih).trans ?_
      constructor
      . rintro ⟨ps₁, q, ps₂, rfl, hps, hq⟩
        exact ⟨p :: ps₁, q, ps₂, rfl, List.forall_mem_cons.2 ⟨hbyte, hps⟩, hq⟩
      . rintro ⟨ps₁, q, ps₂, heq, hps, hq⟩
        cases ps₁ with
        | nil =>
          cases heq
          cases hp.symm.trans hq
        | cons p' ps₁ =>
          cases heq
          exact ⟨ps₁, q, ps₂, rfl, fun r hr => hps r (List.mem_cons_of_mem p hr), hq⟩

theorem lists_iff : Lists s ws ↔ List.Forall₂ IsByte (Text.fields ',' s) ws := by
  constructor
  . rintro ⟨ps, hne, hps, heq, hws⟩
    rw [Text.fields_eq_iff.2 ⟨hne, hps, heq⟩]
    exact hws
  . intro hws
    obtain ⟨hne, hps, heq⟩ := Text.fields_eq_iff.1 (rfl : Text.fields ',' s = _)
    exact ⟨_, hne, hps, heq, hws⟩

theorem unlisted_iff : Unlisted s e ↔ bytesOfList (Text.fields ',' s) = .error e := by
  rw [bytesOfList_eq_error_iff]
  constructor
  . rintro ⟨ps, q, qs, fault, hps, heq, hbytes, -, -, hq⟩
    refine ⟨ps, q, qs, Text.fields_eq_iff.2 ⟨by simp, hps, heq⟩, hbytes, hq⟩
  . rintro ⟨ps, q, qs, hfields, hbytes, hq⟩
    obtain ⟨-, hps, heq⟩ := Text.fields_eq_iff.1 hfields
    obtain ⟨fault, hfault⟩ := (Value.convert_uint_text _ (by decide)).2 e hq
    refine ⟨ps, q, qs, fault, hps, heq, hbytes, fun w hw => ?_, hfault, hq⟩
    obtain ⟨v, hv⟩ := exists_isByte_iff.1 ⟨w, hw⟩
    cases hq.symm.trans hv

/-- A text lists bytes, or it has an item that denotes none. -/
theorem exists_lists_iff : (∃ ws, Lists s ws) ↔ ¬ ∃ e, Unlisted s e := by
  simp only [unlisted_iff, lists_iff]
  cases h : bytesOfList (Text.fields ',' s) with
  | ok vs =>
    obtain ⟨ws, hws, -⟩ := bytesOfList_eq_ok_iff.1 h
    simp only [reduceCtorEq, exists_false, not_false_eq_true, iff_true]
    exact ⟨ws, hws⟩
  | error e =>
    simp only [Except.error.injEq, exists_eq', not_true_eq_false, iff_false]
    rintro ⟨ws, hws⟩
    cases h.symm.trans (bytesOfList_eq_ok_iff.2 ⟨ws, hws, rfl⟩)

theorem Lists.unique {us : List Word} (hws : Lists s ws) (hus : Lists s us) : ws = us := by
  rw [lists_iff] at hws hus
  have hw := bytesOfList_eq_ok_iff.2 ⟨ws, hws, rfl⟩
  have hu := bytesOfList_eq_ok_iff.2 ⟨us, hus, rfl⟩
  rw [hw, Except.ok.injEq] at hu
  exact (List.map_inj_right fun _ _ h => Value.uint.inj h).1 hu

theorem Lists.ne_nil (h : Lists s ws) : ws ≠ [] := by
  obtain ⟨ps, hne, -, -, hws⟩ := h
  cases hws with
  | nil => exact absurd rfl hne
  | cons => exact List.cons_ne_nil _ _

theorem Lists.le (h : Lists s ws) : ∀ w ∈ ws, w.toNat ≤ 255 := by
  obtain ⟨ps, -, -, -, hws⟩ := h
  induction hws with
  | nil => exact nofun
  | cons hw _ ih => exact List.forall_mem_cons.2 ⟨hw.le, ih⟩

/-- The decimal notation of a number between blanks. -/
def Notes (p : List Char) (w : Word) : Prop :=
  ∃ b a, Text.isBlankText b ∧ Text.isBlankText a ∧ p = b ++ (Decimal.ofNat w.toNat ++ a)

theorem Notes.isByte {w : Word} (h : Notes p w) (hw : w.toNat ≤ 255) : IsByte p w := by
  obtain ⟨b, a, hb, ha, rfl⟩ := h
  have hnumeral := Decimal.isNumeral_ofNat w.toNat
  have hsolid := Address.solid_of_digits hnumeral.ne_nil hnumeral.digits
  refine ⟨?_, hw⟩
  rw [hsolid.trim_between hb ha]
  exact hnumeral

theorem Notes.not_mem {w : Word} (h : Notes p w) : ',' ∉ p := by
  obtain ⟨b, a, hb, ha, rfl⟩ := h
  have hdigits : ',' ∉ Decimal.ofNat w.toNat :=
    fun hmem => absurd (Decimal.isDigit_of_mem_ofNat hmem) (by decide)
  have hblank {c : List Char} (hc : Text.isBlankText c) : ',' ∉ c :=
    Key.not_mem_of_blank (by decide) hc
  simp [hblank hb, hblank ha, hdigits]

/-- Bytes that are joined with commas, and any blanks around them, are listed by the text. -/
theorem lists_intercalate (hne : ws ≠ []) (hws : ∀ w ∈ ws, w.toNat ≤ 255)
    (hps : List.Forall₂ Notes ps ws) : Lists (List.intercalate [','] ps) ws := by
  have hbytes : List.Forall₂ IsByte ps ws ∧ ∀ p ∈ ps, ',' ∉ p := by
    clear hne
    induction hps with
    | nil => exact ⟨.nil, nofun⟩
    | cons hp _ ih =>
      obtain ⟨hw, hws⟩ := List.forall_mem_cons.1 hws
      obtain ⟨hbytes, hcommas⟩ := ih hws
      exact ⟨.cons (hp.isByte hw) hbytes, List.forall_mem_cons.2 ⟨hp.not_mem, hcommas⟩⟩
  refine ⟨ps, ?_, hbytes.2, rfl, hbytes.1⟩
  rintro rfl
  cases hps
  exact hne rfl

/-- The bytes that a text lists. -/
def itemsOf (text : String) : Except OperationError Value :=
  ((bytesOfList (Text.fields ',' text.toList)).mapError OperationError.ofConversion).map Value.array

/-- What the value of a list is read as. -/
def listOf (v : Value) : Except OperationError Value :=
  (textOf .arrayUint8 "list" v).bind itemsOf

theorem ofExcept_itemsOf (text : String) :
    Engine.ofExcept id (itemsOf text) = (do
      let items ← Engine.ofExcept .ofConversion (bytesOfList (Text.fields ',' text.toList))
      return .array items) := by
  unfold itemsOf
  cases bytesOfList (Text.fields ',' text.toList) with
  | ok vs => rfl
  | error e => rfl

theorem runArrayUint8_eq (args : Arguments) :
    runArrayUint8 args = required .arrayUint8 args "list" (some .string) >>= fun v =>
      Engine.ofExcept id (listOf v) := by
  unfold runArrayUint8
  rw [requiredText_eq, bind_assoc]
  congr
  funext v
  cases v with
  | string text => exact (ofExcept_itemsOf text).symm
  | _ => rfl

theorem itemsOf_eq_ok_iff {text : String} {v : Value} :
    itemsOf text = .ok v ↔ ∃ ws, Lists text.toList ws ∧ v = .array (ws.map .uint) := by
  unfold itemsOf
  rw [Value.map_eq_ok_iff]
  simp only [Value.mapError_eq_ok_iff, bytesOfList_eq_ok_iff, ← lists_iff]
  constructor
  . rintro ⟨_, ⟨ws, hws, rfl⟩, rfl⟩
    exact ⟨ws, hws, rfl⟩
  . rintro ⟨ws, hws, rfl⟩
    exact ⟨_, ⟨ws, hws, rfl⟩, rfl⟩

theorem itemsOf_eq_error_iff {text : String} {e : OperationError} :
    itemsOf text = .error e ↔ ∃ e', Unlisted text.toList e' ∧ e = .ofConversion e' := by
  unfold itemsOf
  simp only [unlisted_iff]
  cases bytesOfList (Text.fields ',' text.toList) with
  | ok vs => simp [Except.mapError, Except.map]
  | error e' => simp [Except.mapError, Except.map, eq_comm]

theorem listOf_eq_ok_iff {v u : Value} :
    listOf v = .ok u ↔
      ∃ text ws, v = .string text ∧ Lists text.toList ws ∧ u = .array (ws.map .uint) := by
  unfold listOf
  cases v with
  | string text =>
    simp only [Value.string.injEq, exists_and_left, exists_eq_left']
    exact itemsOf_eq_ok_iff
  | _ => simp [textOf, Except.bind]

theorem listOf_eq_error_iff {v : Value} {e : OperationError} :
    listOf v = .error e ↔
      (∀ text, v ≠ .string text) ∧ e = .key (.parameterType "array_uint8" "list" "a string") ∨
      ∃ text e', v = .string text ∧ Unlisted text.toList e' ∧ e = .ofConversion e' := by
  unfold listOf
  cases v with
  | string text =>
    simp only [Value.string.injEq, ne_eq, forall_eq', false_and, false_or, exists_and_left,
      exists_eq_left']
    exact itemsOf_eq_error_iff
  | _ => simp [textOf, Except.bind, eq_comm, name]

end Builtin

namespace Value

variable {ws : List Word} {components : List Param}

theorem mapM_encode_bytes (components : List Param) (hws : ∀ w ∈ ws, w.toNat ≤ 255) :
    (ws.map Value.uint).mapM (encodeAs (.uint 8) components) =
      .ok (ws.map fun w => AbiValue.uint w 8) := by
  induction ws with
  | nil => rfl
  | cons w ws ih =>
    obtain ⟨hw, hws⟩ := List.forall_mem_cons.1 hws
    have hconvert : convert (.uint 8) (.uint w) = .ok (.uint w) :=
      convert_uint_word (Nat.lt_succ_of_le hw)
    rw [List.map_cons, List.mapM_cons, encodeAs_primitive rfl, hconvert, ih hws]
    rfl

theorem encodeAs_bytes (components : List Param) (hws : ∀ w ∈ ws, w.toNat ≤ 255) :
    encodeAs (.array (.uint 8)) components (.array (ws.map .uint)) =
      .ok (.array (ws.map fun w => .uint w 8)) := by
  rw [encodeAs]
  rw [mapM_encode_bytes components hws]
  rfl

theorem encodeAs_bytes_fixed (components : List Param) (hws : ∀ w ∈ ws, w.toNat ≤ 255) (n : Nat) :
    encodeAs (.fixedArray (.uint 8) n) components (.array (ws.map .uint)) =
      if ws.length = n then .ok (.fixedArray (ws.map fun w => .uint w 8))
      else .error (coercion (.array (ws.map .uint)) (.fixedArray (.uint 8) n)) := by
  rw [encodeAs]
  rw [List.length_map, mapM_encode_bytes components hws]
  rfl

end Value

namespace Session

open Engine

variable {spec : Specification} {settings : Settings} {c : BuiltinCall}
  {key payload list : String} {required : Bool} {s s' : Session} {h t : Trace}

/-- How a call that lists bytes fails: its list is not loaded, or it is no text, or the text has an
item that denotes no byte. -/
inductive Unlisting (list : String) (s : Session) (t : Trace) :
    OperationError → Session → Prop where
  | unloaded {e : OperationError} {s' : Session}
      (he : Runs (load list (some .string) true) s t (.error e) s') : Unlisting list s t e s'
  | foreign {v : Value} {s' : Session} (hv : Runs (load list (some .string) true) s t (.ok v) s')
      (hne : ∀ text, v ≠ .string text) :
      Unlisting list s t (.key (.parameterType "array_uint8" "list" "a string")) s'
  | unlisted {text : String} {e : ConversionError} {s' : Session}
      (hv : Runs (load list (some .string) true) s t (.ok (.string text)) s')
      (he : Builtin.Unlisted text.toList e) : Unlisting list s t (.ofConversion e) s'

section Run

variable (hb : c.builtin = .arrayUint8)
include hb

theorem run_arrayUint8_eq : c.run =
    Builtin.required .arrayUint8 c.arguments "list" (some .string) >>= fun v =>
      Engine.ofExcept id (Builtin.listOf v) := by
  unfold BuiltinCall.run
  rw [hb]
  exact Builtin.runArrayUint8_eq c.arguments

variable (hlist : c.parameter "list" = some list)
include hlist

theorem runs_list_iff {r : Except OperationError Value} :
    Runs (Builtin.required .arrayUint8 c.arguments "list" (some .string)) s t r s' ↔
      Runs (load list (some .string) true) s t r s' := by
  rw [← hb, runs_required_iff, hlist]
  simp

theorem runs_arrayUint8_ok_iff {v : Value} :
    Runs c.run s t (.ok v) s' ↔
      ∃ text ws, Runs (load list (some .string) true) s t (.ok (.string text)) s' ∧
        Builtin.Lists text.toList ws ∧ v = .array (ws.map .uint) := by
  rw [run_arrayUint8_eq hb, runs_bind_ofExcept_ok_iff]
  simp only [runs_list_iff hb hlist, Builtin.listOf_eq_ok_iff]
  constructor
  . rintro ⟨_, hv, text, ws, rfl, hws, rfl⟩
    exact ⟨text, ws, hv, hws, rfl⟩
  . rintro ⟨text, ws, hv, hws, rfl⟩
    exact ⟨_, hv, text, ws, rfl, hws, rfl⟩

theorem runs_arrayUint8_error_iff {e : OperationError} :
    Runs c.run s t (.error e) s' ↔ Unlisting list s t e s' := by
  rw [run_arrayUint8_eq hb, runs_bind_ofExcept_error_iff]
  simp only [runs_list_iff hb hlist, Builtin.listOf_eq_error_iff]
  constructor
  . rintro (⟨v, hv, ⟨hne, rfl⟩ | ⟨text, e', rfl, he, rfl⟩⟩ | he)
    . exact .foreign hv hne
    . exact .unlisted hv he
    . exact .unloaded he
  . intro h
    cases h with
    | unloaded he => exact Or.inr he
    | foreign hv hne => exact Or.inl ⟨_, hv, Or.inl ⟨hne, rfl⟩⟩
    | unlisted hv he => exact Or.inl ⟨_, hv, Or.inr ⟨_, _, rfl, he, rfl⟩⟩

end Run

/-- A call lists bytes if and only if every item of its text, between commas and without the blanks
around it, has nothing but digits that denote at most 255. What it gives are these numbers in order,
so that it gives back the bytes whose notations have been joined with commas and blanks. They are
encoded as the array of the same numbers, also with a fixed length if it is theirs. -/
theorem load_byteList (hs : Steps .all [] (start spec settings) h s)
    (he : KeyExpression.read? key = some ⟨.func, payload, none⟩)
    (hc : BuiltinCall.read payload = .ok c) (hb : c.builtin = .arrayUint8)
    (hlist : c.parameter "list" = some list) (required : Bool) :
    (∀ t v s', Runs (load key none required) s t (.ok v) s' ↔
      ∃ text ws t₁, t = t₁ ++ [Event.loaded key v] ∧
        Runs (load list (some .string) true) s t₁ (.ok (.string text)) s' ∧
        Builtin.Lists text.toList ws ∧ v = .array (ws.map .uint)) ∧
    (∀ t e s', Runs (load key none required) s t (.error e) s' ↔
      ∃ e', e = .resolution key e' ∧ Unlisting list s t e' s') ∧
    (∀ text, (∃ ws, Builtin.Lists text ws) ↔ ¬ ∃ e, Builtin.Unlisted text e) ∧
    (∀ ps ws, ws ≠ [] → (∀ w ∈ ws, w.toNat ≤ 255) → List.Forall₂ Builtin.Notes ps ws →
      ∀ us, Builtin.Lists (List.intercalate [','] ps) us ↔ us = ws) ∧
    ∀ text ws, Builtin.Lists text ws → ∀ components,
      Value.encodeAs (.array (.uint 8)) components (.array (ws.map .uint)) =
        .ok (.array (ws.map fun w => .uint w 8)) ∧
      ∀ n, Value.encodeAs (.fixedArray (.uint 8) n) components (.array (ws.map .uint)) =
        if ws.length = n then .ok (.fixedArray (ws.map fun w => .uint w 8))
        else .error (Value.coercion (.array (ws.map .uint)) (.fixedArray (.uint 8) n)) := by
  have hf : s.cache.find? key = none := find?_func hs he rfl
  have hempty {ws : List Word} (hne : ws ≠ []) : ¬ (Value.array (ws.map .uint)).isEmpty := by
    simp [Value.isEmpty, hne]
  refine ⟨?_, ?_, ?_, ?_, ?_⟩
  . intro t v s'
    rw [runs_load_func_ok_iff hf he hc]
    simp only [runs_arrayUint8_ok_iff hb hlist]
    constructor
    . rintro ⟨_, t₁, rfl, ⟨text, ws, hv, hws, rfl⟩, hfinished⟩
      cases hfinished with
      | inl hfinished => exact absurd hfinished.1 (hempty hws.ne_nil)
      | inr hfinished =>
        cases hfinished.2
        exact ⟨text, ws, t₁, rfl, hv, hws, rfl⟩
    . rintro ⟨text, ws, t₁, rfl, hv, hws, rfl⟩
      exact ⟨_, t₁, rfl, ⟨text, ws, hv, hws, rfl⟩, Or.inr ⟨hempty hws.ne_nil, rfl⟩⟩
  . intro t e s'
    simp only [← runs_arrayUint8_error_iff hb hlist]
    apply runs_load_func_error_iff hf he hc
    intro v hv
    obtain ⟨text, ws, -, hws, rfl⟩ := (runs_arrayUint8_ok_iff hb hlist).1 hv
    exact hempty hws.ne_nil
  . intro text
    exact Builtin.exists_lists_iff
  . intro ps ws hne hws hps us
    have hlists := Builtin.lists_intercalate hne hws hps
    constructor
    . intro hus
      exact hus.unique hlists
    . rintro rfl
      exact hlists
  . intro text ws hws components
    exact ⟨Value.encodeAs_bytes components hws.le, Value.encodeAs_bytes_fixed components hws.le⟩

/-- A partner who has a list of bytes among his settings. -/
def listing : (q : Query) → q.Reply
  | .request _ (.setting _) => some (.string "007 , 255")
  | q => compliant (fun _ => "") [] q

/-- Zeroes in front and blanks around the items change nothing. -/
theorem load_byteList_padded :
    ∃ t s', Runs (load "func:array_uint8(list=config:quorums)" none true) (start registering {}) t
        (.ok (.array [.uint 7, .uint 255])) s' ∧
      Value.encodeAs (.fixedArray (.uint 8) 2) [] (.array [.uint 7, .uint 255]) =
        .ok (.fixedArray [.uint 7 8, .uint 255 8]) := by
  have hread : KeyExpression.read? "func:array_uint8(list=config:quorums)" =
      some ⟨.func, "array_uint8(list=config:quorums)", none⟩ := by
    decide +kernel
  have hcall : BuiltinCall.read "array_uint8(list=config:quorums)" =
      .ok ⟨.arrayUint8, [("list", "config:quorums")]⟩ := by
    rfl
  have hstart : Steps .all [] (start registering {}) [] (start registering {}) := .refl
  obtain ⟨hok, -, -, -, hencode⟩ := load_byteList hstart hread hcall rfl rfl true
  have htext : (transcript listing (load "config:quorums" (some .string) true)
      (start registering {})).2.1.toOption.map
        (fun v => (Builtin.textOf .arrayUint8 "list" v).toOption) = some (some "007 , 255") := by
    decide +kernel
  obtain ⟨v, hv, hr⟩ := exists_runs_of_map_eq_some htext
  obtain rfl : v = .string "007 , 255" := by
    cases v <;> simp_all [Builtin.textOf, Except.toOption]
  have hlists : Builtin.Lists "007 , 255".toList [7, 255] := by
    refine ⟨["007 ".toList, " 255".toList], by simp, by decide, by decide, ?_⟩
    have hbyte (p : List Char) (w : Word) (hne : Text.trim p ≠ [])
        (hdigits : (Text.trim p).all Char.isDigit)
        (hvalue : Nat.ofDigitChars 10 (Text.trim p) 0 = w.toNat) (hle : w.toNat ≤ 255) :
        Builtin.IsByte p w :=
      ⟨⟨hne, List.all_eq_true.1 hdigits, hvalue⟩, hle⟩
    refine .cons (hbyte _ _ ?_ ?_ ?_ ?_) (.cons (hbyte _ _ ?_ ?_ ?_ ?_) .nil) <;> decide
  refine ⟨_, _, (hok _ _ _).2 ⟨_, _, _, rfl, hr, hlists, rfl⟩, ?_⟩
  exact (hencode _ _ hlists []).2 2

end Session

end Registrar
