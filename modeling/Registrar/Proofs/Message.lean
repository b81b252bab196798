import Registrar.Proofs.Matching
import Registrar.Proofs.Number.Address
import Registrar.Proofs.Separation
import Registrar.Proofs.Validation

/-!
This module contains what a user is shown of a message. Nothing is shown if the message is blank or
ends in a colon, white space aside. A message ends with that of the innermost error that is wrapped,
so that this one decides; it leaves nothing to show only if it ends with a text that it quotes.
-/

namespace Registrar

namespace Text

variable {a s w x : List Char}

theorem getLast?_trim_append_cons {c : Char} (hc : isBlank c = false) (hw : isBlankText w)
    (a : List Char) : (trim (a ++ c :: w)).getLast? = some c := by
  rw [List.append_cons, trim_append_blank hw]
  have hsolid : Solid [c] := ⟨⟨c, [], rfl, hc⟩, ⟨[], c, rfl, hc⟩⟩
  unfold trim
  by_cases ha : trimStart a = []
  . rw [trimStart_blank_append (isBlankText_of_trimStart ha), ← List.append_nil [c],
      hsolid.trimStart_append, List.append_nil]
    exact congrArg List.getLast? (hsolid.trimEnd_append [])
  . rw [trimStart_append ha, hsolid.trimEnd_append, List.getLast?_concat]

theorem getLast?_trim_append_blank (hx : isBlankText x) (a : List Char) :
    (trim (a ++ x)).getLast? = (trim a).getLast? := by
  rw [trim_append_blank hx]

theorem getLast?_trim_append (hx : ¬ isBlankText x) (a : List Char) :
    (trim (a ++ x)).getLast? = (trim x).getLast? := by
  obtain ⟨b, w, -, hw, heq⟩ := exists_blanks x
  obtain ⟨r, c, hlast, hc⟩ := (solid_trim (mt trim_eq_nil_iff.1 hx)).last
  rw [hlast] at heq ⊢
  rw [heq, List.append_assoc r, List.singleton_append, ← List.append_assoc b, ← List.append_assoc a,
    getLast?_trim_append_cons hc hw, List.getLast?_concat]

theorem mem_of_mem_trim {c : Char} (h : c ∈ trim s) : c ∈ s := by
  obtain ⟨b, w, -, -, heq⟩ := exists_blanks s
  rw [heq]
  exact List.mem_append_right _ (List.mem_append_left _ h)

theorem fields_append_last {sep : Char} (hw : sep ∉ w) (a : List Char) :
    fields sep (a ++ sep :: w) = fields sep a ++ [w] := by
  induction a with
  | nil =>
    rw [fields_append List.not_mem_nil, fields_of_not_mem hw]
    rfl
  | cons c a ih =>
    by_cases hc : c = sep
    . rw [List.cons_append, fields, if_pos hc, ih, fields, if_pos hc, List.cons_append]
    . obtain ⟨f, fs, ha, hcons⟩ := fields_cons_eq hc a
      rw [ha, List.cons_append] at ih
      rw [hcons, List.cons_append, fields, if_neg hc, ih, List.cons_append]

/-- The last occurrence of a character in a text. -/
theorem exists_last_of_mem {c : Char} (h : c ∈ s) : ∃ a w, s = a ++ c :: w ∧ c ∉ w := by
  obtain ⟨w, a, heq, hw⟩ := List.eq_append_cons_of_mem (List.mem_reverse.2 h)
  refine ⟨a.reverse, w.reverse, ?_, mt List.mem_reverse.1 hw⟩
  rw [← List.reverse_inj, heq]
  simp

end Text

/-- White space aside, the text ends in a colon. -/
def EndsInColon (m : String) : Prop :=
  (Text.trim m.toList).getLast? = some ':'

/-- The text is blank or ends in a colon, so that nothing is shown of it. -/
def Mute (m : String) : Prop :=
  Text.isBlankText m.toList ∨ EndsInColon m

instance (m : String) : Decidable (EndsInColon m) :=
  inferInstanceAs (Decidable (_ = _))

instance (m : String) : Decidable (Mute m) :=
  inferInstanceAs (Decidable (_ ∨ _))

section

variable {a m x : String}

theorem not_endsInColon_of_blank (hm : Text.isBlankText m.toList) : ¬ EndsInColon m := by
  unfold EndsInColon
  rw [Text.trim_of_blank hm]
  nofun

/-- What a text ends with decides, unless it is blank. -/
theorem endsInColon_append :
    EndsInColon (a ++ x) ↔ EndsInColon x ∨ Text.isBlankText x.toList ∧ EndsInColon a := by
  by_cases hx : Text.isBlankText x.toList
  . simp only [hx, not_endsInColon_of_blank hx, false_or, true_and]
    unfold EndsInColon
    rw [String.toList_append, Text.getLast?_trim_append_blank hx]
  . rw [or_iff_left fun h => hx h.1]
    unfold EndsInColon
    rw [String.toList_append, Text.getLast?_trim_append hx]

theorem mute_append : Mute (a ++ x) ↔ EndsInColon x ∨ Text.isBlankText x.toList ∧ Mute a := by
  have hblank : Text.isBlankText (a ++ x).toList ↔
      Text.isBlankText a.toList ∧ Text.isBlankText x.toList := by
    rw [Text.isBlankText, String.toList_append, List.all_append, Bool.and_eq_true]
    rfl
  unfold Mute
  rw [hblank, endsInColon_append]
  grind

theorem EndsInColon.append (hx : EndsInColon x) (a : String) : EndsInColon (a ++ x) :=
  endsInColon_append.2 (.inl hx)

theorem mute_append_of_endsInColon (ha : EndsInColon a) : Mute (a ++ x) ↔ Mute x := by
  rw [mute_append, Mute, Mute]
  grind

theorem mute_append_of_not_mute (ha : ¬ Mute a) : Mute (a ++ x) ↔ EndsInColon x := by
  rw [mute_append, or_iff_left fun h => ha h.2]

theorem not_mute_append (hx : ¬ Mute x) (a : String) : ¬ Mute (a ++ x) := by
  rw [mute_append]
  unfold Mute at hx
  grind

/-- The message of an error that wraps another one shows what the other one shows. -/
theorem mute_wrapped : Mute (a ++ ": " ++ x) ↔ Mute x :=
  mute_append_of_endsInColon (EndsInColon.append (by decide) a)

theorem mute_of_not_mem (hm : ':' ∉ m.toList) : Mute m ↔ Text.isBlankText m.toList := by
  unfold Mute
  rw [or_iff_left]
  intro h
  exact hm (Text.mem_of_mem_trim (List.mem_of_getLast? h))

theorem userFacingMessage_eq_empty_iff : userFacingMessage m = "" ↔ Mute m := by
  have hempty (s : List Char) : String.ofList (Text.trim s) = "" ↔ Text.isBlankText s := by
    rw [← Text.trim_eq_nil_iff, ← String.toList_inj, String.toList_ofList]
    rfl
  unfold userFacingMessage
  by_cases hm : ':' ∈ m.toList
  . -- what stands behind the last colon is shown, and it alone is not mute if it is not blank
    obtain ⟨a, w, heq, hw⟩ := Text.exists_last_of_mem hm
    have hlast : m = String.ofList (a ++ [':']) ++ String.ofList w := by
      rw [← String.ofList_append, List.append_assoc, ← String.toList_inj, String.toList_ofList, heq]
      rfl
    have hends : EndsInColon (String.ofList (a ++ [':'])) := by
      rw [String.ofList_append]
      exact EndsInColon.append (by decide) _
    rw [heq, Text.fields_append_last hw, List.getLast?_concat]
    rw [hlast, mute_append_of_endsInColon hends, mute_of_not_mem (by rwa [String.toList_ofList]),
      String.toList_ofList]
    exact hempty w
  . rw [Text.fields_of_not_mem hm, mute_of_not_mem hm]
    exact hempty m.toList

end

theorem mute_singleton_iff {c : Char} :
    Mute (String.singleton c) ↔ c = ':' ∨ Text.isBlank c := by
  cases hc : Text.isBlank c with
  | true =>
    refine iff_of_true (.inl ?_) (.inr rfl)
    simpa [Text.isBlankText] using hc
  | false =>
    have hlast := Text.getLast?_trim_append_cons hc Text.isBlankText_nil []
    unfold Mute EndsInColon
    rw [String.toList_singleton, ← List.nil_append [c], hlast]
    simp [Text.isBlankText, hc]

theorem Decimal.not_mute (n : Nat) : ¬ Mute (text n) := by
  have hdigits : ∀ c ∈ ofNat n, c.isDigit := fun c => isDigit_of_mem_ofNat
  obtain ⟨r, c, hr, hc⟩ := (Address.solid_of_digits (ofNat_ne_nil n) hdigits).last
  have htext : text n = String.ofList r ++ String.singleton c := by
    rw [text, hr, String.ofList_append, String.singleton_eq_ofList]
  rw [htext]
  apply not_mute_append
  rw [mute_singleton_iff, hc]
  rintro (rfl | h)
  . exact absurd (hdigits ':' (by rw [hr]; simp)) (by decide)
  . cases h

theorem Hex.Fault.not_mute (fault : Hex.Fault) : ¬ Mute fault.message := by
  cases fault with
  | oddLength => decide
  | wrongLength => decide
  | badCharacter c position => exact not_mute_append (Decimal.not_mute position) _

theorem Json.Fault.not_mute (fault : Json.Fault) : ¬ Mute fault.message := by
  cases fault with
  | flaw f line column => exact not_mute_append (Decimal.not_mute column) _
  | notNormal => decide

theorem Interface.not_mute_of_read {text : String} {fault : Interface.Fault}
    (h : Interface.read text = .error fault) : ¬ Mute fault.message := by
  unfold Interface.read at h
  split at h
  . next f hf =>
    cases h
    exact f.not_mute
  . next j hj =>
    dsimp only at h
    -- the items stand in a member or are the document, and they describe a contract or do not
    split at h
    . split at h
      . rw [pure_bind] at h
        split at h
        . cases h
        . cases h
          decide
      . cases h
        decide
    . rw [pure_bind] at h
      split at h
      . cases h
      . cases h
        decide

theorem Kind.not_mute (kind : Kind) : ¬ Mute kind.name := by
  cases kind with
  | int bits | uint bits => exact not_mute_append (Decimal.not_mute bits) _
  | _ => decide

theorem AbiType.not_mute (t : AbiType) : ¬ Mute t.name := by
  cases t with
  | int n | uint n | fixedBytes n => exact not_mute_append (Decimal.not_mute n) _
  | array _ | fixedArray _ _ => exact not_mute_append (by decide) _
  | tuple items =>
    unfold name tupleName
    split
    . exact not_mute_append (by decide) _
    . exact not_mute_append (by decide) _
  | _ => decide

/-- The character that is no digit, with which the text ends, is a colon or white space. -/
def ReadFault.Silent : ReadFault → Prop
  | .strangeDigit c => c = ':' ∨ Text.isBlank c
  | _ => False

theorem ReadFault.mute_iff (fault : ReadFault) : Mute fault.message ↔ fault.Silent := by
  cases fault with
  | strangeDigit c =>
    unfold message
    rw [mute_append_of_endsInColon (by decide)]
    exact mute_singleton_iff
  | outOfRange kind => exact iff_of_false (not_mute_append kind.not_mute _) id
  | notHex fault => exact iff_of_false fault.not_mute id
  | _ => exact iff_of_false (by decide) id

namespace ConversionError

/-- What the text quotes at its end, a character or a name, leaves nothing to show. -/
def Silent : ConversionError → Prop
  | .parse _ _ reason => reason.Silent
  | .missingField name => EndsInColon name
  | _ => False

/-- Nothing is shown of the error exactly if it is silent. -/
def Candid (e : ConversionError) : Prop :=
  Mute e.message ↔ e.Silent

theorem candid_parse (text kind : String) (reason : ReadFault) : Candid (.parse text kind reason) :=
  mute_wrapped.trans reason.mute_iff

theorem candid_missingField (name : String) : Candid (.missingField name) :=
  mute_append_of_not_mute (by decide)

theorem candid_coercion {expected : String} (h : ¬ Mute expected) (text : String) :
    Candid (.coercion text expected) :=
  iff_of_false (not_mute_append h _) id

end ConversionError

theorem of_mapError_eq_error {ε ε' α : Type} {P : ε' → Prop} {x : Except ε α} {wrap : ε → ε'}
    {e : ε'} (hx : ∀ e, x = .error e → P (wrap e)) (h : x.mapError wrap = .error e) : P e := by
  cases x with
  | ok a => cases h
  | error e₀ =>
    cases h
    exact hx e₀ rfl

theorem of_bind_eq_error {ε α β : Type} {P : ε → Prop} {x : Except ε α} {f : α → Except ε β} {e : ε}
    (hx : ∀ e, x = .error e → P e) (hf : ∀ a, f a = .error e → P e) (h : (x >>= f) = .error e) :
    P e := by
  cases x with
  | ok a => exact hf a h
  | error e₀ =>
    cases h
    exact hx e rfl

namespace Value

open ConversionError

variable {e : ConversionError} {v : Value} {components : List Param}

theorem candid_of_convert {kind : Kind} (h : v.convert kind = .error e) : e.Candid := by
  unfold convert at h
  split at h
  . cases h
  . exact of_mapError_eq_error (fun reason _ => candid_parse _ _ reason) h

theorem candid_of_toBytes (h : v.toBytes = .error e) : e.Candid := by
  unfold toBytes at h
  split at h
  . cases h
  . split at h
    . exact of_mapError_eq_error (fun fault _ => candid_parse _ _ (.notHex fault)) h
    . cases h
  . cases h
  . cases h
  . cases h
  . cases h
    exact candid_coercion (by decide) _

theorem candid_of_toDigest (h : v.toDigest = .error e) : e.Candid := by
  apply of_bind_eq_error (fun e => candid_of_toBytes) _ h
  intro b h
  split at h
  . cases h
  . cases h
    exact candid_coercion (by decide) _

theorem candid_of_toInt64 (h : v.toInt64 = .error e) : e.Candid := by
  apply of_bind_eq_error (fun e => candid_of_convert) _ h
  intro w h
  split at h
  . unfold narrow at h
    split at h
    . cases h
    . cases h
      apply candid_parse
  . cases h
    exact candid_coercion (by decide) _

theorem candid_of_encodePrimitive {t : AbiType} (h : encodePrimitive t v = .error e) :
    e.Candid := by
  have hcoercion : Candid (v.coercion t) := candid_coercion t.not_mute _
  unfold encodePrimitive at h
  split at h
  any_goals cases h
  . split at h
    . cases h
    . cases h
      exact hcoercion
  . exact hcoercion

theorem candid_of_converted {t : AbiType} {kind : Kind}
    (h : (v.convert kind >>= encodePrimitive t) = .error e) : e.Candid :=
  of_bind_eq_error (fun _ => candid_of_convert) (fun _ => candid_of_encodePrimitive) h

theorem candid_of_mapM {items : List Value} {f : Value → Except ConversionError AbiValue}
    (hf : ∀ v e, f v = .error e → e.Candid) (h : items.mapM f = .error e) : e.Candid := by
  induction items generalizing e with
  | nil => cases h
  | cons v items ih =>
    rw [List.mapM_cons] at h
    apply of_bind_eq_error (hf v) _ h
    intro w h
    apply of_bind_eq_error (fun _ => ih) _ h
    nofun

mutual

theorem candid_of_encodeAs (t : AbiType) (components : List Param) (v : Value)
    (e : ConversionError) (h : encodeAs t components v = .error e) : e.Candid := by
  have hcoercion (v : Value) : Candid (v.coercion t) := candid_coercion t.not_mute _
  cases t with
  | bool | int _ | uint _ | string | address =>
    rw [encodeAs] at h
    exact candid_of_converted h
  | fixedBytes size =>
    rw [encodeAs] at h
    apply of_bind_eq_error (fun _ => candid_of_toBytes) _ h
    intro b h
    split at h
    . cases h
    . cases h
      apply hcoercion
  | bytes =>
    rw [encodeAs] at h
    apply of_bind_eq_error (fun _ => candid_of_toBytes) _ h
    nofun
  | function =>
    rw [encodeAs] at h
    cases h
    apply hcoercion
  | array item =>
    rw [encodeAs_array] at h
    split at h
    . apply of_bind_eq_error (fun _ => candid_of_mapM (candid_of_encodeAs item components)) _ h
      nofun
    . cases h
      apply hcoercion
  | fixedArray item length =>
    rw [encodeAs_fixedArray] at h
    split at h
    . split at h
      . apply of_bind_eq_error (fun _ => candid_of_mapM (candid_of_encodeAs item components)) _ h
        nofun
      . cases h
        apply hcoercion
    . cases h
      apply hcoercion
  | tuple types =>
    rw [encodeAs] at h
    split at h
    . cases h
      apply hcoercion
    . next fields hfields =>
      split at h
      . apply of_bind_eq_error (candid_of_encodeNamed types components fields) _ h
        nofun
      . split at h
        . apply of_bind_eq_error (candid_of_encodePositional types components _) _ h
          nofun
        . cases h
          exact candid_coercion (not_mute_append (by decide) _) _

theorem candid_of_encodeNamed (types : List AbiType) (components : List Param) (fields : Record)
    (e : ConversionError) (h : encodeNamed types components fields = .error e) : e.Candid := by
  cases types with
  | nil =>
    unfold encodeNamed at h
    cases h
  | cons t types =>
    cases components with
    | nil =>
      unfold encodeNamed at h
      cases h
    | cons p components =>
      rw [encodeNamed] at h
      split at h
      . cases h
        apply candid_missingField
      . next v hv =>
        apply of_bind_eq_error (candid_of_encodeAs t p.components v) _ h
        intro w h
        apply of_bind_eq_error (candid_of_encodeNamed types components fields) _ h
        nofun

theorem candid_of_encodePositional (types : List AbiType) (components : List Param)
    (values : List Value) (e : ConversionError)
    (h : encodePositional types components values = .error e) : e.Candid := by
  cases types with
  | nil =>
    unfold encodePositional at h
    cases h
  | cons t types =>
    cases values with
    | nil =>
      unfold encodePositional at h
      cases h
    | cons v values =>
      rw [encodePositional] at h
      apply of_bind_eq_error (candid_of_encodeAs t _ v) _ h
      intro w h
      apply of_bind_eq_error (candid_of_encodePositional types components.tail values) _ h
      nofun

end

end Value

/-- What the text quotes at its end leaves nothing to show. -/
def TransformError.Silent : TransformError → Prop
  | .unknownTransform name => EndsInColon name
  | .malformed text => EndsInColon text
  | .notARecord _ value => EndsInColon value
  | .missingField _ field => EndsInColon field

theorem TransformError.mute_iff (e : TransformError) : Mute e.message ↔ e.Silent := by
  cases e with
  | unknownTransform _ | malformed _ => exact mute_append_of_not_mute (by decide)
  | notARecord _ _ | missingField _ _ =>
    exact mute_append_of_not_mute (not_mute_append (by decide) _)

def ResolutionError.Silent : ResolutionError → Prop
  | .invalidKeyFormat key => Mute key
  | .invalidFunction name => Mute name
  | .malformedFunctionParameter text => Mute text
  | .requiredValueMissing key => Mute key
  | .invalidParameter _ _ reason => Mute reason
  | .conversion source => source.Silent
  | .transform source => source.Silent
  | _ => False

namespace OperationError

/-- The innermost error that is wrapped ends with a text of the document, of an expression or of a
value, and this text leaves nothing to show. -/
def Silent : OperationError → Prop
  | .key source => source.Silent
  | .resolution _ source => Silent source
  | .parameterMapping _ _ source => Silent source
  | .delegateResolution _ source => Silent source
  | .methodNotFound contract _ => EndsInColon contract
  | _ => False

/-- Nothing is shown of the error exactly if it is silent. -/
def Candid (e : OperationError) : Prop :=
  Mute e.message ↔ e.Silent

variable {e : OperationError}

theorem candid_of_not_mute (hm : ¬ Mute e.message) (hs : ¬ e.Silent) : e.Candid :=
  iff_of_false hm hs

theorem candid_ofConversion {e : ConversionError} (he : e.Candid) : (ofConversion e).Candid :=
  he

theorem candid_ofTransform (e : TransformError) : (ofTransform e).Candid :=
  e.mute_iff

theorem candid_invalidKeyFormat (key : String) : Candid (.key (.invalidKeyFormat key)) :=
  mute_append_of_endsInColon (by decide)

theorem candid_invalidFunction (name : String) : Candid (.key (.invalidFunction name)) :=
  mute_append_of_endsInColon (by decide)

theorem candid_malformedFunctionParameter (text : String) :
    Candid (.key (.malformedFunctionParameter text)) :=
  mute_append_of_endsInColon (by decide)

theorem candid_requiredValueMissing (key : String) : Candid (.key (.requiredValueMissing key)) :=
  mute_append_of_endsInColon (by decide)

theorem candid_invalidParameter (function parameter reason : String) :
    Candid (.key (.invalidParameter function parameter reason)) :=
  mute_wrapped

theorem Candid.resolution (he : e.Candid) (expression : String) :
    Candid (.resolution expression e) :=
  mute_wrapped.trans he

theorem Candid.parameterMapping (he : e.Candid) (method : String) (position : Nat) :
    Candid (.parameterMapping method position e) :=
  mute_wrapped.trans he

theorem Candid.delegateResolution (he : e.Candid) (delegate : String) :
    Candid (.delegateResolution delegate e) :=
  mute_wrapped.trans he

end OperationError

end Registrar
