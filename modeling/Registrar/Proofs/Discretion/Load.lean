import Registrar.Proofs.Coding
import Registrar.Proofs.Discretion.Builtin
import Registrar.Proofs.Discretion.Call
import Registrar.Proofs.Failure
import Registrar.Proofs.Resolution
import Registrar.Proofs.Termination

/-!
This module contains the proof that a hidden answer does not show where it is only passed on: an
expression in which hidden ones stand as texts for a contract, or as the file or the password of a
key, is loaded with the same success or the same error, whatever the answers are.
-/

namespace Registrar

namespace KeyExpression

/-- The contract that a call is about, and the name of the method. -/
def callTarget (e : KeyExpression) : Role × String :=
  let callee := (Invocation.read e.payload).callee
  match Operation.splitCallee? callee with
  | some (delegate, method) => (.delegate delegate, method)
  | none => (.primary, callee)

/-- What an expression resolves to, or the error of it, can show the value of a part: an argument that
is not taken as a text, or a parameter that is examined. -/
inductive Exposes (I : Interfaces) (e : KeyExpression) : String → Prop where
  | argument {c : Contract} {m : Method} {i : Nat} {p : Param} {type : AbiType} {key : String}
      (hs : e.source = .call) (hI : I e.callTarget.1 c.interface)
      (hm : c.method e.callTarget.2 (some (Invocation.read e.payload).arguments.length) = .ok m)
      (hk : (Invocation.read e.payload).arguments[i]? = some key) (hp : m.inputs[i]? = some p)
      (htype : p.resolve = some type) (hstring : type ≠ .string) : Exposes I e key
  | parameter {c : BuiltinCall} {name key : String} (hs : e.source = .func)
      (hc : BuiltinCall.read e.payload = .ok c) (hp : c.parameter name = some key)
      (hn : name ∈ c.builtin.examined) : Exposes I e key

/-- Throughout an expression, hidden expressions have no transforms, and no hidden part is exposed. -/
inductive Discreet (I : Interfaces) : String → Prop where
  | intro {key : String} (plain : ∀ e, read? key = some e → e.source = .passwd → e.transform = none)
      (covered : ∀ e part, read? key = some e → e.Exposes I part → ¬ IsHidden part)
      (parts : ∀ e part, read? key = some e → e.Part part → Discreet I part) : Discreet I key

theorem discreet_of_leaf {I : Interfaces} {key : String} {e : KeyExpression}
    (he : read? key = some e) (hc : e.source ≠ .call) (hf : e.source ≠ .func)
    (ht : e.transform = none) : Discreet I key := by
  constructor
  . rintro e' he' -
    rw [he] at he'
    cases he'
    exact ht
  . intro e' part he' hx
    rw [he] at he'
    cases he'
    cases hx with
    | argument hs => exact absurd hs hc
    | parameter hs => exact absurd hs hf
  . intro e' part he' hp
    rw [he] at he'
    cases he'
    cases hp with
    | argument hs => exact absurd hs hc
    | getter hs => exact absurd hs hc
    | parameter hs => exact absurd hs hf

theorem discreet_of_builtin {I : Interfaces} {key : String} {e : KeyExpression} {c : BuiltinCall}
    (he : read? key = some e) (hs : e.source = .func) (hc : BuiltinCall.read e.payload = .ok c)
    (hcovered : ∀ p ∈ c.parameters, p.1 ∈ c.builtin.examined → ¬ IsHidden p.2)
    (hparts : ∀ p ∈ c.parameters, Discreet I p.2) : Discreet I key := by
  constructor
  . intro e' he' hs'
    rw [he] at he'
    cases he'
    rw [hs] at hs'
    cases hs'
  . intro e' part he' hx
    rw [he] at he'
    cases he'
    cases hx with
    | argument hs' =>
      rw [hs] at hs'
      cases hs'
    | @parameter _ name _ _ hc' hp hn =>
      rw [hc] at hc'
      cases hc'
      exact hcovered (name, part) (Assoc.mem_of_find?_eq_some hp) hn
  . intro e' part he' hp
    rw [he] at he'
    cases he'
    cases hp with
    | argument hs' | getter hs' =>
      rw [hs] at hs'
      cases hs'
    | @parameter name _ _ _ hc' hp =>
      rw [hc] at hc'
      cases hc'
      exact hparts (name, part) (Assoc.mem_of_find?_eq_some hp)

theorem not_isHidden_of_source {key : String} {e : KeyExpression} (he : read? key = some e)
    (hs : e.source ≠ .passwd) : ¬ IsHidden key := by
  rintro ⟨e', he', hs'⟩
  rw [he] at he'
  cases he'
  exact hs hs'

end KeyExpression

/-- The hidden answer that an event is. -/
def Event.hiddenAnswer? : Event → Option String
  | ⟨.request _ (.prompt _ _ true), .ok a⟩ => some a
  | _ => none

namespace Session

open Engine KeyExpression

variable {spec : Specification} {I : Interfaces} {key : String} {kind : Option Kind}
  {required : Bool} {e : KeyExpression}

theorem not_isHidden_getterKey (delegate : String) : ¬ IsHidden (getterKey delegate) := by
  rintro ⟨e, he, hs⟩
  have hfront := front_eq he (by rw [hs]; nofun)
  have hgetter : Text.front (getterKey delegate).toList = some 'c' := by
    rw [getterKey, String.toList_append]
    apply Text.front_append
    rw [String.toList_ofList]
    decide
  rw [hgetter, hs] at hfront
  cases hfront

/-- A hidden expression is taken as it is or as a text. -/
def TakenAsText (key : String) (kind : Option Kind) : Prop :=
  IsHidden key → kind = none ∨ kind = some .string

/-- The parts of an expression are loaded alike, and as the same values but for hidden ones. -/
def PartsAlike (spec : Specification) (I : Interfaces) (e : KeyExpression) : Prop :=
  ∀ part, e.Part part → ∀ kind required, TakenAsText part kind →
    Veils spec I (Value.Veiled (IsHidden part)) (load part kind required) (load part kind required)

section Parts

variable (hparts : PartsAlike spec I e) (hcovered : ∀ part, e.Exposes I part → ¬ IsHidden part)

include hparts hcovered

theorem readMethod_parts_veils (hs : e.source = .call) {role : Role} {name : String} {c : Contract}
    (htarget : e.callTarget = (role, name)) (hI : I role c.interface) :
    let load (a : { a // a ∈ (Invocation.read e.payload).arguments }) (kind : Option Kind) :=
      load a.1 kind true
    Veils spec I Eq (readMethod load role c name (Invocation.read e.payload).arguments.attach)
      (readMethod load role c name (Invocation.read e.payload).arguments.attach) := by
  apply readMethod_veils
  intro m hm i p a type hp ha htype
  rw [List.length_attach] at hm
  have hk : (Invocation.read e.payload).arguments[i]? = some a.1 := by
    have hval := congrArg (Option.map Subtype.val) ha
    rw [← List.getElem?_map, List.attach_map_subtype_val] at hval
    exact hval
  have hstring (hh : IsHidden a.1) : type = .string := by
    by_contra hstring
    apply hcovered a.1 _ hh
    apply Exposes.argument hs _ _ hk hp htype hstring
    . exact c
    . rw [htarget]
      exact hI
    . rw [htarget]
      exact hm
  have htaken : TakenAsText a.1 type.kind? := by
    intro hh
    rw [hstring hh]
    exact .inr rfl
  exact (hparts a.1 (.argument hs a.2) type.kind? true htaken).mono fun _ _ hv => hv.mono hstring

theorem resolveCall_veils {bound : Nat} (hs : e.source = .call)
    (h : KeySource.call.marker.length + e.payload.length ≤ bound) :
    Veils spec I Eq (resolveCall (fun k _ => load k : Loader bound) e.payload h)
      (resolveCall (fun k _ => load k : Loader bound) e.payload h) := by
  have htarget : e.callTarget = match Operation.splitCallee? (Invocation.read e.payload).callee with
      | some (delegate, method) => (.delegate delegate, method)
      | none => (.primary, (Invocation.read e.payload).callee) := rfl
  unfold resolveCall
  dsimp only
  split
  . next delegate method hd =>
    rw [hd] at htarget
    have hgetter : Veils spec I Eq (load (getterKey delegate) (some .address) true)
        (load (getterKey delegate) (some .address) true) := by
      apply (hparts _ (.getter hs hd) _ true fun hh => absurd hh (not_isHidden_getterKey _)).mono
      exact fun _ _ hv => hv.eq (not_isHidden_getterKey _)
    apply (bindDelegate_veils delegate hgetter).bind
    rintro c _ ⟨rfl, hI⟩
    exact readMethod_parts_veils hparts hcovered hs htarget hI
  . next hd =>
    rw [hd] at htarget
    apply bindPrimary_veils.bind
    rintro c _ ⟨rfl, hI⟩
    exact readMethod_parts_veils hparts hcovered hs htarget hI

theorem resolveBuiltin_veils {bound : Nat} (hs : e.source = .func) (h : e.payload.length ≤ bound) :
    Veils spec I Eq (resolveBuiltin (fun k _ => load k : Loader bound) e.payload h)
      (resolveBuiltin (fun k _ => load k : Loader bound) e.payload h) := by
  cases hc : BuiltinCall.read e.payload with
  | error fault =>
    have hthrow : resolveBuiltin (fun k _ => load k : Loader bound) e.payload h =
        throw (.key fault) := by
      unfold resolveBuiltin
      split
      . next e' he' =>
        rw [hc] at he'
        cases he'
        rfl
      . next c hc' =>
        rw [hc] at hc'
        cases hc'
    rw [hthrow]
    exact paired_throw _
  | ok c =>
    rw [resolveBuiltin_eq h hc]
    apply Builtin.run_veils
    intro name l hl kind required hkind
    obtain ⟨key, hp, rfl⟩ := Option.map_eq_some_iff.1 hl
    have hexamined (hh : IsHidden key) : name ∉ c.builtin.examined :=
      fun hn => hcovered key (.parameter hs hc hp hn) hh
    have htaken : TakenAsText key kind := fun hh => .inr (hkind (hexamined hh))
    exact (hparts key (.parameter hs hc hp) kind required htaken).mono fun _ _ hv =>
      hv.mono hexamined

end Parts

theorem prompt_veils (name : String) (required : Bool) :
    Veils spec I (Value.Veiled True) (prompt name required true) (prompt name required true) := by
  unfold prompt
  have hanswer : Veils spec I
      (SameEnd fun a a' => Value.Veiled True (.string a) (.string a'))
      (ask (.prompt name required true)) (ask (.prompt name required true)) := by
    apply paired_ask (.prompt name required true) (.prompt name required true)
      (R := SameEnd fun a a' => Value.Veiled True (.string a) (.string a')) (comparable_self _)
    rintro x x' ⟨halike, -⟩
    cases halike with
    | same =>
      apply (sameEnd_self _).mono
      rintro a _ ⟨rfl, -⟩
      exact .same _
    | hidden ha ha' => exact .ok (.texts trivial ha ha')
  apply hanswer.bind
  intro answer answer' h
  apply (paired_ofExcept h).bind
  intro a a' ha
  exact paired_pure ha

theorem setting_veils (name : String) (required : Bool) :
    Veils spec I Eq (setting name required) (setting name required) := by
  unfold setting
  apply (ask_veils rfl).bind_eq
  intro answer
  split
  . exact paired_pure rfl
  . unfold prompt
    apply (ask_veils (r := .prompt name required false) rfl).answer
    intro text
    exact paired_pure rfl

theorem resolveSource_veils {bound : Nat} (hparts : PartsAlike spec I e)
    (hcovered : ∀ part, e.Exposes I part → ¬ IsHidden part)
    (h : e.source.marker.length + e.payload.length ≤ bound) :
    Veils spec I (Value.Veiled (e.source = .passwd))
      (resolveSource (fun k _ => load k : Loader bound) e h required)
      (resolveSource (fun k _ => load k : Loader bound) e h required) := by
  have hsame {x : Engine Value} (hx : Veils spec I Eq x x) :
      Veils spec I (Value.Veiled (e.source = .passwd)) x x := by
    apply hx.mono
    rintro v _ rfl
    exact .same v
  unfold resolveSource
  split
  . next hs => exact hsame (resolveCall_veils hparts hcovered hs _)
  . exact hsame (setting_veils _ _)
  . exact paired_pure (.same _)
  . next hs => exact hsame (resolveBuiltin_veils hparts hcovered hs _)
  . next hs => exact (prompt_veils _ _).mono fun _ _ hv => hv.mono fun _ => hs
  . exact paired_throw _

theorem remember_veils {v v' : Value} (hv : Value.Veiled (IsHidden key) v v') :
    Veils spec I (fun _ _ => True) (remember key e v) (remember key e v') := by
  unfold remember
  split
  . apply paired_modify
    rintro _ _ ⟨hspec, hI, hc⟩
    exact .intro hspec ⟨hI.bound, hI.known⟩ (hc.memoize hv)
  . exact paired_pure trivial

theorem resolve_veils (hparts : ∀ e, read? key = some e → PartsAlike spec I e)
    (hcovered : ∀ e part, read? key = some e → e.Exposes I part → ¬ IsHidden part)
    (hplain : ∀ e, read? key = some e → e.source = .passwd → e.transform = none) :
    Veils spec I (Value.Veiled (IsHidden key)) (resolve key (fun k _ => load k) required)
      (resolve key (fun k _ => load k) required) := by
  unfold resolve
  split
  . exact paired_throw _
  . next e he =>
    have htransform {v v' : Value} (hv : Value.Veiled (e.source = .passwd) v v') :
        Veils spec I (Value.Veiled (IsHidden key)) (applyTransform e.transform v)
          (applyTransform e.transform v') := by
      by_cases hs : e.source = .passwd
      . rw [hplain e he hs]
        exact paired_pure (hv.mono fun hs => ⟨e, he, hs⟩)
      . rw [hv.eq hs]
        unfold applyTransform
        split
        . exact paired_pure (.same _)
        . apply (paired_ofExcept_eq _ _).mono
          rintro v _ rfl
          exact .same v
    apply (resolveSource_veils (hparts e he) (fun part => hcovered e part he) _).bind
    intro v v' hv
    apply (htransform hv).bind
    intro w w' hw
    apply (remember_veils hw).bind
    rintro - - -
    exact paired_pure hw

theorem fetch_veils {load₁ : Loader key.length}
    (hr : Veils spec I (Value.Veiled (IsHidden key)) (resolve key load₁ required)
      (resolve key load₁ required)) :
    Veils spec I (Value.Veiled (IsHidden key)) (fetch key load₁ required)
      (fetch key load₁ required) := by
  unfold fetch
  apply paired_get.bind
  rintro s _ ⟨-, -, hc⟩
  have hkey := hc key
  dsimp only
  generalize s.cache.find? key = x at hkey ⊢
  generalize Cache.find? _ key = x' at hkey ⊢
  cases hkey with
  | none => exact hr.within _
  | some hv => exact paired_pure hv

theorem finish_veils {P : Prop} {v v' : Value} (hv : Value.Veiled P v v')
    (hk : P → kind = none ∨ kind = some .string) :
    Veils spec I (Value.Veiled P) (finish key kind required v) (finish key kind required v') := by
  unfold finish
  rw [hv.isEmpty_eq]
  split
  . split
    . exact paired_throw _
    . exact paired_pure hv
  . cases hv with
    | same =>
      split
      . exact paired_pure (.same _)
      . apply (paired_ofExcept_eq _ _).mono
        rintro w _ rfl
        exact .same w
    | texts h ha ha' =>
      cases hk h with
      | inl hnone =>
        rw [hnone]
        exact paired_pure (.texts h ha ha')
      | inr hstring =>
        rw [hstring]
        dsimp only
        rw [Value.convert_string, Value.convert_string]
        exact paired_pure (.texts h ha ha')

theorem load_veils (h : Discreet I key) (hk : TakenAsText key kind) :
    Veils spec I (Value.Veiled (IsHidden key)) (load key kind required)
      (load key kind required) := by
  induction h generalizing kind required with
  | intro plain covered _ ih =>
    rw [load_eq_loadBy]
    unfold loadBy
    have hparts (e : KeyExpression) (he : read? _ = some e) : PartsAlike spec I e :=
      fun part hp kind required hk => ih e part he hp hk
    apply (fetch_veils (resolve_veils hparts covered plain)).bind
    intro v v' hv
    apply (finish_veils hv hk).bind
    intro w w' hw
    apply (say_veils _ _).bind
    rintro - - -
    exact paired_pure hw

/-- Two runs that differ only in hidden answers, none of which is empty, succeed both or fail with the
same error, if hidden answers are only passed on; and unless the expression is itself a hidden one,
they have the same value. -/
theorem load_discreet {s s₁ s₂ : Session} {t₁ t₂ : Trace} {r₁ r₂ : Except OperationError Value}
    (hd : Discreet I key) (hk : IsHidden key → kind = none ∨ kind = some .string)
    (hs : s.Within I) (hw : ∀ e ∈ t₁, e.Within s.spec I)
    (h₁ : Runs (load key kind required) s t₁ r₁ s₁) (h₂ : Runs (load key kind required) s t₂ r₂ s₂)
    (ht : Trace.Alike t₁ t₂) :
    (∃ v₁ v₂, r₁ = .ok v₁ ∧ r₂ = .ok v₂ ∧ (¬ IsHidden key → v₁ = v₂)) ∨
      ∃ e, r₁ = .error e ∧ r₂ = .error e := by
  have hsame : Session.Alike s.spec I s s := .intro rfl hs (Cache.alike_refl s.cache)
  obtain ⟨hend, -⟩ := (load_veils hd hk).of_runs hsame h₁ h₂ (ht.and hw)
  cases hend with
  | ok hv => exact .inl ⟨_, _, rfl, rfl, hv.eq⟩
  | error e => exact .inr ⟨e, rfl, rfl⟩

/-- A partner who gives the same hidden answer each time, and whose signer does not find the key. -/
def confiding (document answer : String) : (q : Query) → q.Reply
  | .request _ (.prompt _ _ true) => .ok answer
  | .request _ (.publicKey _) => .error (.signing "no key")
  | q => compliant (fun _ => document) [] q

theorem alike_confiding {document a a' : String} (ha : a ≠ "") (ha' : a' ≠ "") (q q' : Query)
    (h : Interaction.Comparable Event.Alike q q') :
    Event.Alike ⟨q, confiding document a q⟩ ⟨q', confiding document a' q'⟩ := by
  obtain ⟨x, x', h⟩ := h
  cases h with
  | same =>
    cases q with
    | remark m => exact .same _
    | request about r =>
      cases r with
      | prompt name required hidden =>
        cases hidden with
        | true => exact .hidden ha ha'
        | false => exact .same _
      | _ => exact .same _
  | hidden => exact .hidden ha ha'
  | remark m m' => exact .remark m m'
  | call => exact .call _
  | publicKey hk => exact .publicKey hk _
  | sign hk => exact .sign hk _

/-- A session in which nothing is known but the specification. -/
def unseeded : Session where
  spec := registering

/-- What happens when an expression is loaded and the hidden answers are the given one. -/
@[irreducible]
def confided (document answer key : String) (kind : Option Kind) :
    Trace × Except OperationError Value × Session :=
  transcript (confiding document answer) (load key kind true) unseeded

section Confided

variable (document key : String) (kind : Option Kind)

theorem alike_confided {a a' : String} (ha : a ≠ "") (ha' : a' ≠ "") :
    Trace.Alike (confided document a key kind).1 (confided document a' key kind).1 := by
  unfold confided
  exact Interaction.answeredAlike_transcript (alike_confiding ha ha') _ _

theorem runs_confided (answer : String) :
    Runs (load key kind true) unseeded (confided document answer key kind).1
      (confided document answer key kind).2.1 (confided document answer key kind).2.2 := by
  unfold confided
  exact runs_transcript _ _ _

theorem runs_confided_of_failure (answer : String) {e : OperationError}
    (h : failure? (confided document answer key kind).2.1 = some e) :
    Runs (load key kind true) unseeded (confided document answer key kind).1 (.error e)
      (confided document answer key kind).2.2 := by
  unfold confided at h ⊢
  exact runs_of_failure?_eq_some h

end Confided

/-- Whatever the password is, a public key that the signer does not find is reported alike. -/
theorem load_discreet_password :
    let key := "func:ecdsa_public_key(file=const:k,password=passwd:p)"
    let e := OperationError.resolution key (.signer (.signing "no key"))
    Discreet (fun _ _ => True) key ∧
      ∃ t₁ t₂ s₁ s₂, Runs (load key none true) unseeded t₁ (.error e) s₁ ∧
        Runs (load key none true) unseeded t₂ (.error e) s₂ ∧ Trace.Alike t₁ t₂ ∧
        t₁.filterMap Event.hiddenAnswer? = ["hunter2"] ∧
        t₂.filterMap Event.hiddenAnswer? = ["swordfish"] := by
  intro key e
  have hread : read? key =
      some ⟨.func, "ecdsa_public_key(file=const:k,password=passwd:p)", none⟩ := by
    decide +kernel
  have hd : Discreet (fun _ _ => True) key := by
    have hcall : BuiltinCall.read "ecdsa_public_key(file=const:k,password=passwd:p)" =
        .ok ⟨.ecdsaPublicKey, [("file", "const:k"), ("password", "passwd:p")]⟩ := by
      decide +kernel
    have hfile : read? "const:k" = some ⟨.const, "k", none⟩ := by decide
    have hpassword : read? "passwd:p" = some ⟨.passwd, "p", none⟩ := by decide
    apply discreet_of_builtin hread rfl hcall
    . simp [Builtin.examined]
    . simp only [List.forall_mem_cons, List.not_mem_nil, false_implies, implies_true, and_true]
      exact ⟨discreet_of_leaf hfile nofun nofun rfl, discreet_of_leaf hpassword nofun nofun rfl⟩
  have hhidden : ¬ IsHidden key := not_isHidden_of_source hread nofun
  have hs : unseeded.Within fun _ _ => True :=
    ⟨fun _ _ _ => trivial, fun _ _ _ _ _ => trivial⟩
  have hw (t : Trace) : ∀ e ∈ t, e.Within unseeded.spec fun _ _ => True :=
    fun _ _ _ _ _ _ _ _ _ => trivial
  have hfailure : failure? (confided "" "hunter2" key none).2.1 = some e := by decide +kernel
  have h₁ := runs_confided_of_failure "" key none "hunter2" hfailure
  have h₂ := runs_confided "" key none "swordfish"
  have hne : "hunter2" ≠ "" := by decide
  have hne' : "swordfish" ≠ "" := by decide
  have ht := alike_confided "" key none hne hne'
  have hsame : (confided "" "swordfish" key none).2.1 = .error e := by
    cases load_discreet hd (fun h => absurd h hhidden) hs (hw _) h₁ h₂ ht with
    | inl hok =>
      obtain ⟨_, _, hv, -⟩ := hok
      cases hv
    | inr herror =>
      obtain ⟨e', he, he'⟩ := herror
      cases he
      exact he'
  rw [hsame] at h₂
  exact ⟨hd, _, _, _, _, h₁, h₂, ht, by decide +kernel, by decide +kernel⟩

/-- Two runs that load an expression and differ only in hidden answers fail with errors of different
texts. -/
def ShowsAnswer (key : String) (kind : Option Kind) : Prop :=
  ∃ s t₁ t₂ e₁ e₂ s₁ s₂, Runs (load key kind true) s t₁ (.error e₁) s₁ ∧
    Runs (load key kind true) s t₂ (.error e₂) s₂ ∧ Trace.Alike t₁ t₂ ∧ e₁.message ≠ e₂.message

theorem showsAnswer_of_failures (document : String) {key : String} {kind : Option Kind}
    (e : String → OperationError)
    (h : ∀ a ∈ ["hunter2", "swordfish"], failure? (confided document a key kind).2.1 = some (e a))
    (hne : (e "hunter2").message ≠ (e "swordfish").message) : ShowsAnswer key kind :=
  ⟨_, _, _, _, _, _, _, runs_confided_of_failure document key kind _ (h "hunter2" (by simp)),
    runs_confided_of_failure document key kind _ (h "swordfish" (by simp)),
    alike_confided document key kind (by decide) (by decide), hne⟩

/-- The error that a text is no byte. -/
def notByte (text : String) : OperationError :=
  .ofConversion (.parse text "uint8" .notUnsigned)

/-- A hidden answer shows where it is converted to a number, transformed, encoded as an argument that
is no text, or read as a list. -/
theorem showsAnswer_of_use :
    ShowsAnswer "passwd:p" (some (.uint 8)) ∧ ShowsAnswer "passwd:p->[]byte()" none ∧
      ShowsAnswer "call:m(passwd:p)" none ∧ ShowsAnswer "func:array_uint8(list=passwd:p)" none := by
  refine ⟨?_, ?_, ?_, ?_⟩
  . apply showsAnswer_of_failures "" fun a => .resolution "passwd:p" (notByte a)
    . decide +kernel
    . decide +kernel
  . apply showsAnswer_of_failures "" fun a =>
      .resolution "passwd:p->[]byte()" (.ofTransform (.notARecord "[]byte()" a))
    . decide +kernel
    . decide +kernel
  . apply showsAnswer_of_failures (methodDocument "m" ["uint8"] []) fun a =>
      .resolution "call:m(passwd:p)"
        (.parameterMapping "m(uint8)" 0 (.resolution "passwd:p" (notByte a)))
    . decide +kernel
    . decide +kernel
  . apply showsAnswer_of_failures "" fun a =>
      .resolution "func:array_uint8(list=passwd:p)" (notByte a)
    . decide +kernel
    . decide +kernel

end Session

end Registrar
