import Registrar.Proofs.Arguments
import Registrar.Proofs.Conduct.Operation

/-!
This module contains what loading an expression comes to. The value is the one that is remembered,
or else the expression is resolved: a call reads a method after its arguments have been loaded, and
a function is run with its parameters.
-/

namespace Registrar

def BuiltinCall.arguments (c : BuiltinCall) : Builtin.Arguments :=
  fun name => (c.parameter name).map Session.load

def BuiltinCall.run (c : BuiltinCall) : Engine Value :=
  c.builtin.run c.arguments

def Value.convertIf (kind : Option Kind) (v : Value) : Except ConversionError Value :=
  match kind with
  | none => .ok v
  | some kind => v.convert kind

/-- What a value comes to where it is loaded: an empty value is not converted, and passes only where
none is required. -/
def Value.FinishedAs (w : Value) (kind : Option Kind) (required : Bool) (v : Value) : Prop :=
  w.isEmpty ∧ required = false ∧ v = w ∨ ¬ w.isEmpty ∧ w.convertIf kind = .ok v

theorem Invocation.target_of_some {i : Invocation} {delegate method : String}
    (hs : Operation.splitCallee? i.callee = some (delegate, method)) :
    i.target = (.delegate delegate, method) := by
  unfold Invocation.target
  rw [hs]

theorem Invocation.target_of_none {i : Invocation} (hs : Operation.splitCallee? i.callee = none) :
    i.target = (.primary, i.callee) := by
  unfold Invocation.target
  rw [hs]

namespace Session

open Engine

variable {s s' : Session} {t : Trace} {key payload : String} {kind : Option Kind} {required : Bool}
  {v w : Value}

theorem arguments_follow (c : BuiltinCall) : c.arguments.Follow .reading := by
  intro name load hload kind required
  obtain ⟨key, -, rfl⟩ := Option.map_eq_some_iff.1 hload
  apply load_follows_reading

theorem runs_finish_ok_iff :
    Runs (finish key kind required w) s t (.ok v) s' ↔
      t = [] ∧ w.FinishedAs kind required v ∧ s' = s := by
  unfold finish Value.FinishedAs
  split
  . next hempty =>
    cases required with
    | true => simp [runs_throw_iff, hempty]
    | false => simp [runs_pure_iff, hempty]
  . next hempty =>
    cases kind with
    | none => simp [runs_pure_iff, hempty, Value.convertIf, eq_comm]
    | some kind => simp [runs_ofExcept_ok_iff, hempty, Value.convertIf]

theorem still_of_finish {r : Except OperationError Value}
    (hr : Runs (finish key kind required w) s t r s') : t = [] ∧ s' = s := by
  unfold finish at hr
  split at hr
  . split at hr
    . obtain ⟨ht, -, hs⟩ := runs_throw_iff.1 hr
      exact ⟨ht, hs⟩
    . obtain ⟨ht, -, hs⟩ := runs_pure_iff.1 hr
      exact ⟨ht, hs⟩
  . split at hr
    . obtain ⟨ht, -, hs⟩ := runs_pure_iff.1 hr
      exact ⟨ht, hs⟩
    . obtain ⟨ht, -, hs⟩ := runs_ofExcept_iff.1 hr
      exact ⟨ht, hs⟩

theorem runs_finish_iff {r : Except OperationError Value} (hv : w.FinishedAs kind required v) :
    Runs (finish key kind required w) s t r s' ↔ t = [] ∧ r = .ok v ∧ s' = s := by
  unfold finish
  obtain ⟨hempty, rfl, rfl⟩ | ⟨hempty, hv⟩ := hv
  . rw [if_pos hempty]
    exact runs_pure_iff
  . rw [if_neg hempty]
    cases kind with
    | none =>
      cases hv
      exact runs_pure_iff
    | some kind =>
      have hv : w.convert kind = .ok v := hv
      dsimp only
      rw [hv]
      exact runs_pure_iff

/-- What is loaded has been fetched, and is said last. -/
theorem runs_load_ok_iff :
    Runs (load key kind required) s t (.ok v) s' ↔
      ∃ w t₁, t = t₁ ++ [Event.loaded key v] ∧
        Runs (fetch key (fun k _ => load k) required) s t₁ (.ok w) s' ∧
        w.FinishedAs kind required v := by
  rw [load_eq_loadBy]
  unfold loadBy
  rw [runs_bind_ok_iff]
  constructor
  . rintro ⟨w, s₁, t₁, t₂, rfl, hfetch, hrest⟩
    obtain ⟨v', s₂, t₃, t₄, rfl, hfinish, hsaid⟩ := runs_bind_ok_iff.1 hrest
    obtain ⟨u, s₃, t₅, t₆, rfl, hsay, hpure⟩ := runs_bind_ok_iff.1 hsaid
    obtain ⟨rfl, -, rfl⟩ := runs_say_iff.1 hsay
    obtain ⟨rfl, hv, rfl⟩ := runs_pure_iff.1 hpure
    cases hv
    obtain ⟨rfl, hw, rfl⟩ := runs_finish_ok_iff.1 hfinish
    exact ⟨w, t₁, rfl, hfetch, hw⟩
  . rintro ⟨w, t₁, rfl, hfetch, hw⟩
    refine ⟨w, s', t₁, _, rfl, hfetch, ?_⟩
    apply runs_bind_ok_iff.2
    refine ⟨v, s', [], _, rfl, runs_finish_ok_iff.2 ⟨rfl, hw, rfl⟩, ?_⟩
    apply runs_bind_ok_iff.2
    refine ⟨(), s', _, [], rfl, runs_say_iff.2 ⟨rfl, rfl, rfl⟩, ?_⟩
    exact runs_pure_iff.2 ⟨rfl, rfl, rfl⟩

theorem runs_fetch_some_iff {load : Loader key.length} {r : Except OperationError Value}
    (hf : s.cache.find? key = some v) :
    Runs (fetch key load required) s t r s' ↔ t = [] ∧ r = .ok v ∧ s' = s := by
  unfold fetch
  rw [runs_get_bind_iff, hf]
  exact runs_pure_iff

theorem runs_fetch_none_iff {load : Loader key.length} (hf : s.cache.find? key = none) :
    Runs (fetch key load required) s t (.ok v) s' ↔
      Runs (resolve key load required) s t (.ok v) s' := by
  unfold fetch
  rw [runs_get_bind_iff, hf]
  exact runs_within_ok_iff

theorem runs_fetch_error_iff {load : Loader key.length} {e : OperationError}
    (hf : s.cache.find? key = none) :
    Runs (fetch key load required) s t (.error e) s' ↔
      ∃ e', e = .resolution key e' ∧ Runs (resolve key load required) s t (.error e') s' := by
  unfold fetch
  rw [runs_get_bind_iff, hf]
  dsimp only
  rw [runs_within_iff]
  constructor
  . rintro ⟨r, heq, hr⟩
    cases r with
    | ok v => cases heq
    | error e' =>
      cases heq
      exact ⟨e', rfl, hr⟩
  . rintro ⟨e', rfl, hr⟩
    exact ⟨.error e', rfl, hr⟩

/-- An expression is not loaded if it is not fetched, or if what it comes to is not converted. -/
theorem runs_load_error_iff {kind : Option Kind} {e : OperationError} :
    Runs (load key kind required) s t (.error e) s' ↔
      Runs (fetch key (fun k _ => load k) required) s t (.error e) s' ∨
        ∃ w, Runs (fetch key (fun k _ => load k) required) s t (.ok w) s' ∧
          Runs (finish key kind required w) s' [] (.error e) s' := by
  rw [load_eq_loadBy]
  unfold loadBy
  rw [runs_bind_iff]
  constructor
  . rintro (⟨w, s₁, t₁, t₂, rfl, hw, hrest⟩ | ⟨e', heq, he⟩)
    . right
      obtain ⟨v, s₂, t₃, t₄, -, -, hsaid⟩ | ⟨e', heq, hfinish⟩ := runs_bind_iff.1 hrest
      . -- what has been converted is said, which never fails
        obtain ⟨x, s₃, t₅, t₆, -, -, hpure⟩ | ⟨e', -, hsay⟩ := runs_bind_iff.1 hsaid
        . cases (runs_pure_iff.1 hpure).2.1
        . cases (runs_say_iff.1 hsay).2.1
      . cases heq
        obtain ⟨rfl, rfl⟩ := still_of_finish hfinish
        rw [List.append_nil]
        exact ⟨w, hw, hfinish⟩
    . cases heq
      exact Or.inl he
  . rintro (he | ⟨w, hw, hfinish⟩)
    . exact Or.inr ⟨e, rfl, he⟩
    . left
      refine ⟨w, s', t, [], (List.append_nil t).symm, hw, ?_⟩
      exact runs_bind_iff.2 (Or.inr ⟨e, rfl, hfinish⟩)

/-- The load of an expression that is remembered puts nothing else to the outside. -/
theorem runs_load_some_iff (hf : s.cache.find? key = some w) :
    Runs (load key kind required) s t (.ok v) s' ↔
      t = [Event.loaded key v] ∧ w.FinishedAs kind required v ∧ s' = s := by
  rw [runs_load_ok_iff]
  constructor
  . rintro ⟨w', t₁, rfl, hfetch, hv⟩
    obtain ⟨rfl, heq, rfl⟩ := (runs_fetch_some_iff hf).1 hfetch
    cases heq
    exact ⟨rfl, hv, rfl⟩
  . rintro ⟨rfl, hv, rfl⟩
    exact ⟨w, [], rfl, (runs_fetch_some_iff hf).2 ⟨rfl, rfl, rfl⟩, hv⟩

/-- The load of an expression that is remembered does not fail if what is remembered is converted.
-/
theorem runs_load_finished_iff {r : Except OperationError Value} (hf : s.cache.find? key = some w)
    (hv : w.FinishedAs kind required v) :
    Runs (load key kind required) s t r s' ↔
      t = [Event.loaded key v] ∧ r = .ok v ∧ s' = s := by
  rw [load_eq_loadBy]
  unfold loadBy
  rw [runs_bind_of_ok fun _ _ _ => runs_fetch_some_iff hf,
    runs_bind_of_ok fun _ _ _ => runs_finish_iff hv]
  refine runs_put_bind_iff.trans ?_
  constructor
  . rintro ⟨x, u, rfl, hr⟩
    obtain ⟨rfl, rfl, rfl⟩ := runs_pure_iff.1 hr
    exact ⟨rfl, rfl, rfl⟩
  . rintro ⟨rfl, rfl, rfl⟩
    exact ⟨(), [], rfl, runs_pure_iff.2 ⟨rfl, rfl, rfl⟩⟩

theorem load_of_find?_eq_some (hf : s.cache.find? key = some w)
    (hr : Runs (load key kind true) s t (.ok v) s') :
    t = [Event.loaded key v] ∧ w.convertIf kind = .ok v := by
  obtain ⟨rfl, hv, -⟩ := (runs_load_some_iff hf).1 hr
  cases hv with
  | inl hempty => cases hempty.2.1
  | inr hv => exact ⟨rfl, hv.2⟩

theorem runs_remember_iff {e : KeyExpression} {r : Except OperationError Unit} :
    Runs (remember key e v) s t r s' ↔
      t = [] ∧ r = .ok () ∧
        s' = if e.isCacheable then { s with cache := s.cache.memoize key v } else s := by
  unfold remember
  split
  . exact runs_memoize_iff
  . exact runs_pure_iff

/-- What is resolved is what the source gives, transformed, and it is remembered unless a function
has been called for it. -/
theorem runs_resolve_ok_iff {load : Loader key.length} {e : KeyExpression}
    (he : KeyExpression.read? key = some e) :
    Runs (resolve key load required) s t (.ok v) s' ↔
      ∃ w s₁,
        Runs (resolveSource load e (KeyExpression.length_of_read? he) required) s t (.ok w) s₁ ∧
          e.transformed w = .ok v ∧
            s' = if e.isCacheable then { s₁ with cache := s₁.cache.memoize key v } else s₁ := by
  unfold resolve
  split
  . next hnone =>
    rw [he] at hnone
    cases hnone
  . next e' he' =>
    have heq := he'
    rw [he] at heq
    cases heq
    rw [runs_bind_ok_iff]
    constructor
    . rintro ⟨w, s₁, t₁, t₂, rfl, hsource, hrest⟩
      obtain ⟨v', s₂, t₃, t₄, rfl, htransform, hthen⟩ := runs_bind_ok_iff.1 hrest
      obtain ⟨rfl, hv, rfl⟩ := runs_applyTransform_ok_iff.1 htransform
      obtain ⟨x, s₃, t₅, t₆, rfl, hremember, hpure⟩ := runs_bind_ok_iff.1 hthen
      obtain ⟨rfl, heq, rfl⟩ := runs_pure_iff.1 hpure
      cases heq
      obtain ⟨rfl, -, hs⟩ := runs_remember_iff.1 hremember
      refine ⟨w, s₂, ?_, hv, hs⟩
      simp only [List.append_nil]
      exact hsource
    . rintro ⟨w, s₁, hsource, hv, hs⟩
      refine ⟨w, s₁, t, [], (List.append_nil t).symm, hsource, ?_⟩
      apply runs_bind_ok_iff.2
      refine ⟨v, s₁, [], [], rfl, runs_applyTransform_ok_iff.2 ⟨rfl, hv, rfl⟩, ?_⟩
      apply runs_bind_ok_iff.2
      refine ⟨(), s', [], [], rfl, runs_remember_iff.2 ⟨rfl, rfl, hs⟩, ?_⟩
      exact runs_pure_iff.2 ⟨rfl, rfl, rfl⟩

theorem exists_of_runs_resolve_ok {load : Loader key.length}
    (hr : Runs (resolve key load required) s t (.ok v) s') :
    ∃ e, KeyExpression.read? key = some e := by
  unfold resolve at hr
  split at hr
  . cases (runs_throw_iff.1 hr).2.1
  . next e he => exact ⟨e, he⟩

theorem still_of_applyTransform {transform : Option String} {r : Except OperationError Value}
    (hr : Runs (applyTransform transform v) s t r s') : t = [] ∧ s' = s := by
  unfold applyTransform at hr
  split at hr
  . obtain ⟨ht, -, hs⟩ := runs_pure_iff.1 hr
    exact ⟨ht, hs⟩
  . obtain ⟨ht, -, hs⟩ := runs_ofExcept_iff.1 hr
    exact ⟨ht, hs⟩

/-- Where an expression is resolved in vain, nothing comes to be remembered behind its source. -/
theorem runs_resolve_error {load : Loader key.length} {x : OperationError}
    (hr : Runs (resolve key load required) s t (.error x) s') :
    t = [] ∧ s' = s ∨ ∃ e he r, Runs (resolveSource load e he required) s t r s' := by
  unfold resolve at hr
  split at hr
  . obtain ⟨rfl, -, rfl⟩ := runs_throw_iff.1 hr
    exact .inl ⟨rfl, rfl⟩
  . next e he =>
    right
    obtain ⟨v, s₁, t₁, t₂, rfl, hsource, hrest⟩ | ⟨_, -, hsource⟩ := runs_bind_iff.1 hr
    . obtain ⟨w, s₂, t₃, t₄, rfl, -, hthen⟩ | ⟨_, -, htransform⟩ := runs_bind_iff.1 hrest
      . obtain ⟨_, s₃, t₅, t₆, -, -, hpure⟩ | ⟨_, -, hremember⟩ := runs_bind_iff.1 hthen
        . cases (runs_pure_iff.1 hpure).2.1
        . cases (runs_remember_iff.1 hremember).2.1
      . obtain ⟨rfl, rfl⟩ := still_of_applyTransform htransform
        rw [List.append_nil]
        exact ⟨e, _, _, hsource⟩
    . exact ⟨e, _, _, hsource⟩

theorem resolveSource_func {bound : Nat} (load : Loader bound)
    (h : KeySource.func.marker.length + payload.length ≤ bound) (hp : payload.length ≤ bound) :
    resolveSource load ⟨.func, payload, none⟩ h required = resolveBuiltin load payload hp := by
  unfold resolveSource
  rfl

theorem resolveSource_call {bound : Nat} (load : Loader bound)
    (h : KeySource.call.marker.length + payload.length ≤ bound) :
    resolveSource load ⟨.call, payload, none⟩ h required = resolveCall load payload h := by
  unfold resolveSource
  rfl

theorem resolveBuiltin_eq {bound : Nat} {c : BuiltinCall} (hp : payload.length ≤ bound)
    (hc : BuiltinCall.read payload = .ok c) :
    resolveBuiltin (fun k _ => load k : Loader bound) payload hp = c.run := by
  unfold resolveBuiltin BuiltinCall.run
  split
  . next e he =>
    rw [hc] at he
    cases he
  . next c' hc' =>
    rw [hc] at hc'
    cases hc'
    -- the parts are looked up with a proof that they are shorter, which plays no role here
    congr
    funext name
    unfold BuiltinCall.arguments
    split <;> simp_all

theorem resolve_func {c : BuiltinCall}
    (he : KeyExpression.read? key = some ⟨.func, payload, none⟩)
    (hc : BuiltinCall.read payload = .ok c) :
    resolve key (fun k _ => load k) required = c.run := by
  have hp : payload.length ≤ key.length :=
    Nat.le_trans (Nat.le_add_left _ _) (KeyExpression.length_of_read? he)
  unfold resolve
  split
  . next hnone =>
    rw [he] at hnone
    cases hnone
  . next e' he' =>
    have heq := he'
    rw [he] at heq
    cases heq
    rw [resolveSource_func _ _ hp, resolveBuiltin_eq hp hc]
    simp [applyTransform, remember, KeyExpression.isCacheable]

theorem runs_load_func_ok_iff {c : BuiltinCall} (hf : s.cache.find? key = none)
    (he : KeyExpression.read? key = some ⟨.func, payload, none⟩)
    (hc : BuiltinCall.read payload = .ok c) :
    Runs (load key kind required) s t (.ok v) s' ↔
      ∃ w t₁, t = t₁ ++ [Event.loaded key v] ∧ Runs c.run s t₁ (.ok w) s' ∧
        w.FinishedAs kind required v := by
  simp only [runs_load_ok_iff, runs_fetch_none_iff hf, resolve_func he hc]

/-- What a call makes is loaded as it is if it is not empty, and its errors are told by the
expression. -/
theorem runs_load_func_error_iff {c : BuiltinCall} {e : OperationError}
    (hf : s.cache.find? key = none)
    (he : KeyExpression.read? key = some ⟨.func, payload, none⟩)
    (hc : BuiltinCall.read payload = .ok c)
    (hne : ∀ w, Runs c.run s t (.ok w) s' → ¬ w.isEmpty) :
    Runs (load key none required) s t (.error e) s' ↔
      ∃ e', e = .resolution key e' ∧ Runs c.run s t (.error e') s' := by
  simp only [runs_load_error_iff, runs_fetch_none_iff hf, runs_fetch_error_iff hf,
    resolve_func he hc]
  constructor
  . rintro (h | ⟨w, hw, hfinish⟩)
    . exact h
    . unfold finish at hfinish
      rw [if_neg (hne w hw)] at hfinish
      cases (runs_pure_iff.1 hfinish).2.1
  . exact Or.inl

theorem runs_readMethod_ok_iff {α : Type} {load : α → Option Kind → Engine Value} {role : Role}
    {c : Contract} {name : String} {as : List α} :
    Runs (readMethod load role c name as) s t (.ok v) s' ↔
      ∃ m ws output u, c.method name (some as.length) = .ok m ∧ Encoded load m.inputs as s u ws s' ∧
        firstOutput m output = .ok v ∧
        t = u ++ [⟨.request (some role) (.call c.address (m.selector ++ Abi.encode ws)),
          .ok output⟩] := by
  unfold readMethod
  constructor
  . intro hr
    obtain ⟨m, s₂, t₁, t₂, rfl, hmethod, hrest⟩ := runs_bind_ok_iff.1 hr
    obtain ⟨rfl, hm, rfl⟩ := runs_ofExcept_ok_iff.1 hmethod
    obtain ⟨data, s₃, u, t₃, rfl, hdata, hread⟩ := runs_bind_ok_iff.1 hrest
    obtain ⟨x, t₄, rfl, hanswer⟩ := runs_askAbout_bind_iff.1 hread
    obtain ⟨output, s₄, t₅, t₆, rfl, hx, houtput⟩ := runs_bind_ok_iff.1 hanswer
    obtain ⟨rfl, rfl, rfl⟩ := runs_ofExcept_ok_iff.1 hx
    obtain ⟨rfl, ho, rfl⟩ := runs_ofExcept_ok_iff.1 houtput
    obtain ⟨ws, hw, hdata⟩ := (runs_calldata_ok_iff (Contract.method_some_eq_ok hm).2).1 hdata
    rw [hdata]
    exact ⟨m, ws, output, u, hm, hw, ho, rfl⟩
  . rintro ⟨m, ws, output, u, hm, hw, ho, rfl⟩
    have hdata := (runs_calldata_ok_iff (Contract.method_some_eq_ok hm).2).2 ⟨ws, hw, rfl⟩
    refine runs_bind_ok_iff.2 ⟨m, s, [], _, rfl, runs_ofExcept_ok_iff.2 ⟨rfl, hm, rfl⟩, ?_⟩
    refine runs_bind_ok_iff.2 ⟨_, s', u, _, rfl, hdata, ?_⟩
    refine runs_askAbout_bind_iff.2 ⟨.ok output, [], rfl, ?_⟩
    refine runs_bind_ok_iff.2 ⟨output, s', [], [], rfl, runs_ofExcept_ok_iff.2 ⟨rfl, rfl, rfl⟩, ?_⟩
    exact runs_ofExcept_ok_iff.2 ⟨rfl, ho, rfl⟩

theorem Encoded.moves {h : Trace} {ps : List Param} {as : List String} {ws : List AbiValue}
    (hw : Encoded loadParameter ps as s t ws s') : Moves .reading h s t s' := by
  induction hw generalizing h with
  | nil => exact .refl
  | cons hp hv hw hs ih =>
    have hload : Moves .reading h _ _ _ := load_follows_reading _ _ _ _ _ _ _ _ hv
    exact hload.trans ih

/-- The reading of a method for a call: the contract is bound, the arguments are loaded and encoded
one after the other, and the first of what the method returns is the value. -/
structure Reading (payload : String) (s : Session) (t : Trace) (v : Value) where
  role : Role
  contract : Contract
  name : String
  method : Method
  values : List AbiValue
  output : Bytes
  /-- The session in which the contract is bound, and the one in which the method is read. -/
  bound : Session
  encoded : Session
  /-- What is put to the outside to bind the contract, and to load the arguments. -/
  binding : Trace
  loading : Trace
  binding_steps : Steps .reading [] s binding bound
  bound_eq : bound.bound? role = some contract
  method_eq : contract.method name (some (Invocation.read payload).arguments.length) = .ok method
  values_encoded : Encoded loadParameter method.inputs (Invocation.read payload).arguments bound
    loading values encoded
  output_eq : firstOutput method output = .ok v
  trace_eq : t = binding ++ (loading ++
    [⟨.request (some role) (.call contract.address (method.selector ++ Abi.encode values)),
      .ok output⟩])

theorem reading_of_readMethod {role : Role} {c : Contract} {name : String} {s₁ : Session}
    {t₁ t₂ : Trace} (ht : (Invocation.read payload).target = (role, name))
    (hb : Steps .reading [] s t₁ s₁) (hc : s₁.bound? role = some c)
    (hr : Runs (readMethod (fun a => loadParameter a.1) role c name
      (Invocation.read payload).arguments.attach) s₁ t₂ (.ok v) s') :
    ∃ r : Reading payload s (t₁ ++ t₂) v,
      r.encoded = s' ∧ (Invocation.read payload).target = (r.role, r.name) := by
  obtain ⟨m, ws, output, u, hm, hw, ho, rfl⟩ := runs_readMethod_ok_iff.1 hr
  rw [List.length_attach] at hm
  have hw : Encoded loadParameter m.inputs
      ((Invocation.read payload).arguments.attach.map Subtype.val) s₁ u ws s' := hw.map
  rw [List.attach_map_subtype_val] at hw
  exact ⟨⟨role, c, name, m, ws, output, s₁, s', t₁, u, hb, hc, hm, hw, ho, rfl⟩, rfl, ht⟩

theorem reading_of_resolveCall {bound : Nat}
    (hp : KeySource.call.marker.length + payload.length ≤ bound)
    (hr : Runs (resolveCall (fun k _ => load k : Loader bound) payload hp) s t (.ok v) s') :
    ∃ r : Reading payload s t v,
      r.encoded = s' ∧ (Invocation.read payload).target = (r.role, r.name) := by
  unfold resolveCall at hr
  dsimp only at hr
  split at hr
  . next delegate method hs =>
    obtain ⟨hcallee, hdelegate⟩ := Operation.splitCallee?_eq_some hs
    obtain ⟨c, s₁, t₁, t₂, rfl, hc, hr⟩ := runs_bind_ok_iff.1 hr
    obtain ⟨hmoves, hbound⟩ := bindDelegate_moves (l := .reading) (h := []) trivial
      (load_follows _ _ _) (Permit.ofKey_le_reading _) (not_binds_getterKey hdelegate)
      (fun s t v s' hv => loaded_mem_of_runs_load hv) hc
    exact reading_of_readMethod (Invocation.target_of_some hs) hmoves.steps (hbound c rfl) hr
  . next hs =>
    obtain ⟨c, s₁, t₁, t₂, rfl, hc, hr⟩ := runs_bind_ok_iff.1 hr
    obtain ⟨hmoves, hbound⟩ := bindPrimary_moves (l := .reading) (h := []) trivial hc
    exact reading_of_readMethod (Invocation.target_of_none hs) hmoves.steps (hbound c rfl) hr

theorem load_of_call (hf : s.cache.find? key = none)
    (he : KeyExpression.read? key = some ⟨.call, payload, none⟩)
    (hr : Runs (load key none true) s t (.ok v) s') :
    ∃ t₁, t = t₁ ++ [Event.loaded key v] ∧ Nonempty (Reading payload s t₁ v) := by
  obtain ⟨w, t₁, rfl, hfetch, hv⟩ := runs_load_ok_iff.1 hr
  have hresolve := (runs_fetch_none_iff hf).1 hfetch
  obtain ⟨u, s₁, hsource, hu, -⟩ := (runs_resolve_ok_iff he).1 hresolve
  cases hu
  rw [resolveSource_call] at hsource
  cases hv with
  | inl hempty => cases hempty.2.1
  | inr hv =>
    cases hv.2
    obtain ⟨r, -⟩ := reading_of_resolveCall _ hsource
    exact ⟨t₁, rfl, ⟨r⟩⟩

end Session

end Registrar
