import Registrar.Proofs.Execution
import Registrar.Proofs.Part

/-!
This module contains why loading comes to an end. An expression is loaded by loading its parts,
which have to be shorter, so that loads stand in one another no deeper than the expression is long.
The getter of a delegate is a part too: the name in it has no point, and neither has any part of it,
so that no delegate is bound while the address of one is looked for.
-/

namespace Registrar

section Partner

variable {Req : Type} {Ans : Req → Type} {α : Type}

/-- A partner who answers with a view to everything that has been put to him before. -/
abbrev Interaction.Partner (Req : Type) (Ans : Req → Type) : Type :=
  List ((r : Req) × Ans r) → (r : Req) → Ans r

/-- Behind the history `h`, everything is answered by the partner. -/
def Interaction.AnsweredBy (partner : Partner Req Ans) (h t : List ((r : Req) × Ans r)) : Prop :=
  ∀ before e after, t = before ++ e :: after → e.2 = partner (h ++ before) e.1

theorem Interaction.exists_run (x : Interaction Req Ans α) (partner : Partner Req Ans)
    (h : List ((r : Req) × Ans r)) : ∃ t a, Run x t a ∧ AnsweredBy partner h t := by
  induction x generalizing h with
  | done a =>
    refine ⟨[], a, Run.done a, ?_⟩
    intro before e after heq
    simp at heq
  | ask r resume ih =>
    obtain ⟨t, a, hrun, hanswered⟩ := ih (partner h r) (h ++ [⟨r, partner h r⟩])
    refine ⟨_, a, Run.ask (partner h r) hrun, ?_⟩
    intro before e after heq
    cases before with
    | nil =>
      cases heq
      rw [List.append_nil]
    | cons e' before =>
      cases heq
      rw [hanswered before e after rfl, List.append_assoc]
      rfl

end Partner

/-- The expressions that are loaded for an expression by what it calls. -/
inductive KeyExpression.Part (e : KeyExpression) : String → Prop where
  | argument {key : String} (hs : e.source = .call)
      (hk : key ∈ (Invocation.read e.payload).arguments) : Part e key
  | getter {delegate method : String} (hs : e.source = .call)
      (hd : Operation.splitCallee? (Invocation.read e.payload).callee = some (delegate, method)) :
      Part e (Session.getterKey delegate)
  | parameter {name key : String} {c : BuiltinCall} (hs : e.source = .func)
      (hc : BuiltinCall.read e.payload = .ok c) (hp : c.parameter name = some key) : Part e key

namespace KeyExpression

variable {e : KeyExpression} {key part : String}

theorem Part.not_mem (hp : e.Part part) (he : read? key = some e) (h : '.' ∉ key.toList) :
    '.' ∉ part.toList := by
  have hpayload : '.' ∉ e.payload.toList := fun hmem => h (payload_subset he hmem)
  cases hp with
  | argument hs hk => exact fun hmem => hpayload (Invocation.subset_of_mem_arguments hk hmem)
  | getter hs hd => exact Session.not_mem_getterKey (Operation.splitCallee?_eq_some hd).2
  | parameter hs hc hp => exact fun hmem => hpayload (BuiltinCall.parameter_subset hc hp hmem)

end KeyExpression

namespace Session

variable {key : String}

section Parts

variable {bound : Nat} {l₁ l₂ : Loader bound} {e : KeyExpression}

theorem resolveCall_congr (hl : ∀ k hk, e.Part k → l₁ k hk = l₂ k hk) (hs : e.source = .call)
    (h : KeySource.call.marker.length + e.payload.length ≤ bound) :
    resolveCall l₁ e.payload h = resolveCall l₂ e.payload h := by
  have hargument (a : { a // a ∈ (Invocation.read e.payload).arguments })
      (ha : a.1.length < bound) : l₁ a.1 ha = l₂ a.1 ha := hl a.1 ha (.argument hs a.2)
  unfold resolveCall
  simp only [hargument]
  split
  . next delegate method hd =>
    rw [hl (getterKey delegate) _ (.getter hs hd)]
  . rfl

theorem resolveBuiltin_congr (hl : ∀ k hk, e.Part k → l₁ k hk = l₂ k hk) (hs : e.source = .func)
    (h : e.payload.length ≤ bound) :
    resolveBuiltin l₁ e.payload h = resolveBuiltin l₂ e.payload h := by
  unfold resolveBuiltin
  split
  . rfl
  . next c hc =>
    congr
    funext name
    split
    . rfl
    . next key hp => rw [hl key _ (.parameter hs hc hp)]

theorem resolveSource_congr (hl : ∀ k hk, e.Part k → l₁ k hk = l₂ k hk)
    (h : e.source.marker.length + e.payload.length ≤ bound) (required : Bool) :
    resolveSource l₁ e h required = resolveSource l₂ e h required := by
  unfold resolveSource
  split
  . next hs => exact resolveCall_congr hl hs _
  . rfl
  . rfl
  . next hs => exact resolveBuiltin_congr hl hs _
  . rfl
  . rfl

end Parts

/-- Loading an expression depends on how its parts are loaded, and on no other load. -/
theorem loadBy_congr {l₁ l₂ : Loader key.length}
    (hl : ∀ e, KeyExpression.read? key = some e → ∀ k hk, e.Part k → l₁ k hk = l₂ k hk) :
    loadBy key l₁ = loadBy key l₂ := by
  have hresolve (required : Bool) : resolve key l₁ required = resolve key l₂ required := by
    unfold resolve
    split
    . rfl
    . next e he => rw [resolveSource_congr (hl e he)]
  funext kind required
  unfold loadBy fetch
  rw [hresolve]

/-- How expressions are loaded if `beyond` takes the place of the loads that stand in `depth` others
and of the loads of the expressions that `stops` tells. -/
def loadTo (stops : String → Bool) (beyond : String → Option Kind → Bool → Engine Value) :
    Nat → String → Option Kind → Bool → Engine Value
  | 0, key => beyond key
  | depth + 1, key =>
    if stops key then beyond key else loadBy key fun k _ => loadTo stops beyond depth k

/-- What takes the place of other loads is never come to, if expressions that none of these are for
have only such parts. -/
theorem loadTo_eq_load {stops : String → Bool} {P : String → Prop} (hstops : ∀ k, P k → ¬ stops k)
    (hparts : ∀ k e p, P k → KeyExpression.read? k = some e → e.Part p → P p)
    (beyond : String → Option Kind → Bool → Engine Value) {depth : Nat} (hk : P key)
    (h : key.length < depth) : loadTo stops beyond depth key = load key := by
  induction depth generalizing key with
  | zero => exact absurd h (Nat.not_lt_zero _)
  | succ depth ih =>
    rw [loadTo, if_neg (hstops key hk), load_eq_loadBy]
    apply loadBy_congr
    intro e he k hlt hp
    apply ih
    . exact hparts key e k hk he hp
    . omega

/-- Whether resolving an expression binds a delegate. -/
def bindsDelegate (key : String) : Bool :=
  match KeyExpression.read? key with
  | none => false
  | some e =>
    e.source = .call && (Operation.splitCallee? (Invocation.read e.payload).callee).isSome

theorem not_bindsDelegate (h : '.' ∉ key.toList) : ¬ bindsDelegate key := by
  unfold bindsDelegate
  split
  . exact Bool.false_ne_true
  . next e he =>
    intro hbinds
    rw [Bool.and_eq_true] at hbinds
    obtain ⟨⟨delegate, method⟩, hd⟩ := Option.isSome_iff_exists.1 hbinds.2
    have hpoint : '.' ∈ (Invocation.read e.payload).callee.toList :=
      (Operation.splitCallee?_eq_some hd).1
    exact h (KeyExpression.payload_subset he (Invocation.callee_subset e.payload hpoint))

/-- Loading ends, whoever answers; loads stand in one another no deeper than the expression is long;
and the getter of a delegate that is named before a point is loaded without any delegate being
bound. -/
theorem load_ends (key : String) (kind : Option Kind) (required : Bool) :
    (∀ (partner : Interaction.Partner Query Query.Reply) (h : Trace) (s : Session), ∃ t r s',
      Engine.Runs (load key kind required) s t r s' ∧ Interaction.AnsweredBy partner h t) ∧
    (∀ beyond depth, key.length < depth →
      loadTo (fun _ => false) beyond depth key kind required = load key kind required) ∧
    ∀ callee delegate method, Operation.splitCallee? callee = some (delegate, method) →
      ∀ beyond depth, (getterKey delegate).length < depth →
        loadTo bindsDelegate beyond depth (getterKey delegate) kind required =
          load (getterKey delegate) kind required := by
  refine ⟨?_, ?_, ?_⟩
  . intro partner h s
    obtain ⟨t, ⟨r, s'⟩, hrun, hanswered⟩ :=
      Interaction.exists_run ((ExceptT.run (load key kind required)).run s) partner h
    exact ⟨t, r, s', hrun, hanswered⟩
  . intro beyond depth hdepth
    have heq : loadTo (fun _ => false) beyond depth key = load key := by
      apply loadTo_eq_load (P := fun _ => True) _ _ beyond trivial hdepth
      . exact fun _ _ => Bool.false_ne_true
      . exact fun _ _ _ _ _ _ => trivial
    rw [heq]
  . intro callee delegate method hd beyond depth hdepth
    have hpoint : '.' ∉ (getterKey delegate).toList :=
      not_mem_getterKey (Operation.splitCallee?_eq_some hd).2
    have heq : loadTo bindsDelegate beyond depth (getterKey delegate) =
        load (getterKey delegate) := by
      apply loadTo_eq_load (P := fun k => '.' ∉ k.toList) _ _ beyond hpoint hdepth
      . exact fun k => not_bindsDelegate
      . exact fun k e p hk he hp => hp.not_mem he hk
    rw [heq]

/-- A call of a delegate is loaded within as many loads as it has characters, and one more; the
getter of the delegate is loaded without a delegate being bound, although loading the call itself
binds one. -/
theorem load_ends_delegating :
    loadTo (fun _ => false) (fun _ _ _ => throw (.notSupported "")) 22 "call:d.m(call:d.m(x))" none
        true = load "call:d.m(call:d.m(x))" none true ∧
      bindsDelegate "call:d.m(call:d.m(x))" ∧
      loadTo bindsDelegate (fun _ _ _ => throw (.notSupported "")) 7 (getterKey "d") none true =
        load (getterKey "d") none true := by
  obtain ⟨-, hdepth, hgetter⟩ := load_ends "call:d.m(call:d.m(x))" none true
  refine ⟨?_, ?_, ?_⟩
  . exact hdepth _ 22 (by decide)
  . decide +kernel
  . exact hgetter "d.m" "d" "m" (by decide +kernel) _ 7 (by decide)

end Session

end Registrar
