import Registrar.Proofs.Destination
import Registrar.Proofs.Execution
import Registrar.Proofs.Validation

/-!
This module contains what can go wrong in a session with a well-formed specification. Whatever is
done and whatever is answered, no error has a fault of the specification among its causes, and none
is that a delegate is unknown, unless an expression names the delegate.
-/

namespace Registrar

namespace OperationError

/-- An error and the errors that it wraps, from the outside in. -/
def causes : OperationError → List OperationError
  | .resolution k source => .resolution k source :: causes source
  | .parameterMapping method i source => .parameterMapping method i source :: causes source
  | .delegateResolution delegate source => .delegateResolution delegate source :: causes source
  | e => [e]

/-- The specification is not to blame for an error. -/
def SparesSpec (e : OperationError) : Prop :=
  ∀ fault, .spec fault ∉ e.causes

structure Settled (e : OperationError) : Prop where
  sparesSpec : e.SparesSpec
  known : ∀ name, e ≠ .unknownDelegate name

variable {e : OperationError}

theorem sparesSpec_of_leaf (h : e.causes = [e]) (hs : ∀ fault, e ≠ .spec fault) : e.SparesSpec := by
  intro fault hmem
  rw [h, List.mem_singleton] at hmem
  exact hs fault hmem.symm

theorem settled_of_leaf (h : e.causes = [e]) (hs : ∀ fault, e ≠ .spec fault)
    (hu : ∀ name, e ≠ .unknownDelegate name) : e.Settled :=
  ⟨sparesSpec_of_leaf h hs, hu⟩

theorem settled_of_wrap {source : OperationError} (h : source.SparesSpec)
    (hc : e.causes = e :: source.causes) (hs : ∀ fault, e ≠ .spec fault)
    (hu : ∀ name, e ≠ .unknownDelegate name) : e.Settled := by
  refine ⟨?_, hu⟩
  intro fault hmem
  rw [hc, List.mem_cons] at hmem
  exact h fault (hmem.resolve_left (hs fault).symm)

end OperationError

namespace Engine

variable {α β : Type} {spec : Specification} {P Q : OperationError → Prop} {x : Engine α}
  {f : α → Engine β}

/-- In a session with the specification, whatever is answered, the computation keeps the
specification, and the errors that it fails with are of a certain kind. -/
def FailsWith (spec : Specification) (P : OperationError → Prop) (x : Engine α) : Prop :=
  ∀ (s : Session) (t : Trace) (r : Except OperationError α) (s' : Session), s.spec = spec →
    Runs x s t r s' → s'.spec = spec ∧ ∀ e, r = .error e → P e

theorem FailsWith.mono (hx : FailsWith spec P x) (hPQ : ∀ e, P e → Q e) : FailsWith spec Q x := by
  intro s t r s' hs hr
  obtain ⟨hspec, he⟩ := hx s t r s' hs hr
  exact ⟨hspec, fun e heq => hPQ e (he e heq)⟩

theorem failsWith_pure (a : α) : FailsWith spec P (pure a : Engine α) := by
  intro s t r s' hs hr
  obtain ⟨-, rfl, rfl⟩ := runs_pure_iff.1 hr
  exact ⟨hs, nofun⟩

theorem failsWith_throw {e : OperationError} (he : P e) :
    FailsWith spec P (throw e : Engine α) := by
  intro s t r s' hs hr
  obtain ⟨-, rfl, rfl⟩ := runs_throw_iff.1 hr
  refine ⟨hs, ?_⟩
  rintro _ ⟨⟩
  exact he

theorem failsWith_bind (hx : FailsWith spec P x) (hf : ∀ a, FailsWith spec P (f a)) :
    FailsWith spec P (x >>= f) := by
  intro s t r s' hs hr
  rw [runs_bind_iff] at hr
  cases hr with
  | inl hr =>
    obtain ⟨a, s₁, t₁, t₂, -, h₁, h₂⟩ := hr
    exact hf a _ _ _ _ (hx _ _ _ _ hs h₁).1 h₂
  | inr hr =>
    obtain ⟨e, rfl, h₁⟩ := hr
    obtain ⟨hspec, he⟩ := hx _ _ _ _ hs h₁
    refine ⟨hspec, ?_⟩
    rintro _ ⟨⟩
    exact he e rfl

theorem failsWith_ofExcept {ε : Type} {wrap : ε → OperationError} {y : Except ε α}
    (hy : ∀ e, y = .error e → P (wrap e)) : FailsWith spec P (ofExcept wrap y) := by
  cases y with
  | ok a => apply failsWith_pure
  | error e => exact failsWith_throw (hy e rfl)

theorem failsWith_within {wrap : OperationError → OperationError} (hx : FailsWith spec Q x)
    (hw : ∀ e, Q e → P (wrap e)) : FailsWith spec P (within wrap x) := by
  intro s t r s' hs hr
  obtain ⟨r₀, rfl, h₀⟩ := runs_within_iff.1 hr
  obtain ⟨hspec, he⟩ := hx _ _ _ _ hs h₀
  refine ⟨hspec, ?_⟩
  intro e heq
  cases r₀ with
  | ok a => cases heq
  | error e₀ =>
    cases heq
    exact hw e₀ (he e₀ rfl)

theorem failsWith_put (q : Query) : FailsWith spec P (put q) := by
  intro s t r s' hs hr
  obtain ⟨y, -, rfl, rfl⟩ := runs_put_iff.1 hr
  exact ⟨hs, nofun⟩

theorem failsWith_modify {g : Session → Session} (hg : ∀ s, (g s).spec = s.spec) :
    FailsWith spec P (modify g : Engine Unit) := by
  intro s t r s' hs hr
  obtain ⟨-, rfl, rfl⟩ := runs_modify_iff.1 hr
  exact ⟨(hg s).trans hs, nofun⟩

theorem failsWith_get_bind {f : Session → Engine β}
    (hf : ∀ s, s.spec = spec → FailsWith spec P (f s)) : FailsWith spec P (get >>= f) := by
  intro s t r s' hs hr
  exact hf s hs _ _ _ _ hs (runs_get_bind_iff.1 hr)

theorem failsWith_ask (r : Request) : FailsWith spec P (ask r) :=
  failsWith_put (.request none r)

theorem failsWith_askAbout (role : Role) (r : Request) : FailsWith spec P (askAbout role r) :=
  failsWith_put (.request (some role) r)

theorem failsWith_say (m : Remark) : FailsWith spec P (say m) :=
  failsWith_put (.remark m)

theorem failsWith_ofExcept_bind {ε : Type} {wrap : ε → OperationError} {y : Except ε α}
    (hy : ∀ e, P (wrap e)) (hf : ∀ a, FailsWith spec P (f a)) :
    FailsWith spec P (ofExcept wrap y >>= f) := by
  apply failsWith_bind
  . apply failsWith_ofExcept
    intro e _
    apply hy
  . exact hf

def failure? : Except OperationError α → Option OperationError
  | .ok _ => none
  | .error e => some e

theorem runs_of_failure?_eq_some {answer : (q : Query) → q.Reply} {s : Session} {e : OperationError}
    (h : failure? (transcript answer x s).2.1 = some e) :
    Runs x s (transcript answer x s).1 (.error e) (transcript answer x s).2.2 := by
  have hr := runs_transcript answer x s
  cases hx : (transcript answer x s).2.1 with
  | ok a =>
    rw [hx] at h
    cases h
  | error e' =>
    rw [hx] at h hr
    cases h
    exact hr

end Engine

namespace Builtin

open Engine
open OperationError (Settled SparesSpec sparesSpec_of_leaf settled_of_leaf settled_of_wrap)

variable {α : Type} {spec : Specification} {args : Arguments}

theorem settled_of_isOwnFailure {e : OperationError} (he : isOwnFailure e) : e.Settled := by
  cases e with
  | key source => exact settled_of_leaf rfl nofun nofun
  | chain source => exact settled_of_leaf rfl nofun nofun
  | signer source => exact settled_of_leaf rfl nofun nofun
  | _ => cases he

theorem Composed.failsWith {x : Engine α} (hx : Composed args x)
    (ha : ∀ name load, args name = some load → ∀ kind required,
      FailsWith spec Settled (load kind required)) : FailsWith spec Settled x := by
  induction hx with
  | pure a => apply failsWith_pure
  | throw e he => exact failsWith_throw (settled_of_isOwnFailure he)
  | ask r hr => apply failsWith_put
  | expiryAfter timeout =>
    intro s t r s' hs hr
    obtain ⟨e, -, rfl, rfl⟩ | ⟨time, v, rfl, -, rfl, rfl⟩ := runs_expiryAfter_iff.1 hr
    . refine ⟨hs, ?_⟩
      rintro _ ⟨⟩
      exact settled_of_isOwnFailure rfl
    . exact ⟨hs, nofun⟩
  | saltFrom seed =>
    intro s t r s' hs hr
    obtain ⟨time, v, rfl, -, rfl, rfl⟩ := runs_saltFrom_iff.1 hr
    exact ⟨hs, nofun⟩
  | load h kind required => exact ha _ _ h kind required
  | bind _ _ ihx ihf => exact failsWith_bind ihx ihf

end Builtin

namespace Session

open Engine
open OperationError (Settled SparesSpec sparesSpec_of_leaf settled_of_leaf settled_of_wrap)

variable {α : Type} {spec : Specification}

theorem interface_failsWith (resource : String) : FailsWith spec Settled (interface resource) := by
  unfold interface
  apply failsWith_get_bind
  intro s _
  split
  . apply failsWith_pure
  . apply failsWith_get_bind
    intro s _
    apply failsWith_bind
    . apply failsWith_ask
    . intro document
      apply failsWith_ofExcept_bind
      . intro e
        exact settled_of_leaf rfl nofun nofun
      . intro text
        apply failsWith_ofExcept_bind
        . intro e
          exact settled_of_leaf rfl nofun nofun
        . intro i
          apply failsWith_bind
          . apply failsWith_modify
            intro s
            rfl
          . intro _
            apply failsWith_pure

theorem bind_failsWith (role : Role) (name : String) (a : Address) (i : Interface) :
    FailsWith spec Settled (bind role name a i) := by
  unfold bind
  apply failsWith_bind
  . apply failsWith_askAbout
  . intro answer
    apply failsWith_ofExcept_bind
    . intro e
      exact settled_of_leaf rfl nofun nofun
    . intro hasCode
      split
      . apply failsWith_pure
      . apply failsWith_throw
        exact settled_of_leaf rfl nofun nofun

theorem establish_failsWith {role : Role} {name abi : String} {a : Address}
    {enter : Contract → Session → Session} (he : ∀ c s, (enter c s).spec = s.spec) :
    FailsWith spec Settled (do
      let i ← interface abi
      let c ← bind role name a i
      modify (enter c)
      return c) := by
  apply failsWith_bind
  . apply interface_failsWith
  . intro i
    apply failsWith_bind
    . apply bind_failsWith
    . intro c
      apply failsWith_bind
      . apply failsWith_modify
        exact he c
      . intro _
        apply failsWith_pure

theorem bindPrimary_failsWith (hspec : spec.WellFormed) : FailsWith spec Settled bindPrimary := by
  obtain ⟨a, ha⟩ := hspec.address
  unfold bindPrimary
  apply failsWith_get_bind
  intro s _
  split
  . apply failsWith_pure
  . apply failsWith_get_bind
    intro s hs
    apply failsWith_bind
    . apply failsWith_ofExcept
      intro fault hfault
      rw [hs, ha] at hfault
      cases hfault
    . intro address
      apply establish_failsWith
      intro c s
      rfl

theorem delegateAddress_failsWith {d : Delegate} {getter : Engine Value} (hd : d.WellFormed)
    (hg : FailsWith spec Settled getter) :
    FailsWith spec SparesSpec (delegateAddress d getter) := by
  unfold delegateAddress
  split
  . next text htext =>
    obtain ⟨a, ha⟩ := hd.address text htext
    apply failsWith_ofExcept
    intro fault hfault
    rw [ha] at hfault
    cases hfault
  . apply FailsWith.mono _ fun e => Settled.sparesSpec
    apply failsWith_bind hg
    intro v
    split
    . apply failsWith_pure
    . apply failsWith_throw
      exact settled_of_leaf rfl nofun nofun

theorem bindDelegate_failsWith {P : OperationError → Prop} {name : String} {getter : Engine Value}
    (hspec : spec.WellFormed) (hP : ∀ e, e.Settled → P e)
    (hunknown : spec.delegate? name = none → P (.unknownDelegate name))
    (hg : FailsWith spec Settled getter) : FailsWith spec P (bindDelegate name getter) := by
  unfold bindDelegate
  apply failsWith_get_bind
  intro s _
  split
  . apply failsWith_pure
  . apply failsWith_get_bind
    intro s hs
    split
    . next hnone =>
      apply failsWith_throw
      apply hunknown
      rw [← hs, hnone]
    . next d hd =>
      rw [hs] at hd
      apply FailsWith.mono _ hP
      apply failsWith_bind
      . apply failsWith_within
        . exact delegateAddress_failsWith (hspec.delegates d (List.mem_of_find?_eq_some hd)) hg
        . intro e he
          exact settled_of_wrap he rfl nofun nofun
      . intro address
        apply establish_failsWith
        intro c s
        rfl

section Arguments

variable {load : α → Option Kind → Engine Value}

theorem argument_failsWith (hl : ∀ a kind, FailsWith spec Settled (load a kind)) (p : Param)
    (a : α) : FailsWith spec Settled (argument load p a) := by
  unfold argument
  split
  . apply failsWith_throw
    exact settled_of_leaf rfl nofun nofun
  . apply failsWith_bind
    . apply hl
    . intro v
      apply failsWith_ofExcept
      intro e _
      exact settled_of_leaf rfl nofun nofun

theorem arguments_failsWith (hl : ∀ a kind, FailsWith spec Settled (load a kind)) (method : String)
    (position : Nat) (ps : List Param) (as : List α) :
    FailsWith spec Settled (arguments load method position ps as) := by
  induction ps generalizing position as with
  | nil =>
    unfold arguments
    apply failsWith_pure
  | cons p ps ih =>
    cases as with
    | nil =>
      unfold arguments
      apply failsWith_pure
    | cons a as =>
      unfold arguments
      apply failsWith_bind
      . apply failsWith_within
        . exact argument_failsWith hl p a
        . intro e he
          apply settled_of_wrap he.sparesSpec rfl
          . intro fault heq
            cases heq
          . intro name heq
            cases heq
      . intro v
        apply failsWith_bind
        . apply ih
        . intro vs
          apply failsWith_pure

theorem calldata_failsWith (hl : ∀ a kind, FailsWith spec Settled (load a kind)) (m : Method)
    (as : List α) : FailsWith spec Settled (calldata load m as) := by
  unfold calldata
  split
  . apply failsWith_bind
    . exact arguments_failsWith hl _ _ _ _
    . intro values
      apply failsWith_pure
  . apply failsWith_throw
    exact settled_of_leaf rfl nofun nofun

theorem settled_of_method {c : Contract} {name : String} {arity : Option Nat} {e : OperationError}
    (he : c.method name arity = .error e) : e.Settled := by
  unfold Contract.method at he
  split at he
  . cases he
    exact settled_of_leaf rfl nofun nofun
  . split at he
    . cases he
    . split at he
      . cases he
      . cases he
        exact settled_of_leaf rfl nofun nofun

theorem settled_of_firstOutput {m : Method} {output : Bytes} {e : OperationError}
    (he : firstOutput m output = .error e) : e.Settled := by
  unfold firstOutput at he
  split at he
  . cases he
    exact settled_of_leaf rfl nofun nofun
  . split at he
    . cases he
      exact settled_of_leaf rfl nofun nofun
    . cases he
      exact settled_of_leaf rfl nofun nofun
    . cases he

theorem readMethod_failsWith (hl : ∀ a kind, FailsWith spec Settled (load a kind)) (role : Role)
    (c : Contract) (name : String) (as : List α) :
    FailsWith spec Settled (readMethod load role c name as) := by
  unfold readMethod
  apply failsWith_bind
  . apply failsWith_ofExcept
    intro e
    exact settled_of_method
  . intro m
    apply failsWith_bind
    . exact calldata_failsWith hl m as
    . intro data
      apply failsWith_bind
      . apply failsWith_askAbout
      . intro answer
        apply failsWith_ofExcept_bind
        . intro e
          exact settled_of_leaf rfl nofun nofun
        . intro output
          apply failsWith_ofExcept
          intro e
          exact settled_of_firstOutput

end Arguments

section Load

variable {bound : Nat} {load : Loader bound} {payload : String}

/-- A call in an expression may name a delegate that there is not. -/
theorem resolveCall_failsWith (hspec : spec.WellFormed)
    (hl : ∀ k hk kind required, FailsWith spec Settled (load k hk kind required))
    (h : KeySource.call.marker.length + payload.length ≤ bound) :
    FailsWith spec SparesSpec (resolveCall load payload h) := by
  unfold resolveCall
  dsimp only
  split
  . apply failsWith_bind
    . apply bindDelegate_failsWith hspec
      . exact fun e => Settled.sparesSpec
      . intro _
        exact sparesSpec_of_leaf rfl nofun
      . apply hl
    . intro c
      apply FailsWith.mono _ fun e => Settled.sparesSpec
      apply readMethod_failsWith
      intro a kind
      apply hl
  . apply FailsWith.mono _ fun e => Settled.sparesSpec
    apply failsWith_bind
    . exact bindPrimary_failsWith hspec
    . intro c
      apply readMethod_failsWith
      intro a kind
      apply hl

theorem resolveBuiltin_failsWith
    (hl : ∀ k hk kind required, FailsWith spec Settled (load k hk kind required))
    (h : payload.length ≤ bound) : FailsWith spec Settled (resolveBuiltin load payload h) := by
  unfold resolveBuiltin
  split
  . apply failsWith_throw
    exact settled_of_leaf rfl nofun nofun
  . next c hc =>
    apply (Builtin.run_composed c.builtin).failsWith
    intro name f hf kind required
    split at hf
    . cases hf
    . cases hf
      apply hl

theorem prompt_failsWith (key : String) (required hidden : Bool) :
    FailsWith spec Settled (prompt key required hidden) := by
  unfold prompt
  apply failsWith_bind
  . apply failsWith_ask
  . intro answer
    apply failsWith_ofExcept_bind
    . intro e
      exact settled_of_leaf rfl nofun nofun
    . intro text
      apply failsWith_pure

theorem setting_failsWith (name : String) (required : Bool) :
    FailsWith spec Settled (setting name required) := by
  unfold setting
  apply failsWith_bind
  . apply failsWith_ask
  . intro answer
    split
    . apply failsWith_pure
    . apply prompt_failsWith

theorem resolveSource_failsWith (hspec : spec.WellFormed)
    (hl : ∀ k hk kind required, FailsWith spec Settled (load k hk kind required))
    {e : KeyExpression} (h : e.source.marker.length + e.payload.length ≤ bound) (required : Bool) :
    FailsWith spec SparesSpec (resolveSource load e h required) := by
  unfold resolveSource
  split
  . exact resolveCall_failsWith hspec hl _
  . exact (setting_failsWith _ _).mono fun e => Settled.sparesSpec
  . apply failsWith_pure
  . exact (resolveBuiltin_failsWith hl _).mono fun e => Settled.sparesSpec
  . exact (prompt_failsWith _ _ _).mono fun e => Settled.sparesSpec
  . apply failsWith_throw
    exact sparesSpec_of_leaf rfl nofun

theorem applyTransform_failsWith (transform : Option String) (v : Value) :
    FailsWith spec Settled (applyTransform transform v) := by
  unfold applyTransform
  split
  . apply failsWith_pure
  . apply failsWith_ofExcept
    intro e _
    exact settled_of_leaf rfl nofun nofun

theorem resolve_failsWith {key : String} {load : Loader key.length} (hspec : spec.WellFormed)
    (hl : ∀ k hk kind required, FailsWith spec Settled (load k hk kind required))
    (required : Bool) : FailsWith spec SparesSpec (resolve key load required) := by
  unfold resolve
  split
  . apply failsWith_throw
    exact sparesSpec_of_leaf rfl nofun
  . next e he =>
    apply failsWith_bind
    . exact resolveSource_failsWith hspec hl _ _
    . intro v
      apply failsWith_bind
      . exact (applyTransform_failsWith _ _).mono fun e => Settled.sparesSpec
      . intro v
        apply failsWith_bind
        . unfold remember
          split
          . apply failsWith_modify
            intro s
            rfl
          . apply failsWith_pure
        . intro _
          apply failsWith_pure

theorem finish_failsWith (key : String) (kind : Option Kind) (required : Bool) (v : Value) :
    FailsWith spec Settled (finish key kind required v) := by
  unfold finish
  split
  . split
    . have hcause : SparesSpec (.key (.requiredValueMissing key)) := sparesSpec_of_leaf rfl nofun
      exact failsWith_throw (settled_of_wrap hcause rfl nofun nofun)
    . apply failsWith_pure
  . split
    . apply failsWith_pure
    . apply failsWith_ofExcept
      intro e _
      have hcause : SparesSpec (.ofConversion e) := sparesSpec_of_leaf rfl nofun
      exact settled_of_wrap hcause rfl nofun nofun

/-- Whatever fails while an expression is resolved is wrapped by what says which it was. -/
theorem loadBy_failsWith {key : String} {load : Loader key.length} (hspec : spec.WellFormed)
    (hl : ∀ k hk kind required, FailsWith spec Settled (load k hk kind required))
    (kind : Option Kind) (required : Bool) :
    FailsWith spec Settled (loadBy key load kind required) := by
  unfold loadBy
  apply failsWith_bind
  . unfold fetch
    apply failsWith_get_bind
    intro s _
    split
    . apply failsWith_pure
    . apply failsWith_within
      . exact resolve_failsWith hspec hl required
      . intro e he
        exact settled_of_wrap he rfl nofun nofun
  . intro v
    apply failsWith_bind
    . apply finish_failsWith
    . intro v
      apply failsWith_bind
      . apply failsWith_say
      . intro _
        apply failsWith_pure

theorem loadWithin_failsWith (hspec : spec.WellFormed) {bound : Nat} {key : String}
    (h : key.length < bound) (kind : Option Kind) (required : Bool) :
    FailsWith spec Settled (loadWithin bound key h kind required) := by
  induction bound generalizing key kind required with
  | zero => exact absurd h (Nat.not_lt_zero _)
  | succ bound ih =>
    unfold loadWithin
    apply loadBy_failsWith hspec
    intro k hk kind required
    apply ih

theorem load_failsWith (hspec : spec.WellFormed) (key : String) (kind : Option Kind)
    (required : Bool) : FailsWith spec Settled (Session.load key kind required) := by
  unfold Session.load
  apply loadWithin_failsWith hspec

end Load

theorem callee_failsWith (hspec : spec.WellFormed) {o : Operation}
    (hd : ∀ delegate method, o.target = .delegate delegate method →
      ∃ d, spec.delegate? delegate = some d) (given : Option (List String)) :
    FailsWith spec Settled (callee o given) := by
  unfold callee
  split
  . apply failsWith_pure
  . apply failsWith_bind
    . exact bindPrimary_failsWith hspec
    . intro c
      apply failsWith_pure
  . next delegate method htarget =>
    apply failsWith_bind
    . exact bindPrimary_failsWith hspec
    . intro _
      apply failsWith_bind
      . apply bindDelegate_failsWith hspec
        . exact fun e => id
        . intro hnone
          obtain ⟨d, hd⟩ := hd delegate method htarget
          rw [hnone] at hd
          cases hd
        . exact load_failsWith hspec _ _ _
      . intro c
        apply failsWith_get_bind
        intro s _
        apply failsWith_pure

theorem failsWith_operation_bind {name : String} {f : Operation → Engine α}
    (hf : ∀ o, spec.functions.find? name = some o → FailsWith spec Settled (f o)) :
    FailsWith spec Settled (operation name >>= f) := by
  intro s t r s' hs hr
  cases ho : spec.functions.find? name with
  | none =>
    rw [runs_operation_bind_none_iff (by rw [hs, ho])] at hr
    obtain ⟨-, rfl, rfl⟩ := hr
    refine ⟨hs, ?_⟩
    rintro _ ⟨⟩
    exact settled_of_leaf rfl nofun nofun
  | some o =>
    rw [runs_operation_bind_some_iff (by rw [hs, ho])] at hr
    exact hf o ho s t r s' hs hr

theorem execute_failsWith (hspec : spec.WellFormed) (name : String) :
    FailsWith spec Settled (execute name) := by
  unfold execute
  apply failsWith_operation_bind
  intro o ho
  apply failsWith_bind
  . exact callee_failsWith hspec (fun _ _ => hspec.exists_delegate ho) none
  . intro c
    split
    . apply failsWith_pure
    . apply failsWith_bind
      . apply failsWith_ofExcept
        intro e
        exact settled_of_method
      . intro m
        apply failsWith_bind
        . apply calldata_failsWith
          intro key kind
          exact load_failsWith hspec key kind true
        . intro data
          apply failsWith_bind
          . apply failsWith_askAbout
          . intro answer
            apply failsWith_ofExcept_bind
            . intro e
              exact settled_of_leaf rfl nofun nofun
            . intro outcome
              apply failsWith_pure

theorem call_failsWith (hspec : spec.WellFormed) (name : String) (given : Option (List String)) :
    FailsWith spec Settled (call name given) := by
  unfold call
  apply failsWith_operation_bind
  intro o ho
  apply failsWith_bind
  . exact callee_failsWith hspec (fun _ _ => hspec.exists_delegate ho) given
  . intro c
    split
    . apply failsWith_pure
    . apply failsWith_bind
      . apply readMethod_failsWith
        intro key kind
        exact load_failsWith hspec key kind true
      . intro v
        apply failsWith_bind
        . apply applyTransform_failsWith
        . intro v
          apply failsWith_pure

theorem status_failsWith (hspec : spec.WellFormed) : FailsWith spec Settled status := by
  unfold status
  apply failsWith_bind
  . exact call_failsWith hspec _ _
  . intro outcome
    split
    . apply failsWith_pure
    . apply failsWith_ofExcept_bind
      . intro e
        exact settled_of_leaf rfl nofun nofun
      . intro i
        apply failsWith_pure

theorem Task.failsWith (hspec : spec.WellFormed) (task : Task) :
    FailsWith spec Settled task.engine := by
  cases task with
  | load key kind required => exact load_failsWith hspec key kind required
  | execute name => exact execute_failsWith hspec name
  | call name given => exact call_failsWith hspec name given
  | status => exact status_failsWith hspec

/-- In every session that works with a document that has been accepted, whatever has been done in it
and is answered, no task fails because of the specification: no error has a fault of it among its
causes, and none is itself that a delegate is unknown. An operation of the document shows a message
exactly if it has one and no parameters, and otherwise calls a method that is named without a point,
of the primary contract or of the one delegate of a name. -/
theorem errors_of_document {label document : String}
    (hread : Specification.read label document = .ok spec) :
    (∀ settings tasks t s, Run (start spec settings) tasks t s →
      ∀ task u e s', Runs (Task.engine task) s u (.error e) s' →
        (∀ fault, .spec fault ∉ e.causes) ∧ ∀ name, e ≠ .unknownDelegate name) ∧
    ∀ name o, spec.functions.find? name = some o →
      (o.target = .stub ↔ o.message ≠ "" ∧ o.parameters = []) ∧
      (∀ method, o.target = .direct method → method ≠ "" ∧ '.' ∉ method.toList) ∧
      ∀ delegate method, o.target = .delegate delegate method →
        method ≠ "" ∧ '.' ∉ method.toList ∧
          (spec.delegates.map Delegate.name).count delegate = 1 := by
  have hspec := Specification.wellFormed_of_read hread
  refine ⟨?_, ?_⟩
  . intro settings tasks t s hrun task u e s' hr
    have hs : s.spec = spec := hrun.steps.spec_eq
    obtain ⟨-, he⟩ := task.failsWith hspec s u _ s' hs hr
    exact ⟨(he e rfl).sparesSpec, (he e rfl).known⟩
  . intro name o ho
    refine ⟨hspec.target_eq_stub_iff ho, ?_, ?_⟩
    . intro method ht
      exact hspec.method_of_direct ho ht
    . intro delegate method ht
      obtain ⟨hne, hpoint⟩ := hspec.method_of_delegate ho ht
      exact ⟨hne, hpoint, hspec.count_delegate ho ht⟩

def commissioning : Specification where
  name := "s"
  contractAddress := "0x00000000000000000000000000000000000000a1"
  abi := "primary"
  functions := .ofList [("op", { callee := "d.m" }), ("stub", { message := "by hand" })]
  delegates := [{ name := "d", abi := "delegate" }]

def commissioningDocument : String :=
  serviceDocument "s"
    "\"op\":\x7b\"name\":\"d.m\"\x7d,\"stub\":\x7b\"message\":\"by hand\"\x7d"
    "\x7b\"name\":\"d\",\"abi\":\"delegate\"\x7d"

/-- The address of the delegate is not found out, since what is read as it is empty. -/
theorem errors_of_document_commissioning :
    Specification.read "s" commissioningDocument = .ok commissioning ∧
      (∃ t e s, Runs (execute "op") (start commissioning {}) t (.error e) s ∧
        e = .delegateResolution "d" (.resolution "call:d" (.decode "d()"
          (.malformed "buffer overrun while deserializing"))) ∧
        (∀ fault, .spec fault ∉ e.causes) ∧ ∀ name, e ≠ .unknownDelegate name) ∧
      ∃ o, commissioning.functions.find? "op" = some o ∧ o.target = .delegate "d" "m" ∧
        (commissioning.delegates.map Delegate.name).count "d" = 1 := by
  have hread : Specification.read "s" commissioningDocument = .ok commissioning := by
    decide +kernel
  obtain ⟨herrors, htargets⟩ := errors_of_document hread
  refine ⟨hread, ?_, ?_⟩
  . let answer := compliant delegatingResource []
    have hfailure : failure? (transcript answer (execute "op") (start commissioning {})).2.1 =
        some (.delegateResolution "d" (.resolution "call:d" (.decode "d()"
          (.malformed "buffer overrun while deserializing")))) := by
      decide +kernel
    have hr := runs_of_failure?_eq_some hfailure
    obtain ⟨hspec, hknown⟩ := herrors {} [] [] _ .nil (.execute "op") _ _ _ hr
    exact ⟨_, _, _, hr, rfl, hspec, hknown⟩
  . have ho : commissioning.functions.find? "op" = some { callee := "d.m" } := by
      decide +kernel
    have ht : Operation.target { callee := "d.m" } = .delegate "d" "m" := by
      decide +kernel
    obtain ⟨-, -, hdelegate⟩ := htargets "op" _ ho
    exact ⟨_, ho, ht, (hdelegate "d" "m" ht).2.2⟩

end Session

end Registrar
