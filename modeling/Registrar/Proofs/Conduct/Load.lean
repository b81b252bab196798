import Registrar.Proofs.Arguments
import Registrar.Proofs.Conduct.Builtin

/-!
This module contains the proof that loading an expression consists of moves. What is loaded for an
expression without a point binds no delegate, so that the getter of a delegate does not change what
is bound for it. Nothing that is loaded submits a transaction.
-/

namespace Registrar

namespace Session

open Engine

variable {α : Type} {l : Permit} {h : Trace} {s s' : Session} {t : Trace}

theorem interface_follows (resource : String) : Follows l (interface resource) := by
  intro h s t r s' hr
  unfold interface at hr
  rw [runs_get_bind_iff] at hr
  split at hr
  . next i hi =>
    obtain ⟨rfl, -, rfl⟩ := runs_pure_iff.1 hr
    exact .refl
  . next hi =>
    rw [runs_get_bind_iff] at hr
    obtain ⟨x, t', rfl, hx⟩ := runs_ask_bind_iff.1 hr
    cases x with
    | error e =>
      obtain ⟨rfl, -, rfl⟩ := runs_throw_bind_iff.1 hx
      exact Moves.step (.unread resource _ hi) nofun
    | ok text =>
      have htext := runs_pure_bind_iff.1 hx
      cases hread : Interface.read text with
      | error e =>
        rw [hread] at htext
        obtain ⟨rfl, -, rfl⟩ := runs_throw_bind_iff.1 htext
        exact Moves.step (.unread resource _ hi) nofun
      | ok i =>
        rw [hread] at htext
        have hinsert := runs_modify_bind_iff.1 (runs_pure_bind_iff.1 htext)
        obtain ⟨rfl, -, rfl⟩ := runs_pure_iff.1 hinsert
        exact Moves.step (.read resource text i hi hread) nofun

/-- What binding a contract comes to when the question for its code is answered. -/
def bindResult (c : Contract) : Except ChainError Bool → Except OperationError Contract
  | .ok true => .ok c
  | .ok false => .error (.bind c.name c.address .noCode)
  | .error e => .error (.bind c.name c.address (.chain e))

theorem runs_bind_contract_iff {role : Role} {name : String} {a : Address} {i : Interface}
    {r : Except OperationError Contract} :
    Runs (bind role name a i) s t r s' ↔
      ∃ x, t = [⟨.request (some role) (.hasCode a), x⟩] ∧ r = bindResult ⟨name, a, i⟩ x ∧
        s' = s := by
  unfold bind
  rw [runs_askAbout_bind_iff]
  constructor
  . rintro ⟨x, t', rfl, hx⟩
    refine ⟨x, ?_⟩
    rcases x with e | b
    . obtain ⟨rfl, rfl, rfl⟩ := runs_throw_bind_iff.1 hx
      exact ⟨rfl, rfl, rfl⟩
    . have hb := runs_pure_bind_iff.1 hx
      cases b with
      | true =>
        obtain ⟨rfl, rfl, rfl⟩ := runs_pure_iff.1 hb
        exact ⟨rfl, rfl, rfl⟩
      | false =>
        obtain ⟨rfl, rfl, rfl⟩ := runs_throw_iff.1 hb
        exact ⟨rfl, rfl, rfl⟩
  . rintro ⟨x, rfl, rfl, rfl⟩
    refine ⟨x, [], rfl, ?_⟩
    rcases x with e | b
    . exact runs_throw_bind_iff.2 ⟨rfl, rfl, rfl⟩
    . apply runs_pure_bind_iff.2
      cases b with
      | true => exact runs_pure_iff.2 ⟨rfl, rfl, rfl⟩
      | false => exact runs_throw_iff.2 ⟨rfl, rfl, rfl⟩

/-- A contract that is bound for a role is where the role is, and none has been bound before. -/
theorem bind_moves {role : Role} {name : String} {a : Address} {i : Interface}
    {r : Except OperationError Contract} (hb : s.bound? role = none)
    (hl : s.spec.Locates h a role) (hm : l.binds role)
    (hr : Runs (do
      let c ← bind role name a i
      modify fun s => s.bindTo c role
      return c) s t r s') :
    Moves l h s t s' ∧ ∀ c, r = .ok c → s'.bound? role = some c := by
  rw [Engine.runs_bind_iff] at hr
  cases hr with
  | inl hr =>
    obtain ⟨c, s₁, t₁, t₂, rfl, hbind, hr⟩ := hr
    obtain ⟨x, rfl, hx, rfl⟩ := runs_bind_contract_iff.1 hbind
    rw [runs_modify_bind_iff] at hr
    obtain ⟨rfl, rfl, rfl⟩ := runs_pure_iff.1 hr
    rcases x with e | _ | _
    . cases hx
    . cases hx
    . cases hx
      constructor
      . exact Moves.step (.bound role ⟨name, a, i⟩ hb hl hm) nofun
      . intro c hc
        cases hc
        rw [bound?_bindTo]
        rw [if_pos rfl]
  | inr hr =>
    obtain ⟨e, rfl, hbind⟩ := hr
    obtain ⟨x, rfl, hx, rfl⟩ := runs_bind_contract_iff.1 hbind
    constructor
    . apply Moves.step _ (List.cons_ne_nil _ _)
      apply Step.unbound role a x hb
      intro heq
      rw [heq] at hx
      cases hx
    . intro c hc
      cases hc

theorem establish_moves {role : Role} {name abi : String} {a : Address}
    {r : Except OperationError Contract} (hb : s.bound? role = none)
    (hl : s.spec.Locates h a role) (hm : l.binds role)
    (hr : Runs (do
      let i ← interface abi
      let c ← bind role name a i
      modify fun s => s.bindTo c role
      return c) s t r s') :
    Moves l h s t s' ∧ ∀ c, r = .ok c → s'.bound? role = some c := by
  apply moves_bind_ok _ _ hr
  . intro t r s₁ hi
    exact interface_follows _ _ _ _ _ _ hi
  . intro i s₁ t₁ t₂ hi hbind
    have hsteps : Steps .none h s t₁ s₁ := (interface_follows (l := .none) abi).steps hi
    -- reading an interface binds nothing
    have hb₁ : s₁.bound? role = none := by
      rw [hsteps.bound?_eq not_false]
      exact hb
    have hl₁ : s₁.spec.Locates (h ++ t₁) a role := by
      rw [hsteps.spec_eq]
      apply hl.mono
      exact List.subset_append_left h t₁
    exact bind_moves hb₁ hl₁ hm hbind

theorem bindPrimary_moves {r : Except OperationError Contract} (hm : l.binds .primary)
    (hr : Runs bindPrimary s t r s') :
    Moves l h s t s' ∧ ∀ c, r = .ok c → s'.bound? .primary = some c := by
  unfold bindPrimary at hr
  rw [runs_get_bind_iff] at hr
  split at hr
  . next c hc =>
    obtain ⟨rfl, rfl, rfl⟩ := runs_pure_iff.1 hr
    constructor
    . exact .refl
    . intro c' heq
      cases heq
      exact hc
  . next hb =>
    rw [runs_get_bind_iff] at hr
    dsimp only at hr
    cases ha : s.spec.address with
    | error e =>
      rw [ha] at hr
      obtain ⟨rfl, rfl, rfl⟩ := runs_throw_bind_iff.1 hr
      constructor
      . exact .refl
      . intro c heq
        cases heq
    | ok a =>
      rw [ha] at hr
      have hb : s.bound? .primary = none := hb
      apply establish_moves hb (.primary ha) hm
      exact runs_pure_bind_iff.1 hr

section Delegate

variable {m : Permit} {name : String} {getter : Engine Value}

theorem delegateAddress_follows (d : Delegate) (hg : Follows m getter) :
    Follows m (delegateAddress d getter) := by
  unfold delegateAddress
  split
  . apply follows_ofExcept
  . apply follows_bind hg
    intro v
    split
    . apply follows_pure
    . apply follows_throw

theorem locates_of_delegateAddress {d : Delegate} {a : Address}
    (hd : s.spec.delegate? name = some d)
    (hsaid : ∀ s t v s', Runs getter s t (.ok v) s' → Event.loaded (getterKey name) v ∈ t)
    (hr : Runs (delegateAddress d getter) s t (.ok a) s') :
    s.spec.Locates (h ++ t) a (.delegate name) := by
  unfold delegateAddress at hr
  split at hr
  . next text ht =>
    obtain ⟨-, ha, -⟩ := runs_ofExcept_ok_iff.1 hr
    exact .configured hd ht ha
  . next ht =>
    obtain ⟨v, s₁, t₁, t₂, rfl, hv, hr⟩ := runs_bind_ok_iff.1 hr
    have hloaded := hsaid _ _ _ _ hv
    split at hr
    . next a' =>
      obtain ⟨rfl, ha, -⟩ := runs_pure_iff.1 hr
      cases ha
      apply Specification.Locates.resolved hd ht
      simp [hloaded]
    . obtain ⟨-, ha, -⟩ := runs_throw_iff.1 hr
      cases ha

/-- A delegate is bound in the end if its getter leaves it alone. -/
theorem bindDelegate_moves {r : Except OperationError Contract} (hm : l.binds (.delegate name))
    (hg : Follows m getter) (hlm : m.Le l) (hleave : ¬ m.binds (.delegate name))
    (hsaid : ∀ s t v s', Runs getter s t (.ok v) s' → Event.loaded (getterKey name) v ∈ t)
    (hr : Runs (bindDelegate name getter) s t r s') :
    Moves l h s t s' ∧ ∀ c, r = .ok c → s'.bound? (.delegate name) = some c := by
  unfold bindDelegate at hr
  rw [runs_get_bind_iff] at hr
  split at hr
  . next c hc =>
    obtain ⟨rfl, rfl, rfl⟩ := runs_pure_iff.1 hr
    constructor
    . exact .refl
    . intro c' heq
      cases heq
      exact hc
  . next hb =>
    rw [runs_get_bind_iff] at hr
    split at hr
    . obtain ⟨rfl, rfl, rfl⟩ := runs_throw_iff.1 hr
      constructor
      . exact .refl
      . intro c heq
        cases heq
    . next d hd =>
      have haddress := follows_within (.delegateResolution name) (delegateAddress_follows d hg)
      apply moves_bind_ok _ _ hr
      . intro t r s₁ ha
        apply Moves.mono _ hlm
        exact haddress _ _ _ _ _ ha
      . intro a s₁ t₁ t₂ ha hbind
        have hsteps : Steps m.toLicence h s t₁ s₁ := haddress.steps ha
        -- the getter may have bound other contracts, but not this one
        have hb₁ : s₁.bound? (.delegate name) = none := by
          rw [hsteps.bound?_eq hleave]
          exact hb
        have hl : s₁.spec.Locates (h ++ t₁) a (.delegate name) := by
          rw [hsteps.spec_eq]
          exact locates_of_delegateAddress hd hsaid (runs_within_ok_iff.1 ha)
        exact establish_moves hb₁ hl hm hbind

end Delegate

theorem argument_follows {load : α → Option Kind → Engine Value} {p : Param} {a : α}
    (hl : ∀ kind, Follows l (load a kind)) : Follows l (argument load p a) := by
  unfold argument
  split
  . apply follows_throw
  . apply follows_bind
    . apply hl
    . intro v
      apply follows_ofExcept

theorem arguments_follows {load : α → Option Kind → Engine Value} {method : String}
    {position : Nat} {ps : List Param} {as : List α} (hl : ∀ a kind, Follows l (load a kind)) :
    Follows l (arguments load method position ps as) := by
  induction ps generalizing position as with
  | nil => apply follows_pure
  | cons p ps ih =>
    cases as with
    | nil => apply follows_pure
    | cons a as =>
      unfold arguments
      apply follows_bind
      . apply follows_within
        exact argument_follows (hl a)
      . intro v
        apply follows_bind
        . apply ih
        . intro vs
          apply follows_pure

theorem calldata_follows {load : α → Option Kind → Engine Value} {m : Method} {as : List α}
    (hl : ∀ a kind, Follows l (load a kind)) : Follows l (calldata load m as) := by
  unfold calldata
  split
  . apply follows_bind
    . exact arguments_follows hl
    . intro vs
      apply follows_pure
  . apply follows_throw

/-- What comes of reading a method that succeeds has been read from the contract that is bound. -/
theorem readMethod_moves {load : α → Option Kind → Engine Value} {role : Role} {c : Contract}
    {name : String} {as : List α} {r : Except OperationError Value}
    (hl : ∀ a kind, Follows l (load a kind)) (hc : s.bound? role = some c)
    (hr : Runs (readMethod load role c name as) s t r s') :
    Moves l h s t s' ∧ ∀ v, r = .ok v → ReadFrom (h ++ t) s' role name as.length v := by
  unfold readMethod at hr
  cases hm : c.method name (some as.length) with
  | error e =>
    rw [hm] at hr
    obtain ⟨rfl, rfl, rfl⟩ := runs_throw_bind_iff.1 hr
    exact ⟨.refl, nofun⟩
  | ok m =>
    rw [hm] at hr
    have hlength : m.inputs.length = as.length := (Contract.method_some_eq_ok hm).2
    apply moves_bind_ok _ _ (runs_pure_bind_iff.1 hr)
    . intro t r s₁ hdata
      exact calldata_follows hl _ _ _ _ _ hdata
    . intro data s₁ t₁ t₂ hdata hread
      have hbound : s₁.bound? role = some c :=
        ((calldata_follows hl).steps (h := h) hdata).bound?_eq_some hc
      obtain ⟨x, t', rfl, hx⟩ := runs_askAbout_bind_iff.1 hread
      have hcalled : Moves l (h ++ t₁) s₁ [⟨.request (some role) (.call c.address data), x⟩] s₁ :=
        Moves.step (.called role c data x hbound) nofun
      constructor
      . apply hcalled.trans
        have hrest : Follows l (do
            let output ← Engine.ofExcept .chain x
            Engine.ofExcept id (firstOutput m output)) := by
          apply follows_bind
          . apply follows_ofExcept
          . intro output
            apply follows_ofExcept
        exact hrest _ _ _ _ _ hx
      . intro v hv
        rw [hv] at hx
        obtain ⟨output, s₂, t₃, t₄, rfl, hanswer, hfirst⟩ := runs_bind_ok_iff.1 hx
        obtain ⟨rfl, rfl, rfl⟩ := runs_ofExcept_ok_iff.1 hanswer
        obtain ⟨rfl, ho, rfl⟩ := runs_ofExcept_ok_iff.1 hfirst
        obtain ⟨values, -, heq⟩ := (runs_calldata_ok_iff hlength).1 hdata
        rw [heq]
        refine .intro values hbound hm ?_ ho
        apply List.mem_append_right
        apply List.mem_append_right
        exact List.mem_cons_self

/-- What the parts of an expression may do: to bind the primary contract, and also a delegate if
there is a point in the expression, which alone can name one. Only expressions shorter than a bound
are remembered. -/
def Permit.ofText (text : List Char) (bound : Nat) : Permit where
  binds role := role = .primary ∨ '.' ∈ text
  submits := False
  remembers key := key.length < bound

theorem Permit.ofText_le {a b : List Char} {n k : Nat} (hab : a ⊆ b) (hnk : n ≤ k) :
    (ofText a n).Le (ofText b k) where
  binds _ h := h.imp_right fun hp => hab hp
  submits h := h
  remembers _ h := Nat.lt_of_lt_of_le h hnk

/-- What loading an expression may do. -/
def Permit.ofKey (key : String) : Permit :=
  ofText key.toList (key.length + 1)

theorem not_mem_getterKey {delegate : String} (h : '.' ∉ delegate.toList) :
    '.' ∉ (getterKey delegate).toList := by
  rw [getterKey, String.toList_append, List.mem_append, String.toList_ofList]
  rintro (hmarker | hdelegate)
  . revert hmarker
    decide
  . exact h hdelegate

theorem not_binds_getterKey {name delegate : String} (h : '.' ∉ delegate.toList) :
    ¬ (Permit.ofKey (getterKey delegate)).binds (.delegate name) := by
  rintro (heq | hpoint)
  . cases heq
  . exact not_mem_getterKey h hpoint

theorem loaded_mem_of_runs_load {key : String} {kind : Option Kind} {required : Bool} {v : Value}
    (hr : Runs (load key kind required) s t (.ok v) s') : Event.loaded key v ∈ t := by
  rw [load_eq_loadBy] at hr
  unfold loadBy at hr
  obtain ⟨w, s₁, t₁, t₂, rfl, -, hr⟩ := runs_bind_ok_iff.1 hr
  obtain ⟨v', s₂, t₃, t₄, rfl, -, hr⟩ := runs_bind_ok_iff.1 hr
  obtain ⟨u, s₃, t₅, t₆, rfl, hsay, hpure⟩ := runs_bind_ok_iff.1 hr
  obtain ⟨rfl, -, -⟩ := runs_say_iff.1 hsay
  obtain ⟨rfl, hv, -⟩ := runs_pure_iff.1 hpure
  cases hv
  simp [Event.loaded]

section Load

variable {bound : Nat}

abbrev PartsFollow (bound : Nat) : Prop :=
  ∀ key : String, key.length < bound → ∀ kind required,
    Follows (Permit.ofKey key) (load key kind required)

theorem resolveCall_moves (ih : PartsFollow bound) {payload : String}
    {hp : KeySource.call.marker.length + payload.length ≤ bound} {r : Except OperationError Value}
    (hr : Runs (resolveCall (fun key _ => load key : Loader bound) payload hp) s t r s') :
    Moves (Permit.ofText payload.toList bound) h s t s' ∧
      ∀ v, r = .ok v → ReadFrom (h ++ t) s' (Invocation.read payload).target.1
        (Invocation.read payload).target.2 (Invocation.read payload).arguments.length v := by
  have hargument (a : { a // a ∈ (Invocation.read payload).arguments }) (kind : Option Kind) :
      Follows (Permit.ofText payload.toList bound) (load a.1 kind true) := by
    have := Invocation.length_lt_of_mem_arguments a.2
    apply (ih a.1 (by omega) kind true).mono
    apply Permit.ofText_le
    . exact Invocation.subset_of_mem_arguments a.2
    . omega
  unfold resolveCall at hr
  dsimp only at hr
  unfold Invocation.target
  rw [← List.length_attach]
  split at hr
  . next delegate method hs =>
    obtain ⟨hcallee, hdelegate⟩ := Operation.splitCallee?_eq_some hs
    have hpoint : '.' ∈ payload.toList := Invocation.callee_subset payload hcallee
    have hlength := length_getterKey hs
    have hcalleeLength := Invocation.length_callee_le payload
    -- the key of the getter is shorter than the payload behind its marker, which names a method too
    have hgetterLength : (getterKey delegate).length < bound := by omega
    have hgetter := ih (getterKey delegate) hgetterLength (some .address) true
    have hbind {r : Except OperationError Contract} {t : Trace} {s' : Session}
        (hr : Runs (bindDelegate delegate (load (getterKey delegate) (some .address) true)) s t r s') :
        Moves (Permit.ofText payload.toList bound) h s t s' ∧
          ∀ c, r = .ok c → s'.bound? (.delegate delegate) = some c := by
      apply bindDelegate_moves (Or.inr hpoint) hgetter _ (not_binds_getterKey hdelegate) _ hr
      . constructor
        . constructor
          . intro role hrole
            exact hrole.imp_right fun hmem => absurd hmem (not_mem_getterKey hdelegate)
          . exact id
        . intro key hkey
          exact Nat.lt_of_lt_of_le hkey hgetterLength
      . intro s t v s' hv
        exact loaded_mem_of_runs_load hv
    rw [hs]
    apply moves_bind_ok _ _ hr
    . intro t r s₁ hc
      exact (hbind hc).1
    . intro c s₁ t₁ t₂ hc hread
      rw [← List.append_assoc]
      exact readMethod_moves hargument ((hbind hc).2 c rfl) hread
  . next hs =>
    have hprimary : (Permit.ofText payload.toList bound).binds .primary := Or.inl rfl
    rw [hs]
    apply moves_bind_ok _ _ hr
    . intro t r s₁ hc
      exact (bindPrimary_moves hprimary hc).1
    . intro c s₁ t₁ t₂ hc hread
      rw [← List.append_assoc]
      exact readMethod_moves hargument ((bindPrimary_moves (h := h) hprimary hc).2 c rfl) hread

theorem resolveBuiltin_follows (ih : PartsFollow bound) (payload : String)
    (hp : payload.length ≤ bound) :
    Follows (Permit.ofText payload.toList bound)
      (resolveBuiltin (fun key _ => load key : Loader bound) payload hp) := by
  unfold resolveBuiltin
  split
  . apply follows_throw
  . next c hc =>
    apply (Builtin.run_composed c.builtin).follows
    intro name load hload kind required
    dsimp only at hload
    split at hload
    . cases hload
    . next key hkey =>
      cases hload
      have := BuiltinCall.length_lt_of_parameter hc hkey
      apply (ih key (by omega) kind required).mono
      apply Permit.ofText_le
      . exact BuiltinCall.parameter_subset hc hkey
      . omega

theorem prompt_follows (key : String) (required hidden : Bool) :
    Follows l (prompt key required hidden) := by
  unfold prompt
  apply follows_bind
  . exact follows_ask rfl
  . intro answer
    apply follows_bind
    . apply follows_ofExcept
    . intro text
      apply follows_pure

theorem setting_follows (name : String) (required : Bool) : Follows l (setting name required) := by
  unfold setting
  apply follows_bind
  . exact follows_ask rfl
  . intro answer
    split
    . apply follows_pure
    . apply prompt_follows

theorem answer_of_prompt {key : String} {required hidden : Bool} {v : Value}
    (hr : Runs (prompt key required hidden) s t (.ok v) s') :
    ∃ text, ⟨.request none (.prompt key required hidden), .ok text⟩ ∈ t ∧ v = .string text := by
  unfold prompt at hr
  obtain ⟨x, t', rfl, hx⟩ := runs_ask_bind_iff.1 hr
  obtain ⟨text, s₁, t₁, t₂, rfl, htext, hpure⟩ := runs_bind_ok_iff.1 hx
  obtain ⟨rfl, rfl, rfl⟩ := runs_ofExcept_ok_iff.1 htext
  obtain ⟨rfl, hv, rfl⟩ := runs_pure_iff.1 hpure
  cases hv
  exact ⟨text, List.mem_cons_self, rfl⟩

theorem gives_of_setting {e : KeyExpression} {required : Bool} {v : Value} (hs : e.source = .config)
    (hr : Runs (setting e.payload required) s t (.ok v) s') : Gives (h ++ t) s' e v := by
  unfold setting at hr
  obtain ⟨x, t', rfl, hx⟩ := runs_ask_bind_iff.1 hr
  cases x with
  | some j =>
    obtain ⟨rfl, hv, rfl⟩ := runs_pure_iff.1 hx
    cases hv
    exact .setting hs (by simp)
  | none =>
    obtain ⟨text, hmem, rfl⟩ := answer_of_prompt hx
    apply Gives.answer (.inl hs)
    apply List.mem_append_right
    apply List.mem_cons_of_mem
    exact hmem

/-- What the source of an expression that is remembered gives is what it says. -/
theorem resolveSource_moves (ih : PartsFollow bound) {e : KeyExpression}
    {he : e.source.marker.length + e.payload.length ≤ bound} {required : Bool}
    {r : Except OperationError Value}
    (hr : Runs (resolveSource (fun key _ => load key : Loader bound) e he required) s t r s') :
    Moves (Permit.ofText e.payload.toList bound) h s t s' ∧
      ∀ v, r = .ok v → e.isCacheable → Gives (h ++ t) s' e v := by
  unfold resolveSource at hr
  split at hr
  . next hs =>
    obtain ⟨hmoves, hread⟩ := resolveCall_moves (h := h) ih hr
    refine ⟨hmoves, ?_⟩
    intro v hv _
    exact .read hs (hread v hv)
  . next hs =>
    constructor
    . exact setting_follows _ _ _ _ _ _ _ hr
    . intro v hv _
      rw [hv] at hr
      exact gives_of_setting hs hr
  . next hs =>
    obtain ⟨rfl, rfl, rfl⟩ := runs_pure_iff.1 hr
    refine ⟨.refl, ?_⟩
    intro v hv _
    cases hv
    exact .literal hs
  . next hs =>
    constructor
    . exact resolveBuiltin_follows ih _ _ _ _ _ _ _ hr
    . intro v _ hc
      simp [KeyExpression.isCacheable, hs] at hc
  . next hs =>
    constructor
    . exact prompt_follows _ _ _ _ _ _ _ _ hr
    . intro v hv _
      rw [hv] at hr
      obtain ⟨text, hmem, rfl⟩ := answer_of_prompt hr
      exact .answer (.inr hs) (List.mem_append_right h hmem)
  . obtain ⟨rfl, rfl, rfl⟩ := runs_throw_iff.1 hr
    refine ⟨.refl, ?_⟩
    intro v hv
    cases hv

theorem resolveSource_bare (load : Loader bound) {e : KeyExpression}
    (he : e.source.marker.length + e.payload.length ≤ bound) (required : Bool)
    (hn : e.source = .bare) :
    resolveSource load e he required = throw (.key (.invalidKeyFormat e.payload)) := by
  unfold resolveSource
  split <;> simp_all

theorem applyTransform_follows (transform : Option String) (v : Value) :
    Follows l (applyTransform transform v) := by
  unfold applyTransform
  split
  . apply follows_pure
  . apply follows_ofExcept

theorem runs_applyTransform_ok_iff {e : KeyExpression} {v w : Value} :
    Runs (applyTransform e.transform v) s t (.ok w) s' ↔
      t = [] ∧ e.transformed v = .ok w ∧ s' = s := by
  unfold applyTransform KeyExpression.transformed
  cases e.transform with
  | none =>
    dsimp only
    rw [runs_pure_iff, Except.ok.injEq, Except.ok.injEq, eq_comm (a := w)]
  | some text => exact runs_ofExcept_ok_iff

/-- An expression under which nothing is remembered is resolved by moves. -/
theorem resolve_moves {key : String} {required : Bool} {r : Except OperationError Value}
    (ih : PartsFollow key.length) (hf : s.cache.find? key = none)
    (hr : Runs (resolve key (fun key _ => load key) required) s t r s') :
    Moves (Permit.ofKey key) h s t s' := by
  unfold resolve at hr
  split at hr
  . obtain ⟨rfl, -, rfl⟩ := runs_throw_iff.1 hr
    exact .refl
  . next e he =>
    have hle : (Permit.ofText e.payload.toList key.length).Le (Permit.ofKey key) :=
      Permit.ofText_le (KeyExpression.payload_subset he) (Nat.le_succ _)
    by_cases hn : e.source = .bare
    -- what has no source is not resolved
    . rw [resolveSource_bare _ _ _ hn] at hr
      obtain ⟨rfl, -, rfl⟩ := runs_throw_bind_iff.1 hr
      exact .refl
    . apply moves_bind _ _ hr
      . intro t r s₁ hsource
        exact (resolveSource_moves ih hsource).1.mono hle
      . intro v s₁ t₁ t₂ hsource hrest
        obtain ⟨hmoves, hgives⟩ := resolveSource_moves (h := h) ih hsource
        apply moves_bind _ _ hrest
        . intro t r s₂ htransform
          exact applyTransform_follows _ _ _ _ _ _ _ htransform
        . intro w s₂ t₃ t₄ htransform hremember
          obtain ⟨rfl, hw, rfl⟩ := runs_applyTransform_ok_iff.1 htransform
          rw [List.append_nil]
          apply moves_bind _ _ hremember
          . intro t r s₃ hr
            unfold remember at hr
            split at hr
            . next hc =>
              obtain ⟨rfl, -, rfl⟩ := runs_memoize_iff.1 hr
              apply Moves.single
              -- the parts are shorter than the expression, so that they do not remember its value
              have hnone := hmoves.find?_eq_none he hc hn (Nat.lt_irrefl _) hf
              exact .remembered key e w he ⟨v, hgives v rfl hc, hw⟩ (Nat.lt_succ_self _) hnone
            . obtain ⟨rfl, -, rfl⟩ := runs_pure_iff.1 hr
              exact .refl
          . intro _ s₃ t₅ t₆ _ hpure
            obtain ⟨rfl, -, rfl⟩ := runs_pure_iff.1 hpure
            exact .refl

theorem finish_follows (key : String) (kind : Option Kind) (required : Bool) (v : Value) :
    Follows l (finish key kind required v) := by
  unfold finish
  split
  . split
    . apply follows_throw
    . apply follows_pure
  . split
    . apply follows_pure
    . apply follows_ofExcept

theorem fetch_follows {key : String} (ih : PartsFollow key.length) (required : Bool) :
    Follows (Permit.ofKey key) (fetch key (fun key _ => load key) required) := by
  intro h s t r s' hr
  unfold fetch at hr
  rw [runs_get_bind_iff] at hr
  split at hr
  . obtain ⟨rfl, -, rfl⟩ := runs_pure_iff.1 hr
    exact .refl
  . next hf =>
    obtain ⟨r₀, -, hr⟩ := runs_within_iff.1 hr
    exact resolve_moves ih hf hr

end Load

/-- Loading an expression does only what its parts may do. -/
theorem load_follows (key : String) (kind : Option Kind) (required : Bool) :
    Follows (Permit.ofKey key) (load key kind required) := by
  -- a part is shorter than the expression
  induction hn : key.length using Nat.strongRecOn generalizing key kind required with
  | ind n ih =>
    have hparts : PartsFollow key.length := by
      intro k hk kind required
      exact ih k.length (by omega) k kind required rfl
    rw [load_eq_loadBy]
    unfold loadBy
    apply follows_bind
    . exact fetch_follows hparts required
    . intro v
      apply follows_bind
      . apply finish_follows
      . intro w
        apply follows_bind
        . apply follows_say
        . intro _
          apply follows_pure

end Session

end Registrar
