import Registrar.Proofs.Conduct.Operation

/-!
This module contains invariants of what has been put to the outside and of the session. Few
computations change what a session knows; what they keep is kept by everything that is composed of
them, whatever is loaded and carried out.
-/

namespace Registrar

def Query.asksResource : Query → Bool
  | .request _ (.resource _ _) => true
  | _ => false

namespace Engine

open Session

variable {α β : Type} {P : Trace → Session → Prop} {x : Engine α} {f : α → Engine β}

/-- Whatever is answered, the computation keeps a property of the history and the session. -/
def Keeps (P : Trace → Session → Prop) (x : Engine α) : Prop :=
  ∀ (h : Trace) (s : Session) (t : Trace) (r : Except OperationError α) (s' : Session),
    P h s → Runs x s t r s' → P (h ++ t) s'

theorem keeps_pure (a : α) : Keeps P (pure a : Engine α) := by
  intro h s t r s' hs hr
  obtain ⟨rfl, -, rfl⟩ := runs_pure_iff.1 hr
  rw [List.append_nil]
  exact hs

theorem keeps_throw (e : OperationError) : Keeps P (throw e : Engine α) := by
  intro h s t r s' hs hr
  obtain ⟨rfl, -, rfl⟩ := runs_throw_iff.1 hr
  rw [List.append_nil]
  exact hs

theorem keeps_ofExcept {ε : Type} (wrap : ε → OperationError) (x : Except ε α) :
    Keeps P (ofExcept wrap x) := by
  cases x with
  | ok a => apply keeps_pure
  | error e => apply keeps_throw

theorem keeps_bind (hx : Keeps P x) (hf : ∀ a, Keeps P (f a)) : Keeps P (x >>= f) := by
  intro h s t r s' hs hr
  rw [runs_bind_iff] at hr
  cases hr with
  | inl hr =>
    obtain ⟨a, s₁, t₁, t₂, rfl, h₁, h₂⟩ := hr
    rw [← List.append_assoc]
    exact hf a _ _ _ _ _ (hx _ _ _ _ _ hs h₁) h₂
  | inr hr =>
    obtain ⟨e, -, h₁⟩ := hr
    exact hx _ _ _ _ _ hs h₁

theorem keeps_within (wrap : OperationError → OperationError) (hx : Keeps P x) :
    Keeps P (within wrap x) := by
  intro h s t r s' hs hr
  obtain ⟨r₀, -, hr⟩ := runs_within_iff.1 hr
  exact hx _ _ _ _ _ hs hr

theorem keeps_get_bind {f : Session → Engine β} (hf : ∀ s, Keeps P (f s)) :
    Keeps P (get >>= f) := by
  intro h s t r s' hs hr
  rw [runs_get_bind_iff] at hr
  exact hf s _ _ _ _ _ hs hr

/-- The property is kept by queries, and by all that changes what is known: when an interface is read,
when a contract is bound for a role that has none, when a function makes something, and when an
expression is fetched whose source keeps the property. -/
structure Invariant (P : Trace → Session → Prop) : Prop where
  put {q : Query} (hq : q.asksResource = false) : Keeps P (put q)
  interface (resource : String) : Keeps P (interface resource)
  bindTo {h : Trace} {s : Session} {role : Role} (hb : s.bound? role = none) (c : Contract)
    (hs : P h s) : P h (s.bindTo c role)
  expiryAfter (timeout : Nat) : Keeps P (Builtin.expiryAfter timeout)
  saltFrom (seed : Bytes) : Keeps P (Builtin.saltFrom seed)
  fetch {key : String} {required : Bool}
    (hs : ∀ e he, Keeps P (resolveSource (fun k _ => load k : Loader key.length) e he required)) :
    Keeps P (fetch key (fun k _ => load k) required)

theorem Invariant.ask (hP : Invariant P) {q : Request} (hq : q.isPlain) : Keeps P (ask q) := by
  apply hP.put
  cases q with
  | resource name resource => cases hq
  | _ => rfl

end Engine

theorem Builtin.Composed.keeps {α : Type} {P : Trace → Session → Prop} {args : Arguments}
    {x : Engine α} (hx : Composed args x) (hP : Engine.Invariant P)
    (ha : ∀ name load, args name = some load →
      ∀ kind required, Engine.Keeps P (load kind required)) : Engine.Keeps P x := by
  induction hx with
  | pure a => apply Engine.keeps_pure
  | throw e he => apply Engine.keeps_throw
  | ask r hr => exact hP.ask hr
  | expiryAfter timeout => exact hP.expiryAfter timeout
  | saltFrom seed => exact hP.saltFrom seed
  | load h kind required => exact ha _ _ h kind required
  | bind _ _ ihx ihf => exact Engine.keeps_bind ihx ihf

namespace Session

open Engine

variable {α : Type} {P : Trace → Session → Prop} {h t : Trace} {s s' : Session}

theorem bind_keeps (hP : Invariant P) (role : Role) (name : String) (a : Address) (i : Interface) :
    Keeps P (bind role name a i) := by
  unfold bind
  apply keeps_bind (hP.put rfl)
  intro answer
  apply keeps_bind
  . apply keeps_ofExcept
  . intro hasCode
    split
    . apply keeps_pure
    . apply keeps_throw

/-- Reading an interface and asking for code bind nothing on the way to a contract that is bound. -/
theorem establish_keeps (hP : Invariant P) {role : Role} {name abi : String} {a : Address}
    {r : Except OperationError Contract} (hb : s.bound? role = none) (hs : P h s)
    (hr : Runs (do
      let i ← interface abi
      let c ← bind role name a i
      modify fun s => s.bindTo c role
      return c) s t r s') : P (h ++ t) s' := by
  obtain ⟨i, s₁, t₁, t₂, rfl, hi, hrest⟩ | ⟨e, -, hi⟩ := Engine.runs_bind_iff.1 hr
  . have hs₁ := hP.interface abi _ _ _ _ _ hs hi
    have hb₁ : s₁.bound? role = none := by
      rw [((interface_follows (l := .none) abi).steps (h := h) hi).bound?_eq not_false]
      exact hb
    rw [← List.append_assoc]
    obtain ⟨c, s₂, t₃, t₄, rfl, hc, hmodify⟩ | ⟨e, -, hc⟩ := Engine.runs_bind_iff.1 hrest
    . have hs₂ := bind_keeps hP role name a i _ _ _ _ _ hs₁ hc
      obtain ⟨x, rfl, -, rfl⟩ := runs_bind_contract_iff.1 hc
      rw [runs_modify_bind_iff] at hmodify
      obtain ⟨rfl, -, rfl⟩ := runs_pure_iff.1 hmodify
      rw [List.append_nil]
      exact hP.bindTo hb₁ c hs₂
    . exact bind_keeps hP role name a i _ _ _ _ _ hs₁ hc
  . exact hP.interface abi _ _ _ _ _ hs hi

theorem bindPrimary_keeps (hP : Invariant P) : Keeps P bindPrimary := by
  intro h s t r s' hs hr
  unfold bindPrimary at hr
  rw [runs_get_bind_iff] at hr
  split at hr
  . exact keeps_pure _ _ _ _ _ _ hs hr
  . next hb =>
    have hb : s.bound? .primary = none := hb
    rw [runs_get_bind_iff] at hr
    dsimp only at hr
    cases ha : s.spec.address with
    | error e =>
      rw [ha] at hr
      obtain ⟨rfl, -, rfl⟩ := runs_throw_bind_iff.1 hr
      rw [List.append_nil]
      exact hs
    | ok a =>
      rw [ha] at hr
      exact establish_keeps hP hb hs (runs_pure_bind_iff.1 hr)

theorem delegateAddress_keeps (d : Delegate) {getter : Engine Value} (hg : Keeps P getter) :
    Keeps P (delegateAddress d getter) := by
  unfold delegateAddress
  split
  . apply keeps_ofExcept
  . apply keeps_bind hg
    intro v
    split
    . apply keeps_pure
    . apply keeps_throw

theorem bindDelegate_keeps (hP : Invariant P) {name : String} (hname : '.' ∉ name.toList)
    (hg : Keeps P (load (getterKey name) (some .address) true)) :
    Keeps P (bindDelegate name (load (getterKey name) (some .address) true)) := by
  intro h s t r s' hs hr
  unfold bindDelegate at hr
  rw [runs_get_bind_iff] at hr
  split at hr
  . exact keeps_pure _ _ _ _ _ _ hs hr
  . next hb =>
    rw [runs_get_bind_iff] at hr
    split at hr
    . exact keeps_throw _ _ _ _ _ _ hs hr
    . next d hd =>
      have haddress : Keeps P (within (.delegateResolution name)
          (delegateAddress d (load (getterKey name) (some .address) true))) := by
        apply keeps_within
        exact delegateAddress_keeps d hg
      obtain ⟨a, s₁, t₁, t₂, rfl, ha, hr⟩ | ⟨e, -, ha⟩ := Engine.runs_bind_iff.1 hr
      . have hs₁ := haddress _ _ _ _ _ hs ha
        -- the getter may have bound other contracts, but not this one
        have hb₁ : s₁.bound? (.delegate name) = none := by
          have hsteps := (follows_within (.delegateResolution name)
            (delegateAddress_follows d (load_follows _ _ _))).steps (h := h) ha
          rw [hsteps.bound?_eq (not_binds_getterKey hname)]
          exact hb
        rw [← List.append_assoc]
        exact establish_keeps hP hb₁ hs₁ hr
      . exact haddress _ _ _ _ _ hs ha

section Call

variable {load : α → Option Kind → Engine Value}

theorem argument_keeps (hl : ∀ a kind, Keeps P (load a kind)) (p : Param) (a : α) :
    Keeps P (argument load p a) := by
  unfold argument
  split
  . apply keeps_throw
  . apply keeps_bind (hl a _)
    intro v
    apply keeps_ofExcept

theorem arguments_keeps (hl : ∀ a kind, Keeps P (load a kind)) (method : String)
    (position : Nat) (ps : List Param) (as : List α) :
    Keeps P (arguments load method position ps as) := by
  induction ps generalizing position as with
  | nil => apply keeps_pure
  | cons p ps ih =>
    cases as with
    | nil => apply keeps_pure
    | cons a as =>
      unfold arguments
      apply keeps_bind
      . apply keeps_within
        exact argument_keeps hl p a
      . intro v
        apply keeps_bind (ih _ _)
        intro vs
        apply keeps_pure

theorem calldata_keeps (hl : ∀ a kind, Keeps P (load a kind)) (m : Method) (as : List α) :
    Keeps P (calldata load m as) := by
  unfold calldata
  split
  . apply keeps_bind (arguments_keeps hl _ _ _ _)
    intro vs
    apply keeps_pure
  . apply keeps_throw

theorem readMethod_keeps (hP : Invariant P) (hl : ∀ a kind, Keeps P (load a kind)) (role : Role)
    (c : Contract) (name : String) (as : List α) : Keeps P (readMethod load role c name as) := by
  unfold readMethod
  apply keeps_bind
  . apply keeps_ofExcept
  . intro m
    apply keeps_bind (calldata_keeps hl m as)
    intro data
    apply keeps_bind
    . exact hP.put rfl
    . intro answer
      apply keeps_bind
      . apply keeps_ofExcept
      . intro output
        apply keeps_ofExcept

end Call

theorem prompt_keeps (hP : Invariant P) (key : String) (required hidden : Bool) :
    Keeps P (prompt key required hidden) := by
  unfold prompt
  apply keeps_bind (hP.ask rfl)
  intro answer
  apply keeps_bind
  . apply keeps_ofExcept
  . intro text
    apply keeps_pure

theorem setting_keeps (hP : Invariant P) (name : String) (required : Bool) :
    Keeps P (setting name required) := by
  unfold setting
  apply keeps_bind (hP.ask rfl)
  intro answer
  split
  . apply keeps_pure
  . apply prompt_keeps hP

section Load

variable {bound : Nat}

/-- Loading the parts of an expression keeps the property. -/
abbrev PartsKeep (P : Trace → Session → Prop) (bound : Nat) : Prop :=
  ∀ key : String, key.length < bound → ∀ kind required, Keeps P (load key kind required)

theorem resolveCall_keeps (hP : Invariant P) (ih : PartsKeep P bound) (payload : String)
    (hp : KeySource.call.marker.length + payload.length ≤ bound) :
    Keeps P (resolveCall (fun k _ => load k : Loader bound) payload hp) := by
  have hargument (a : { a // a ∈ (Invocation.read payload).arguments }) (kind : Option Kind) :
      Keeps P (load a.1 kind true) := by
    have := Invocation.length_lt_of_mem_arguments a.2
    apply ih
    omega
  unfold resolveCall
  dsimp only
  split
  . next delegate method hs =>
    obtain ⟨-, hdelegate⟩ := Operation.splitCallee?_eq_some hs
    have hlength := length_getterKey hs
    have hcallee := Invocation.length_callee_le payload
    apply keeps_bind
    . apply bindDelegate_keeps hP hdelegate
      apply ih
      omega
    . intro c
      exact readMethod_keeps hP hargument _ _ _ _
  . apply keeps_bind (bindPrimary_keeps hP)
    intro c
    exact readMethod_keeps hP hargument _ _ _ _

theorem resolveBuiltin_keeps (hP : Invariant P) (ih : PartsKeep P bound) (payload : String)
    (hp : payload.length ≤ bound) :
    Keeps P (resolveBuiltin (fun k _ => load k : Loader bound) payload hp) := by
  unfold resolveBuiltin
  split
  . apply keeps_throw
  . next c hc =>
    apply (Builtin.run_composed c.builtin).keeps hP
    intro name part hpart kind required
    dsimp only at hpart
    split at hpart
    . cases hpart
    . next key hkey =>
      cases hpart
      have := BuiltinCall.length_lt_of_parameter hc hkey
      apply ih
      omega

theorem resolveSource_keeps (hP : Invariant P) (ih : PartsKeep P bound) (e : KeyExpression)
    (he : e.source.marker.length + e.payload.length ≤ bound) (required : Bool) :
    Keeps P (resolveSource (fun k _ => load k : Loader bound) e he required) := by
  unfold resolveSource
  split
  . apply resolveCall_keeps hP ih
  . apply setting_keeps hP
  . apply keeps_pure
  . apply resolveBuiltin_keeps hP ih
  . apply prompt_keeps hP
  . apply keeps_throw

theorem applyTransform_keeps (transform : Option String) (v : Value) :
    Keeps P (applyTransform transform v) := by
  unfold applyTransform
  split
  . apply keeps_pure
  . apply keeps_ofExcept

theorem finish_keeps (key : String) (kind : Option Kind) (required : Bool) (v : Value) :
    Keeps P (finish key kind required v) := by
  unfold finish
  split
  . split
    . apply keeps_throw
    . apply keeps_pure
  . split
    . apply keeps_pure
    . apply keeps_ofExcept

end Load

theorem load_keeps (hP : Invariant P) (key : String) (kind : Option Kind) (required : Bool) :
    Keeps P (load key kind required) := by
  -- a part is shorter than the expression
  induction hn : key.length using Nat.strongRecOn generalizing key kind required with
  | ind n ih =>
    have hparts : PartsKeep P key.length := by
      intro k hk kind required
      exact ih k.length (by omega) k kind required rfl
    rw [load_eq_loadBy]
    unfold loadBy
    apply keeps_bind
    . apply hP.fetch
      intro e he
      exact resolveSource_keeps hP hparts e he required
    . intro v
      refine keeps_bind (finish_keeps key kind required v) ?_
      intro w
      apply keeps_bind (hP.put rfl)
      intro _
      apply keeps_pure

theorem operation_keeps (name : String) : Keeps P (operation name) := by
  unfold operation
  apply keeps_get_bind
  intro s
  split
  . apply keeps_pure
  . apply keeps_throw

theorem callee_keeps (hP : Invariant P) (o : Operation) (given : Option (List String)) :
    Keeps P (callee o given) := by
  unfold callee
  split
  . apply keeps_pure
  . apply keeps_bind (bindPrimary_keeps hP)
    intro c
    apply keeps_pure
  . next name method ho =>
    obtain ⟨-, hname⟩ := Operation.splitCallee?_eq_some (Operation.splitCallee?_of_target ho)
    apply keeps_bind (bindPrimary_keeps hP)
    intro primary
    apply keeps_bind
    . apply bindDelegate_keeps hP hname
      apply load_keeps hP
    . intro c
      apply keeps_get_bind
      intro s
      apply keeps_pure

theorem execute_keeps (hP : Invariant P) (name : String) : Keeps P (execute name) := by
  unfold execute
  refine keeps_bind (operation_keeps name) ?_
  intro o
  apply keeps_bind (callee_keeps hP o none)
  intro c
  split
  . apply keeps_pure
  . next c =>
    apply keeps_bind
    . apply keeps_ofExcept
    . intro m
      apply keeps_bind
      . apply calldata_keeps
        intro key kind
        apply load_keeps hP
      . intro data
        apply keeps_bind
        . exact hP.put rfl
        . intro answer
          apply keeps_bind
          . apply keeps_ofExcept
          . intro outcome
            apply keeps_pure

theorem call_keeps (hP : Invariant P) (name : String) (given : Option (List String)) :
    Keeps P (call name given) := by
  unfold call
  refine keeps_bind (operation_keeps name) ?_
  intro o
  apply keeps_bind (callee_keeps hP o given)
  intro c
  split
  . apply keeps_pure
  . next c =>
    apply keeps_bind
    . apply readMethod_keeps hP
      intro key kind
      apply load_keeps hP
    . intro v
      refine keeps_bind (applyTransform_keeps _ v) ?_
      intro w
      apply keeps_pure

theorem status_keeps (hP : Invariant P) : Keeps P status := by
  unfold status
  apply keeps_bind (call_keeps hP _ none)
  intro outcome
  split
  . apply keeps_pure
  . apply keeps_bind
    . apply keeps_ofExcept
    . intro i
      apply keeps_pure

theorem Task.engine_keeps (hP : Invariant P) (task : Task) : Keeps P task.engine := by
  cases task with
  | load key kind required => exact load_keeps hP key kind required
  | execute name => exact execute_keeps hP name
  | call name given => exact call_keeps hP name given
  | status => exact status_keeps hP

/-- An invariant that holds before anything has been done holds whatever is done. -/
theorem Run.keeps {tasks : List Task} {t : Trace} {s s' : Session} (hP : Invariant P)
    (hs : P [] s) (hr : Run s tasks t s') : P t s' := by
  induction hr with
  | nil => exact hs
  | snoc _ hu ih => exact Task.engine_keeps hP _ _ _ _ _ _ ih hu

end Session

end Registrar
