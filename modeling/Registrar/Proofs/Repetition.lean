import Registrar.Proofs.Answering
import Registrar.Proofs.Conduct.Reading
import Registrar.Proofs.Delegation

/-!
This module contains that the values a session remembers could be had again. With a partner who
answers equal queries alike, what has been given for an expression is given for it ever after, as long
as the expressions in it are remembered too and no record of another expression meets one of them.
-/

namespace Registrar

namespace KeyExpression

/-- The expressions that are arguments of an expression. -/
def parts (e : KeyExpression) : List String :=
  match e.source with
  | .call => (Invocation.read e.payload).arguments
  | _ => []

theorem parts_of_call {e : KeyExpression} (hs : e.source = .call) :
    e.parts = (Invocation.read e.payload).arguments := by
  unfold parts
  rw [hs]

/-- What comes of a text is remembered under it. -/
def Lasting (key : String) : Prop :=
  ∃ e, read? key = some e ∧ e.isCacheable ∧ e.source ≠ .bare

end KeyExpression

namespace Session

open Engine KeyExpression

variable {answer : (q : Query) → q.Reply} {h t : Trace} {s s' : Session} {key : String}
  {e : KeyExpression} {required : Bool} {v w : Value}

/-- All arguments are remembered, as what is encoded for their parameters. -/
inductive Recalled (s : Session) : List Param → List String → List AbiValue → Prop where
  | nil : Recalled s [] [] []
  | cons {p : Param} {a : String} {ps : List Param} {as : List String} {type : AbiType}
      {v w : Value} {x : AbiValue} {xs : List AbiValue} (hp : p.resolve = some type)
      (hf : s.cache.find? a = some w) (hv : w.FinishedAs type.kind? true v)
      (hx : v.encodeAs type p.components = .ok x) (hr : Recalled s ps as xs) :
      Recalled s (p :: ps) (a :: as) (x :: xs)

section Recalled

variable {ps : List Param} {as : List String} {xs : List AbiValue}

theorem Recalled.mono (hr : Recalled s ps as xs)
    (ha : ∀ a ∈ as, ∀ w, s.cache.find? a = some w → s'.cache.find? a = some w) :
    Recalled s' ps as xs := by
  induction hr with
  | nil => exact .nil
  | cons hp hf hv hx _ ih =>
    obtain ⟨hhead, htail⟩ := List.forall_mem_cons.1 ha
    exact .cons hp (hhead _ hf) hv hx (ih htail)

/-- Arguments that have been loaded are remembered, if what comes of them is. -/
theorem Encoded.recalled (hw : Encoded loadParameter ps as s t xs s') (hl : ∀ a ∈ as, Lasting a)
    (hk : ∀ a ∈ as, ¬ Shared (h ++ t) s' a) : Recalled s' ps as xs := by
  induction hw generalizing h with
  | nil => exact .nil
  | @cons p a ps as s s₁ s₂ t u type v x xs hp hv hx hs ih =>
    obtain ⟨⟨e, he, hc, hn⟩, hl⟩ := List.forall_mem_cons.1 hl
    rw [← List.append_assoc] at hk
    obtain ⟨hka, hk⟩ := List.forall_mem_cons.1 hk
    obtain ⟨w, hf, hw⟩ := find?_of_load he hc hv
    exact .cons hp (hs.moves.find?_eq_some he hc hn hka hf) hw hx (ih hl hk)

/-- Arguments that are remembered are loaded without anything being asked. -/
theorem Recalled.encoded (answer : (q : Query) → q.Reply) {α : Type} {f : α → String}
    {as : List α} (hr : Recalled s ps (as.map f) xs) :
    ∃ t, t.AnsweredBy answer ∧ Encoded (fun a => loadParameter (f a)) ps as s t xs s := by
  induction as generalizing ps xs with
  | nil =>
    cases hr
    exact ⟨[], List.forall_mem_nil _, .nil s⟩
  | cons a as ih =>
    rw [List.map_cons] at hr
    cases hr with
    | cons hp hf hv hx hr =>
      obtain ⟨t, ht, hs⟩ := ih hr
      have hload := (runs_load_some_iff hf).2 ⟨rfl, hv, rfl⟩
      refine ⟨_, ?_, .cons hp hload hx hs⟩
      exact Trace.answeredBy_append_iff.2 ⟨Event.loaded_answeredBy answer (f a) _, ht⟩

end Recalled

/-- What the source of an expression gives in a session, whenever it is asked. -/
inductive Repeatable (answer : (q : Query) → q.Reply) (s : Session) (e : KeyExpression) :
    Value → Prop where
  | given {required : Bool} {v : Value} (h : given? answer e required = some v) :
      Repeatable answer s e v
  | read {role : Role} {name : String} {c : Contract} {m : Method} {xs : List AbiValue}
      {output : Bytes} {v : Value} (hs : e.source = .call)
      (ht : (Invocation.read e.payload).target = (role, name)) (hc : s.bound? role = some c)
      (hm : c.method name (some (Invocation.read e.payload).arguments.length) = .ok m)
      (ha : Recalled s m.inputs (Invocation.read e.payload).arguments xs)
      (ho : returned answer role c.address (m.selector ++ Abi.encode xs) = .ok output)
      (hv : firstOutput m output = .ok v) : Repeatable answer s e v

theorem Repeatable.mono (hv : Repeatable answer s e v)
    (hb : ∀ role c, s.bound? role = some c → s'.bound? role = some c)
    (ha : ∀ a ∈ e.parts, ∀ w, s.cache.find? a = some w → s'.cache.find? a = some w) :
    Repeatable answer s' e v := by
  cases hv with
  | given h => exact .given h
  | read hs ht hc hm hr ho hv =>
    rw [parts_of_call hs] at ha
    exact .read hs ht (hb _ _ hc) hm (hr.mono ha) ho hv

theorem runs_bindPrimary_of_bound {c : Contract} (hc : s.bound? .primary = some c) :
    Runs bindPrimary s [] (.ok c) s := by
  have hc : s.primary = some c := hc
  unfold bindPrimary
  rw [runs_get_bind_iff, hc]
  exact runs_pure_iff.2 ⟨rfl, rfl, rfl⟩

theorem runs_bindDelegate_of_bound {name : String} {c : Contract} {getter : Engine Value}
    (hc : s.bound? (.delegate name) = some c) : Runs (bindDelegate name getter) s [] (.ok c) s := by
  have hc : Assoc.find? name s.delegates = some c := hc
  unfold bindDelegate
  rw [runs_get_bind_iff, hc]
  exact runs_pure_iff.2 ⟨rfl, rfl, rfl⟩

section Source

variable {bound : Nat} {payload : String}

theorem value?_readMethod {α : Type} {f : α → String} {as : List α} {role : Role} {c : Contract}
    {name : String} {m : Method} {xs : List AbiValue} {output : Bytes}
    (hm : c.method name (some as.length) = .ok m) (ha : Recalled s m.inputs (as.map f) xs)
    (ho : returned answer role c.address (m.selector ++ Abi.encode xs) = .ok output)
    (hv : firstOutput m output = .ok v) :
    value? answer (readMethod (fun a => loadParameter (f a)) role c name as) s = some v := by
  obtain ⟨u, hu, hw⟩ := ha.encoded answer
  rw [value?_eq_some_iff]
  refine ⟨_, s, ?_, runs_readMethod_ok_iff.2 ⟨m, xs, output, u, hm, hw, hv, rfl⟩⟩
  exact Trace.answeredBy_append_iff.2 ⟨hu, Trace.answeredBy_singleton_iff.2 ho⟩

/-- A method is read again without its contract being bound again, and with the same arguments. -/
theorem value?_resolveCall {role : Role} {name : String} {c : Contract} {m : Method}
    {xs : List AbiValue} {output : Bytes}
    (hp : KeySource.call.marker.length + payload.length ≤ bound)
    (ht : (Invocation.read payload).target = (role, name)) (hc : s.bound? role = some c)
    (hm : c.method name (some (Invocation.read payload).arguments.length) = .ok m)
    (ha : Recalled s m.inputs (Invocation.read payload).arguments xs)
    (ho : returned answer role c.address (m.selector ++ Abi.encode xs) = .ok output)
    (hv : firstOutput m output = .ok v) :
    value? answer (resolveCall (fun k _ => load k : Loader bound) payload hp) s = some v := by
  rw [← List.length_attach] at hm
  rw [← List.attach_map_subtype_val (Invocation.read payload).arguments] at ha
  unfold resolveCall
  dsimp only
  split
  . next delegate method hs =>
    rw [Invocation.target_of_some hs] at ht
    cases ht
    refine (value?_bind (runs_bindDelegate_of_bound hc) (List.forall_mem_nil _)).trans ?_
    exact value?_readMethod hm ha ho hv
  . next hs =>
    rw [Invocation.target_of_none hs] at ht
    cases ht
    refine (value?_bind (runs_bindPrimary_of_bound hc) (List.forall_mem_nil _)).trans ?_
    exact value?_readMethod hm ha ho hv

/-- What can be had again is had again, unless the operator answers otherwise if a value is required
than if none is. -/
theorem value?_of_repeatable (hv : Repeatable answer s e v)
    (he : e.source.marker.length + e.payload.length ≤ bound)
    (hg : given? answer e true = given? answer e false) :
    value? answer (resolveSource (fun k _ => load k : Loader bound) e he required) s = some v := by
  cases hv with
  | @given required' v h =>
    have hsource : e.source ≠ .call ∧ e.source ≠ .func := by
      unfold given? at h
      constructor
      . intro hs
        simp [hs] at h
      . intro hs
        simp [hs] at h
    rw [value?_resolveSource he hsource.1 hsource.2, ← h]
    cases required <;> cases required' <;> simp [hg]
  | read hs ht hc hm ha ho hv =>
    obtain ⟨source, payload, transform⟩ := e
    cases hs
    exact value?_resolveCall he ht hc hm ha ho hv

/-- What has been read can be read again, if the arguments are remembered. -/
theorem Reading.repeatable (hs : e.source = .call) (r : Reading e.payload s t v)
    (htarget : (Invocation.read e.payload).target = (r.role, r.name)) (ht : t.AnsweredBy answer)
    (hl : ∀ a ∈ e.parts, Lasting a) (hk : ∀ a ∈ e.parts, ¬ Shared (h ++ t) r.encoded a) :
    Repeatable answer r.encoded e v := by
  have htrace := r.trace_eq
  rw [parts_of_call hs] at hl hk
  have hrecalled : Recalled r.encoded r.method.inputs (Invocation.read e.payload).arguments
      r.values := by
    apply r.values_encoded.recalled (h := h ++ r.binding) hl
    intro a ha hshared
    apply hk a ha (hshared.mono _ fun _ _ => id)
    intro x hx
    rw [htrace, ← List.append_assoc, ← List.append_assoc]
    exact List.mem_append_left _ hx
  have hbound := (r.values_encoded.moves (h := h)).steps.bound?_eq_some r.bound_eq
  rw [htrace, Trace.answeredBy_append_iff, Trace.answeredBy_append_iff] at ht
  have ho := Trace.answeredBy_singleton_iff.1 ht.2.2
  exact .read hs htarget hbound r.method_eq hrecalled ho r.output_eq

/-- What has been given can be had again, if the arguments are remembered. -/
theorem repeatable_of_runs {he : e.source.marker.length + e.payload.length ≤ bound}
    (hr : Runs (resolveSource (fun k _ => load k : Loader bound) e he required) s t (.ok v) s')
    (ht : t.AnsweredBy answer) (hc : e.isCacheable) (hl : ∀ a ∈ e.parts, Lasting a)
    (hk : ∀ a ∈ e.parts, ¬ Shared (h ++ t) s' a) : Repeatable answer s' e v := by
  by_cases hcall : e.source = .call
  . have hp : KeySource.call.marker.length + e.payload.length ≤ bound := by
      rw [hcall] at he
      exact he
    have hr : Runs (resolveCall (fun k _ => load k : Loader bound) e.payload hp) s t (.ok v) s' := by
      obtain ⟨source, payload, transform⟩ := e
      cases hcall
      exact hr
    obtain ⟨r, rfl, htarget⟩ := reading_of_resolveCall hp hr
    exact r.repeatable hcall htarget ht hl hk
  . have hfunc : e.source ≠ .func := by simpa [KeyExpression.isCacheable] using hc
    have hv := value?_eq_some_iff.2 ⟨t, s', ht, hr⟩
    rw [value?_resolveSource he hcall hfunc] at hv
    exact .given hv

end Source

/-- What is remembered under an expression could be had again, if its arguments are remembered and no
record of another expression has a field under them. -/
def Backed (answer : (q : Query) → q.Reply) (key : String) (e : KeyExpression) (h : Trace)
    (s : Session) : Prop :=
  h.AnsweredBy answer → (∀ q ∈ key :: e.parts, ¬ Shared h s q) →
    ∀ w, s.cache.find? key = some w → ∃ v, Repeatable answer s e v ∧ e.transformed v = .ok w

theorem Repeatable.after (hv : Repeatable answer s e v) (hl : ∀ a ∈ e.parts, Lasting a)
    (hu : Moves .all h s t s') (hk : ∀ a ∈ e.parts, ¬ Shared (h ++ t) s' a) :
    Repeatable answer s' e v := by
  apply hv.mono
  . intro role c hc
    exact hu.steps.bound?_eq_some hc
  . intro a ha w hw
    obtain ⟨f, hf, hc, hn⟩ := hl a ha
    exact hu.find?_eq_some hf hc hn (hk a ha) hw

/-- What is remembered is backed by what backed it before, after moves by which it has not come to be
remembered. -/
theorem Backed.after (hs : Backed answer key e h s) (hl : ∀ a ∈ e.parts, Lasting a)
    (hu : Moves .all h s t s')
    (hf : ¬ Shared (h ++ t) s' key → ∀ w, s'.cache.find? key = some w → s.cache.find? key = some w) :
    Backed answer key e (h ++ t) s' := by
  intro ht hk w hw
  have hk' : ∀ q ∈ key :: e.parts, ¬ Shared h s q := by
    intro q hq hshared
    apply hk q hq
    exact hshared.mono (List.subset_append_left h t) fun _ _ => hu.steps.bound?_eq_some
  obtain ⟨hkey, hparts⟩ := List.forall_mem_cons.1 hk
  obtain ⟨v, hv, hw⟩ := hs (Trace.answeredBy_append_iff.1 ht).1 hk' w (hf hkey w hw)
  exact ⟨v, hv.after hl hu hparts, hw⟩

/-- How an expression is fetched: it is remembered, or it resolves in vain, or it has come to be
remembered in the end, unless it calls a function. -/
inductive Fetched (key : String) (required : Bool) (s : Session) : Trace → Session → Prop where
  | still : Fetched key required s [] s
  | unresolved {e : KeyExpression} {he : e.source.marker.length + e.payload.length ≤ key.length}
      {t : Trace} {r : Except OperationError Value} {s' : Session}
      (hr : Runs (resolveSource (fun k _ => load k : Loader key.length) e he required) s t r s') :
      Fetched key required s t s'
  | resolved {e : KeyExpression} {t : Trace} {v w : Value} {s' : Session}
      (hf : s.cache.find? key = none) (he : KeyExpression.read? key = some e) (hc : e.isCacheable)
      (hr : Runs (resolveSource (fun k _ => load k : Loader key.length) e
        (KeyExpression.length_of_read? he) required) s t (.ok v) s')
      (hw : e.transformed v = .ok w) :
      Fetched key required s t { s' with cache := s'.cache.memoize key w }

theorem fetched_of_runs {r : Except OperationError Value}
    (hr : Runs (fetch key (fun k _ => load k) required) s t r s') : Fetched key required s t s' := by
  cases hf : s.cache.find? key with
  | some w =>
    obtain ⟨rfl, -, rfl⟩ := (runs_fetch_some_iff hf).1 hr
    exact .still
  | none =>
    cases r with
    | ok w =>
      have hresolve := (runs_fetch_none_iff hf).1 hr
      obtain ⟨e, he⟩ := exists_of_runs_resolve_ok hresolve
      obtain ⟨v, s₁, hsource, hw, rfl⟩ := (runs_resolve_ok_iff he).1 hresolve
      split
      . next hc => exact .resolved hf he hc hsource hw
      . exact .unresolved hsource
    | error x =>
      obtain ⟨x', -, hresolve⟩ := (runs_fetch_error_iff hf).1 hr
      obtain ⟨rfl, rfl⟩ | ⟨e, he, r, hsource⟩ := runs_resolve_error hresolve
      . exact .still
      . exact .unresolved hsource

theorem Backed.of_follows {α : Type} {x : Engine α} (he : KeyExpression.read? key = some e)
    (hc : e.isCacheable) (hn : e.source ≠ .bare) (hl : ∀ a ∈ e.parts, Lasting a)
    (hx : Follows .none x) : Keeps (Backed answer key e) x := by
  intro h s t r s' hs hr
  have hu : Moves .none h s t s' := hx _ _ _ _ _ hr
  apply hs.after hl (hu.mono (Permit.le_all _))
  intro hk w hw
  cases hf : s.cache.find? key with
  | some w' => rw [← hu.find?_eq_some he hc hn hk hf, hw]
  | none =>
    cases hu.find?_eq_none he hc hn id hf with
    | inl hnone =>
      rw [hw] at hnone
      cases hnone
    | inr hshared => exact absurd hshared hk

/-- What has been remembered of an expression is backed by what its source has given. -/
theorem backed_of_resolved {bound : Nat}
    {he : e.source.marker.length + e.payload.length ≤ bound} (hc : e.isCacheable)
    (hl : ∀ a ∈ e.parts, Lasting a)
    (hr : Runs (resolveSource (fun k _ => load k : Loader bound) e he required) s t (.ok v) s')
    (hw : e.transformed v = .ok w)
    (hu : Moves .all (h ++ t) s' [] { s' with cache := s'.cache.memoize key w }) :
    Backed answer key e (h ++ t) { s' with cache := s'.cache.memoize key w } := by
  intro ht hk w' hw'
  rw [Cache.find?_memoize_self] at hw'
  cases hw'
  obtain ⟨-, hparts⟩ := List.forall_mem_cons.1 hk
  have hv : Repeatable answer s' e v := by
    apply repeatable_of_runs hr (Trace.answeredBy_append_iff.1 ht).2 hc hl
    intro a ha hshared
    exact hparts a ha (hshared.mono (List.Subset.refl _) fun _ _ => id)
  refine ⟨v, hv.after hl hu ?_, hw⟩
  rw [List.append_nil]
  exact hparts

/-- An expression is backed as before when another one has been remembered. -/
theorem Backed.remembered {key' : String} (hs : Backed answer key e h s)
    (hl : ∀ a ∈ e.parts, Lasting a) (hkey : key ≠ key') {f : KeyExpression}
    (hread : KeyExpression.read? key' = some f) (hyields : Yields h s f w)
    (hu : Moves .all h s [] { s with cache := s.cache.memoize key' w }) :
    Backed answer key e h { s with cache := s.cache.memoize key' w } := by
  rw [← List.append_nil h]
  apply hs.after hl hu
  intro hk w' hw'
  dsimp only at hw'
  rw [Cache.find?_memoize_of_not_mem _ hkey] at hw'
  . exact hw'
  . intro hmem
    apply hk
    rw [List.append_nil]
    have hshared : Shared h s key := ⟨key', f, w, Ne.symm hkey, hread, hyields, hmem⟩
    exact hshared.mono (List.Subset.refl _) fun _ _ => id

theorem Backed.fetched {key' : String} (he : KeyExpression.read? key = some e)
    (hc : e.isCacheable) (hl : ∀ a ∈ e.parts, Lasting a) (hs : Backed answer key e h s)
    (hsource : ∀ f hf,
      Keeps (Backed answer key e)
        (resolveSource (fun k _ => load k : Loader key'.length) f hf required))
    (hu : Fetched key' required s t s') : Backed answer key e (h ++ t) s' := by
  cases hu with
  | still =>
    rw [List.append_nil]
    exact hs
  | unresolved hr => exact hsource _ _ _ _ _ _ _ hs hr
  | @resolved f t v w s' hf hread hcacheable hr hw =>
    have hparts : PartsFollow key'.length := fun k _ kind required => load_follows k kind required
    obtain ⟨hmoves, hgives⟩ := resolveSource_moves (h := h) hparts hr
    have hgives := hgives v rfl hcacheable
    have hyields : Yields (h ++ t) s' f w := ⟨v, hgives, hw⟩
    -- the parts are shorter than the expression, so that they do not remember its value
    have hnone := hmoves.find?_eq_none hread hcacheable hgives.source.2 (Nat.lt_irrefl _) hf
    have hmove : Moves .all (h ++ t) s' [] { s' with cache := s'.cache.memoize key' w } :=
      .single (.remembered key' f w hread hyields trivial hnone)
    by_cases hkey : key = key'
    . subst hkey
      rw [he] at hread
      cases hread
      exact backed_of_resolved hc hl hr hw hmove
    . have hs₁ := hsource f _ _ _ _ _ _ hs hr
      exact hs₁.remembered hl hkey hread hyields hmove

theorem Backed.bindTo {role : Role} (hb : s.bound? role = none) (c : Contract)
    (hs : Backed answer key e h s) : Backed answer key e h (s.bindTo c role) := by
  have hbound (r : Role) (c' : Contract) (hc' : s.bound? r = some c') :
      (s.bindTo c role).bound? r = some c' := by
    rw [bound?_bindTo, if_neg]
    . exact hc'
    . intro heq
      rw [heq, hb] at hc'
      cases hc'
  intro ht hk w hw
  rw [cache_bindTo] at hw
  obtain ⟨v, hv, hw⟩ := hs ht (fun q hq hshared => hk q hq (hshared.mono (fun _ => id) hbound)) w hw
  refine ⟨v, hv.mono hbound ?_, hw⟩
  intro a _ w hw
  rw [cache_bindTo]
  exact hw

/-- Whatever is done, what is remembered stays backed. -/
theorem backed_invariant (he : KeyExpression.read? key = some e) (hc : e.isCacheable)
    (hn : e.source ≠ .bare) (hl : ∀ a ∈ e.parts, Lasting a) : Invariant (Backed answer key e) where
  put hq := by
    intro h s t r s' hs hr
    obtain ⟨x, rfl, -, rfl⟩ := runs_put_iff.1 hr
    intro ht hk
    apply hs (Trace.answeredBy_append_iff.1 ht).1
    intro q hq hshared
    exact hk q hq (hshared.mono (List.subset_append_left _ _) fun _ _ => id)
  interface resource := Backed.of_follows he hc hn hl (interface_follows resource)
  bindTo hb c hs := hs.bindTo hb c
  expiryAfter timeout := by
    have hx : Builtin.Composed (fun _ => none) (Builtin.expiryAfter timeout) := .expiryAfter timeout
    exact Backed.of_follows he hc hn hl (hx.follows nofun)
  saltFrom seed := by
    have hx : Builtin.Composed (fun _ => none) (Builtin.saltFrom seed) := .saltFrom seed
    exact Backed.of_follows he hc hn hl (hx.follows nofun)
  fetch hs := by
    intro h s t r s' hb hr
    exact hb.fetched he hc hl hs (fetched_of_runs hr)

end Session

end Registrar
