import Registrar.Proofs.Execution
import Registrar.Proofs.Resolution

/-!
This module contains the permanence of what a session remembers: nothing that is done in it forgets a
value, so that an expression that has been resolved once is loaded without any request ever after,
whatever has failed in the meantime and whatever the value is to be converted to.
-/

namespace Registrar

def Event.isRequest (e : Event) : Bool :=
  match e.1 with
  | .request _ _ => true
  | .remark _ => false

/-- Nothing is requested. -/
def Trace.Silent (t : Trace) : Prop :=
  ∀ e ∈ t, ¬ e.isRequest

namespace Session

open Engine

variable {l : Licence} {h t u : Trace} {s s' : Session} {key q : String} {kind : Option Kind}
  {required : Bool} {v w : Value}

theorem Step.isSome_find? (hs : Step l h s t s') (hq : (s.cache.find? q).isSome) :
    (s'.cache.find? q).isSome := by
  cases hs with
  | dated time timeout => exact Cache.isSome_find?_store _ _ _ hq
  | salted seed time => exact Cache.isSome_find?_store _ _ _ hq
  | bound role c =>
    rw [cache_bindTo]
    exact hq
  | memoized key e v => exact Cache.isSome_find?_memoize hq key v
  | _ => exact hq

theorem Steps.isSome_find? (hs : Steps l h s t s') (hq : (s.cache.find? q).isSome) :
    (s'.cache.find? q).isSome := by
  induction hs with
  | refl => exact hq
  | tail _ hu ih => exact hu.isSome_find? ih

/-- The load of an expression that is remembered requests nothing and changes nothing, even if it
fails. -/
theorem silent_of_find?_eq_some {r : Except OperationError Value}
    (hf : s.cache.find? key = some w) (hr : Runs (load key kind required) s t r s') :
    t.Silent ∧ s' = s := by
  have hnil : Trace.Silent [] := nofun
  rw [load_eq_loadBy] at hr
  unfold loadBy at hr
  have hfetch : ∀ t r s',
      Runs (fetch key (fun k _ => load k) required) s t r s' ↔ t = [] ∧ r = .ok w ∧ s' = s := by
    intro t r s'
    exact runs_fetch_some_iff hf
  rw [runs_bind_of_ok hfetch, runs_bind_iff] at hr
  cases hr with
  | inl hr =>
    obtain ⟨v, s₁, t₁, t₂, rfl, hfinish, hr⟩ := hr
    obtain ⟨rfl, rfl⟩ := still_of_finish hfinish
    rw [runs_bind_iff] at hr
    cases hr with
    | inl hr =>
      obtain ⟨a, s₂, t₃, t₄, rfl, hsay, hpure⟩ := hr
      obtain ⟨rfl, -, rfl⟩ := runs_say_iff.1 hsay
      obtain ⟨rfl, -, rfl⟩ := runs_pure_iff.1 hpure
      simp [Trace.Silent, Event.isRequest]
    | inr hr =>
      obtain ⟨e, -, hsay⟩ := hr
      obtain ⟨-, he, -⟩ := runs_say_iff.1 hsay
      cases he
  | inr hr =>
    obtain ⟨e, -, hfinish⟩ := hr
    obtain ⟨rfl, rfl⟩ := still_of_finish hfinish
    exact ⟨hnil, rfl⟩

theorem isSome_find?_of_resolve (hfunc : ∀ e, KeyExpression.read? key = some e → e.source ≠ .func)
    (hr : Runs (resolve key (fun k _ => load k) required) s t (.ok v) s') :
    (s'.cache.find? key).isSome := by
  cases he : KeyExpression.read? key with
  | none =>
    unfold resolve at hr
    split at hr
    . cases (runs_throw_iff.1 hr).2.1
    . next e he' =>
      rw [he] at he'
      cases he'
  | some e =>
    obtain ⟨w, s₁, -, -, hs⟩ := (runs_resolve_ok_iff he).1 hr
    have hc : e.isCacheable := by
      simp [KeyExpression.isCacheable, hfunc e he]
    rw [hs, if_pos hc, Cache.find?_memoize_self]
    rfl

/-- From the moment on when an expression other than a function has been resolved, however the load
around it ends, and whatever is done in the session, it is loaded without a request, and without a
change to what the session knows. -/
theorem load_silent_of_resolve (hfunc : ∀ e, KeyExpression.read? key = some e → e.source ≠ .func)
    {s₁ s₂ : Session} (hr : Runs (resolve key (fun k _ => load k) required) s t (.ok v) s₁)
    (hs : Steps .all h s₁ u s₂) (kind : Option Kind) (required' : Bool) {t' : Trace}
    {r : Except OperationError Value} {s₃ : Session}
    (hl : Runs (load key kind required') s₂ t' r s₃) : t'.Silent ∧ s₃ = s₂ := by
  have hkept : (s₂.cache.find? key).isSome := hs.isSome_find? (isSome_find?_of_resolve hfunc hr)
  obtain ⟨w, hw⟩ := Option.isSome_iff_exists.1 hkept
  exact silent_of_find?_eq_some hw hl

/-- A number that has been read, but is too large for the kind it is loaded as, is not read again. -/
theorem load_silent_of_resolve_registering :
    ∃ t v s₁ u r s₂,
      Runs (resolve "call:r" (fun k _ => load k) true) (start registering {}) t (.ok v) s₁ ∧
      Runs (load "call:r" (some (.uint 8)) true) s₁ u r s₂ ∧ r.isOk = false ∧
      ∀ kind required t' r' s₃, Runs (load "call:r" kind required) s₂ t' r' s₃ →
        t'.Silent ∧ s₃ = s₂ := by
  have hread : KeyExpression.read? "call:r" = some ⟨.call, "r", none⟩ := by
    decide +kernel
  obtain ⟨t, v, s₁, u, r, s₂, hresolve, hload, hfail⟩ : ∃ t v s₁ u r s₂,
      Runs (resolve "call:r" (fun k _ => load k) true) (start registering {}) t (.ok v) s₁ ∧
      Runs (load "call:r" (some (.uint 8)) true) s₁ u r s₂ ∧ r.isOk = false := by
    let answer := compliant (fun _ => methodDocument "r" [] ["uint256"]) (Bytes.ofNat 32 1000)
    have hvalue : (transcript answer (resolve "call:r" (fun k _ => load k) true)
        (start registering {})).2.1.toOption.map Value.text = some "1000" := by
      decide +kernel
    obtain ⟨v, -, hresolve⟩ := exists_runs_of_map_eq_some hvalue
    refine ⟨_, v, _, _, _, _, hresolve, runs_transcript answer _ _, ?_⟩
    decide +kernel
  refine ⟨t, v, s₁, u, r, s₂, hresolve, hload, hfail, ?_⟩
  intro kind required t' r' s₃ hl
  have hsteps : Steps .reading [] s₁ u s₂ := (load_follows_reading _ _ _).steps hload
  refine load_silent_of_resolve ?_ hresolve (hsteps.mono (Licence.le_all _)) kind required hl
  intro e he
  rw [hread] at he
  cases he
  exact nofun

end Session

end Registrar
