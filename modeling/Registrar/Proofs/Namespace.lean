import Registrar.Proofs.Execution
import Registrar.Proofs.Latest

/-!
This module contains who writes under which keys of a session. What the session knows of the
specification is written in the beginning and never again, calls of functions are never remembered,
and under the keys of the latest salt and of the latest time of expiry stands what the last call
that succeeded has returned.
-/

namespace Registrar

/-- What a function has made, if the event says so. -/
def Event.madeBy? (b : Builtin) (e : Event) : Option Value :=
  match e.1 with
  | .remark (.made maker v) => if maker = b then some v else none
  | _ => none

/-- What the last call of a function has returned that made anything. -/
def Trace.lastMade? (t : Trace) (b : Builtin) : Option Value :=
  (t.filterMap (Event.madeBy? b)).getLast?

theorem Trace.lastMade?_append (t u : Trace) (b : Builtin) :
    Trace.lastMade? (t ++ u) b = (u.lastMade? b).or (t.lastMade? b) := by
  unfold lastMade?
  rw [List.filterMap_append, List.getLast?_append]

theorem Text.ne_append_of_front {q w : String} {c : Char} (hw : front w.toList = some c)
    (hq : front q.toList ≠ some c) (x : String) : q ≠ w ++ x := by
  intro heq
  apply hq
  rw [heq, String.toList_append]
  exact front_append hw _

theorem Text.front_of_trim {s w : List Char} {c : Char} (h : c :: w <+: trim s) :
    front s = some c := by
  obtain ⟨r, hr⟩ := h
  obtain ⟨b, hb⟩ := exists_trimStart_eq s
  unfold front
  rw [hb, ← hr]
  rfl

namespace Session

open Engine

variable {spec : Specification} {settings : Settings} {l : Licence} {h t : Trace} {s s' : Session}
  {q : String}

theorem find?_start_eq_seed (hq : Text.front q.toList ≠ some 'c') :
    (start spec settings).cache.find? q =
      (Cache.seed {} specificationSpace spec.toJson).find? q := by
  apply find?_seedSettings
  apply Text.ne_append_of_front _ hq
  decide

theorem find?_seed_eq_none (hq : Text.front q.toList ≠ some 's') (document : Json) :
    (Cache.seed {} specificationSpace document).find? q = none := by
  rw [find?_seed]
  . rfl
  . apply Text.ne_append_of_front _ hq
    decide

/-- Where a session remembers the latest, it is what a step has made, or else what it was before. -/
theorem Step.find?_made (x : Latest) (hs : Step l h s t s') :
    s'.cache.find? x.key = (t.lastMade? x.builtin).or (s.cache.find? x.key) := by
  cases hs with
  | dated time timeout =>
    apply (Cache.find?_insert _ _ _ _).trans
    cases x <;> rfl
  | salted seed time =>
    apply (Cache.find?_insert _ _ _ _).trans
    cases x <;> rfl
  | bound role c =>
    rw [cache_bindTo]
    rfl
  | memoized key e v he hc hn =>
    exact Cache.find?_memoize s.cache (x.apart_key.ne_append he hc hn) v
  | _ => rfl

theorem Steps.find?_made (x : Latest) (hs : Steps l h s t s') :
    s'.cache.find? x.key = (t.lastMade? x.builtin).or (s.cache.find? x.key) := by
  induction hs with
  | refl => rfl
  | tail _ hu ih => rw [hu.find?_made, ih, Trace.lastMade?_append, Option.or_assoc]

/-- A call that succeeds has made what it returns. -/
theorem lastMade?_of_run {x : Latest} {args : Builtin.Arguments} {v : Value}
    (hr : Runs (x.builtin.run args) s t (.ok v) s') : t.lastMade? x.builtin = some v := by
  cases x with
  | salt =>
    obtain ⟨-, before, -, -, rfl, -⟩ := runSalt_ok hr
    rw [Trace.lastMade?_append]
    rfl
  | expiry =>
    obtain ⟨-, before, -, rfl, -⟩ := runExpiry_ok hr
    rw [Trace.lastMade?_append]
    rfl

section Barren

variable {α β : Type} {b : Builtin}

/-- Whatever is answered, a function does not make anything in the course of the computation. -/
def Barren (b : Builtin) (x : Engine α) : Prop :=
  ∀ s t r s', Runs x s t r s' → t.lastMade? b = none

theorem barren_pure (a : α) : Barren b (pure a : Engine α) := by
  intro s t r s' hr
  obtain ⟨rfl, -, -⟩ := runs_pure_iff.1 hr
  rfl

theorem barren_throw (e : OperationError) : Barren b (throw e : Engine α) := by
  intro s t r s' hr
  obtain ⟨rfl, -, -⟩ := runs_throw_iff.1 hr
  rfl

theorem barren_ofExcept {ε : Type} (wrap : ε → OperationError) (x : Except ε α) :
    Barren b (ofExcept wrap x) := by
  cases x with
  | ok a => apply barren_pure
  | error e => apply barren_throw

theorem barren_bind {x : Engine α} {f : α → Engine β} (hx : Barren b x) (hf : ∀ a, Barren b (f a)) :
    Barren b (x >>= f) := by
  intro s t r s' hr
  rw [runs_bind_iff] at hr
  cases hr with
  | inl hr =>
    obtain ⟨a, s₁, t₁, t₂, rfl, h₁, h₂⟩ := hr
    rw [Trace.lastMade?_append, hx _ _ _ _ h₁, hf a _ _ _ _ h₂]
    rfl
  | inr hr =>
    obtain ⟨e, -, h₁⟩ := hr
    exact hx _ _ _ _ h₁

/-- A function does not make anything while its parameters are loaded. -/
def BarrenArguments (b : Builtin) (args : Builtin.Arguments) : Prop :=
  ∀ name load, args name = some load → ∀ kind required, Barren b (load kind required)

variable {args : Builtin.Arguments}

theorem barren_required (ha : BarrenArguments b args) (maker : Builtin) (name : String)
    (kind : Option Kind) : Barren b (maker.required args name kind) := by
  unfold Builtin.required
  split
  . apply barren_throw
  . next load hload => exact ha name load hload kind true

theorem barren_seed (ha : BarrenArguments b args) : Barren b (Builtin.seed args) := by
  unfold Builtin.seed Builtin.optional
  apply barren_bind
  . split
    . apply barren_pure
    . next load hload =>
      apply barren_bind
      . exact ha _ load hload none false
      . intro v
        apply barren_pure
  . intro v
    split
    . apply barren_ofExcept
    . apply barren_pure

/-- A call that fails has made nothing, if nothing has been made for its parameters. -/
theorem lastMade?_of_failure {x : Latest} {e : OperationError} (ha : BarrenArguments x.builtin args)
    (hr : Runs (x.builtin.run args) s t (.error e) s') : t.lastMade? x.builtin = none := by
  cases x with
  | salt =>
    have hr : Runs (Builtin.runSalt args) s t (.error e) s' := hr
    unfold Builtin.runSalt at hr
    obtain ⟨seed, s₁, t₁, t₂, rfl, -, hsalt⟩ | ⟨e', -, hseed⟩ := runs_bind_iff.1 hr
    . obtain ⟨time, v, -, -, heq, -⟩ := Builtin.runs_saltFrom_iff.1 hsalt
      cases heq
    . exact barren_seed ha _ _ _ _ hseed
  | expiry =>
    have hr : Runs (Builtin.runExpiry args) s t (.error e) s' := hr
    unfold Builtin.runExpiry at hr
    obtain ⟨v, s₁, t₁, t₂, rfl, hv, hrest⟩ | ⟨e', -, hv⟩ := runs_bind_iff.1 hr
    . rw [Trace.lastMade?_append, barren_required ha _ _ _ _ _ _ _ hv, Option.or_none]
      split at hrest
      . split at hrest
        . exact barren_throw _ _ _ _ _ hrest
        . obtain ⟨e', rfl, -, -⟩ | ⟨time, v, -, -, heq, -⟩ :=
            Builtin.runs_expiryAfter_iff.1 hrest
          . rfl
          . cases heq
      . exact barren_throw _ _ _ _ _ hrest
    . exact barren_required ha _ _ _ _ _ _ _ hv

end Barren

/-- At every moment of a session the keys of the specification stand as they were in the beginning,
nothing is remembered under the call of a function, and the latest salt and the latest time of
expiry are what the last call that succeeded has returned, and are not there before that. A call
that fails does not count. -/
theorem keyspaces_of_steps (hs : Steps .all [] (start spec settings) t s) :
    (∀ name, s.cache.find? (specificationSpace ++ name) =
      (Cache.seed {} specificationSpace spec.toJson).find? (specificationSpace ++ name)) ∧
    (∀ key : String, KeySource.func.marker <+: Text.trim key.toList → s.cache.find? key = none) ∧
    ∀ x : Latest, s.cache.find? x.key = t.lastMade? x.builtin ∧
      (∀ args s₁ t₁ v s₂, Runs (x.builtin.run args) s₁ t₁ (.ok v) s₂ →
        t₁.lastMade? x.builtin = some v) ∧
      ∀ args s₁ t₁ e s₂, BarrenArguments x.builtin args →
        Runs (x.builtin.run args) s₁ t₁ (.error e) s₂ → t₁.lastMade? x.builtin = none := by
  have hkeep {q : String} {c : Char} (hq : Text.front q.toList = some c) (hc : c ≠ 'c')
      (hp : c ≠ 'p') (hl : c ≠ 'l') :
      s.cache.find? q = (Cache.seed {} specificationSpace spec.toJson).find? q := by
    have hapart : Key.Apart q := by
      unfold Key.Apart
      rw [hq]
      simp [hc, hp]
    have hkey (x : Latest) : q ≠ x.key := by
      intro heq
      apply hl
      rw [heq] at hq
      cases x <;> exact (Option.some.inj hq).symm
    rw [hs.find?_eq hapart fun x hx => absurd hx (hkey x)]
    apply find?_start_eq_seed
    rw [hq]
    simpa using hc
  refine ⟨?_, ?_, ?_⟩
  . intro name
    apply hkeep (c := 's') _ (by decide) (by decide) (by decide)
    rw [String.toList_append]
    exact Text.front_append rfl _
  . intro key hkey
    have hfront : Text.front key.toList = some 'f' := Text.front_of_trim hkey
    rw [hkeep hfront (by decide) (by decide) (by decide)]
    apply find?_seed_eq_none
    rw [hfront]
    decide
  . intro x
    refine ⟨?_, ?_, ?_⟩
    . rw [hs.find?_made x, find?_start_eq_seed, find?_seed_eq_none, Option.or_none]
      . cases x <;> decide
      . cases x <;> decide
    . intro args s₁ t₁ v s₂
      exact lastMade?_of_run
    . intro args s₁ t₁ e s₂
      exact lastMade?_of_failure

/-- Two times of expiry are made, one after the other, for the arguments of a read. -/
theorem keyspaces_of_steps_registering :
    ∃ t s, Run (start registering {})
        [.load " call:r(func:expiry(timeout=const:1),func:expiry(timeout=const:2))" none true] t s ∧
      (s.cache.find? "spec:name").map Value.text = some "s" ∧
      s.cache.find? "func:expiry(timeout=const:2)" = none ∧
      (s.cache.find? Builtin.lastExpiryKey).map Value.text = some "1062" ∧
      s.cache.find? Builtin.lastSaltKey = none := by
  let answer := compliant (fun _ => methodDocument "r" ["uint256", "uint256"] ["bytes32"])
    (List.replicate 32 0)
  have hr := run_transcript answer (start registering {})
    (.load " call:r(func:expiry(timeout=const:1),func:expiry(timeout=const:2))" none true)
  obtain ⟨hspec, hfunc, hlatest⟩ := keyspaces_of_steps hr.steps
  refine ⟨_, _, hr, ?_, ?_, ?_, ?_⟩
  . have hname := hspec "name"
    have hseed : ((Cache.seed {} specificationSpace registering.toJson).find? "spec:name").map
        Value.text = some "s" := by
      decide +kernel
    rw [← hseed]
    exact congrArg (Option.map Value.text) hname
  . exact hfunc _ (by decide +kernel)
  . rw [show Builtin.lastExpiryKey = Latest.expiry.key from rfl, (hlatest .expiry).1]
    decide +kernel
  . rw [show Builtin.lastSaltKey = Latest.salt.key from rfl, (hlatest .salt).1]
    have hnone : (Trace.lastMade? (transcript answer (load
        " call:r(func:expiry(timeout=const:1),func:expiry(timeout=const:2))" none true)
        (start registering {})).1 .salt).isNone := by
      decide +kernel
    exact Option.isNone_iff_eq_none.1 hnone

end Session

end Registrar
