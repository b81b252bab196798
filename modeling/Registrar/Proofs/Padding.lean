import Registrar.Proofs.Latest
import Registrar.Proofs.Repetition
import Registrar.Proofs.Seeding
import Registrar.Proofs.Verbatim

/-!
This module contains what becomes of an expression when blanks are put around it. It is read as the
same expression, but what is remembered is looked up by the exact text. The two are loaded as the same
unless something is remembered under one of them that could not be had again.
-/

namespace Registrar

/-- The settings can be asked for by the expressions that name them, and none of them is an object. -/
structure Settings.Plain (settings : Settings) : Prop where
  read : ∀ e ∈ settings.toList,
    KeyExpression.read? (Session.settingSpace ++ e.1) = some ⟨.config, e.1, none⟩
  leaf : ∀ e ∈ settings.toList, e.2.asObject? = none

theorem Value.asRecord?_ofJson {j : Json} (hj : j.asObject? = none) :
    (Value.ofJson j).asRecord? = none := by
  cases j with
  | object members => cases hj
  | number n => cases n <;> rfl
  | _ => rfl

namespace Session

open Engine KeyExpression

variable {answer : (q : Query) → q.Reply} {spec : Specification} {settings : Settings}
  {h t : Trace} {s s' : Session} {key a b : String} {e : KeyExpression} {kind : Option Kind}
  {required : Bool} {v w : Value}

/-- What is remembered under a text is what it would resolve to. -/
def Fresh (answer : (q : Query) → q.Reply) (s : Session) (key : String) (required : Bool) : Prop :=
  ∀ w, s.cache.find? key = some w →
    value? answer (resolve key (fun k _ => load k) required) s = some w

theorem Fresh.value?_fetch (hk : Fresh answer s key required) :
    value? answer (fetch key (fun k _ => load k) required) s =
      value? answer (resolve key (fun k _ => load k) required) s := by
  cases hf : s.cache.find? key with
  | some w => rw [value?_fetch_of_some hf, hk w hf]
  | none => exact value?_fetch_of_none hf

/-- Blanks around an expression do not matter where nothing else is remembered than what could be had
again. -/
theorem Fresh.value?_load (ha : Text.isBlankText a.toList) (hb : Text.isBlankText b.toList)
    (h₁ : Fresh answer s (a ++ key ++ b) required) (h₂ : Fresh answer s key required)
    (kind : Option Kind) :
    value? answer (load (a ++ key ++ b) kind required) s =
      value? answer (load key kind required) s := by
  apply value?_load_congr
  rw [h₁.value?_fetch, h₂.value?_fetch]
  exact value?_resolve_congr (read?_between ha hb key)

/-- The partner has the settings. -/
def Has (answer : (q : Query) → q.Reply) (settings : Settings) : Prop :=
  ∀ name, stored? answer name = settings.find? name

theorem find?_start_config (hp : settings.Plain) (he : KeyExpression.read? key = some e)
    (hs : e.source = .config) (hw : (start spec settings).cache.find? key = some w) :
    ∃ j, settings.find? e.payload = some j ∧ e.transform = none ∧ w = .ofJson j := by
  unfold start at hw
  dsimp only at hw
  by_cases hkey : ∃ name, key = settingSpace ++ name
  . obtain ⟨name, rfl⟩ := hkey
    rw [find?_seedSettings_of_leaves hp.leaf, find?_seed _ (ne_setting name)] at hw
    obtain ⟨j, hj, rfl⟩ := Option.map_eq_some_iff.1 (Option.or_none.symm.trans hw)
    rw [hp.read _ (Assoc.mem_of_find?_eq_some hj)] at he
    cases he
    exact ⟨j, hj, rfl, rfl⟩
  . rw [find?_seedSettings _ (not_exists.1 hkey), find?_seed] at hw
    . cases hw
    . apply KeyExpression.ne_append he (by simp [hs]) (by decide)
      . rw [hs]
        decide
      . rw [hs]
        decide

/-- In the beginning, only settings are remembered, which are still there to be asked for. -/
theorem backed_start (hs : Has answer settings) (he : KeyExpression.read? key = some e)
    (hn : e.source ≠ .bare) (hp : e.source = .config → settings.Plain) :
    Backed answer key e [] (start spec settings) := by
  intro _ _ w hw
  by_cases hconfig : e.source = .config
  . obtain ⟨j, hj, htransform, rfl⟩ := find?_start_config (hp hconfig) he hconfig hw
    have hgiven : given? answer e true = some (.ofJson j) := by
      unfold given?
      rw [hconfig]
      dsimp only
      rw [hs, hj]
    refine ⟨.ofJson j, .given hgiven, ?_⟩
    unfold transformed
    rw [htransform]
  . rw [find?_start he hn hconfig] at hw
    cases hw

/-- In a session that tasks lead to, what is remembered under an expression could be had again if its
arguments are remembered too, no record meets one of them, and the operator answers alike whether or
not a value is required. -/
theorem fresh_of_run {tasks : List Task} (hr : Run (start spec settings) tasks h s)
    (hh : h.AnsweredBy answer) (hs : Has answer settings) (he : KeyExpression.read? key = some e)
    (hc : e.isCacheable) (hn : e.source ≠ .bare) (hp : e.source = .config → settings.Plain)
    (hl : ∀ a ∈ e.parts, Lasting a) (hk : ∀ q ∈ key :: e.parts, ¬ Shared h s q)
    (hg : given? answer e true = given? answer e false) (required : Bool) :
    Fresh answer s key required := by
  intro w hw
  have hbacked := hr.keeps (backed_invariant he hc hn hl) (backed_start hs he hn hp)
  obtain ⟨v, hv, hw⟩ := hbacked hh hk w hw
  rw [value?_resolve_iff he]
  exact ⟨v, value?_of_repeatable hv _ hg, hw⟩

/-- What is written in an expression, set or answered has no fields, and so no record meets it. -/
theorem not_shared_of_given (hh : h.AnsweredBy answer) (hs : Has answer settings)
    (he : KeyExpression.read? key = some e) (hn : e.source ≠ .bare) (hcall : e.source ≠ .call)
    (hp : e.source = .config → settings.Plain) : ¬ Shared h s key := by
  apply not_shared_of_source he hn
  rintro f v hf ⟨w, hg, hw⟩
  have hw' : w.asRecord? = none := by
    cases hg with
    | literal => rfl
    | answer => rfl
    | read hsource => exact absurd (hf.symm.trans hsource) hcall
    | @setting j hsource hj =>
      apply Value.asRecord?_ofJson
      have hstored : stored? answer f.payload = some j :=
        (eq_of_heq (Sigma.mk.inj (hh _ hj)).2).symm
      rw [hs] at hstored
      exact (hp (hf.symm.trans hsource)).leaf _ (Assoc.mem_of_find?_eq_some hstored)
  rw [(eq_of_transformed hw' hw).2]
  exact hw'

/-- What an expression gives depends neither on the session nor on whether a value is required: it
calls a function, or it is a literal, or it names a setting, or the operator answers alike. -/
def Steady (answer : (q : Query) → q.Reply) (settings : Settings) (e : KeyExpression) : Prop :=
  match e.source with
  | .func | .const => True
  | .config =>
    settings.Plain ∧ ((settings.find? e.payload).isSome ∨
      asked? answer e.payload true false = asked? answer e.payload false false)
  | .passwd => asked? answer e.payload true true = asked? answer e.payload false true
  | .call | .bare => False

theorem Steady.given?_eq (hs : Has answer settings) (he : Steady answer settings e) :
    given? answer e true = given? answer e false := by
  unfold Steady at he
  unfold given?
  split at he
  . next hsource => rw [hsource]
  . next hsource => rw [hsource]
  . next hsource =>
    rw [hsource]
    dsimp only
    rw [hs]
    cases hset : settings.find? e.payload with
    | some j => rfl
    | none =>
      have halike := he.2.resolve_left (by simp [hset])
      dsimp only
      rw [halike]
  . next hsource =>
    rw [hsource]
    dsimp only
    rw [he]
  . cases he
  . cases he

theorem fresh_of_steady {tasks : List Task} (hr : Run (start spec settings) tasks h s)
    (hh : h.AnsweredBy answer) (hs : Has answer settings) (he : KeyExpression.read? key = some e)
    (hsteady : Steady answer settings e) (required : Bool) : Fresh answer s key required := by
  by_cases hfunc : e.source = .func
  . intro w hw
    rw [find?_func hr.steps he hfunc] at hw
    cases hw
  . have hsources : e.source ≠ .bare ∧ e.source ≠ .call ∧ (e.source = .config → settings.Plain) := by
      unfold Steady at hsteady
      revert hsteady
      cases e.source <;> simp_all
    obtain ⟨hn, hcall, hp⟩ := hsources
    have hparts : e.parts = [] := by
      unfold parts
      split
      . next hsource => exact absurd hsource hcall
      . rfl
    apply fresh_of_run hr hh hs he _ hn hp
    . rw [hparts]
      exact List.forall_mem_nil _
    . rw [hparts, List.forall_mem_singleton]
      exact not_shared_of_given hh hs he hn hcall hp
    . exact hsteady.given?_eq hs
    . simp [isCacheable, hfunc]

/-- In every session that tasks lead to with a partner who answers equal queries alike and has the
settings, an expression is loaded as the same with and without blanks around it, unless something else
is remembered under one of the two texts than what it would resolve to. Nothing of the kind is ever
remembered under a function, a literal, a setting, or a question that is answered alike whether or not
a value is required; nor under a call whose arguments are remembered themselves, if no record of
another expression has a field under the call or under one of them. -/
theorem load_between_blanks {tasks : List Task} (hr : Run (start spec settings) tasks h s)
    (hh : h.AnsweredBy answer) (hs : Has answer settings) (ha : Text.isBlankText a.toList)
    (hb : Text.isBlankText b.toList) (key : String) (kind : Option Kind) (required : Bool) :
    (Fresh answer s (a ++ key ++ b) required → Fresh answer s key required →
      value? answer (load (a ++ key ++ b) kind required) s =
        value? answer (load key kind required) s) ∧
    ∀ e, KeyExpression.read? key = some e →
      Steady answer settings e ∨
        (e.source = .call ∧ (∀ q ∈ e.parts, Lasting q) ∧
          ∀ q ∈ (a ++ key ++ b) :: key :: e.parts, ¬ Shared h s q) →
      value? answer (load (a ++ key ++ b) kind required) s =
        value? answer (load key kind required) s := by
  refine ⟨fun h₁ h₂ => h₁.value?_load ha hb h₂ kind, ?_⟩
  intro e he hcases
  have he' : KeyExpression.read? (a ++ key ++ b) = some e := (read?_between ha hb key).trans he
  cases hcases with
  | inl hsteady =>
    exact (fresh_of_steady hr hh hs he' hsteady required).value?_load ha hb
      (fresh_of_steady hr hh hs he hsteady required) kind
  | inr hcall =>
    obtain ⟨hcall, hl, hk⟩ := hcall
    obtain ⟨hk₁, hk⟩ := List.forall_mem_cons.1 hk
    obtain ⟨hk₂, hk⟩ := List.forall_mem_cons.1 hk
    have hc : e.isCacheable := by simp [isCacheable, hcall]
    have hn : e.source ≠ .bare := by simp [hcall]
    have hp : e.source = .config → settings.Plain := by simp [hcall]
    have hg : given? answer e true = given? answer e false := by simp [given?, hcall]
    have h₁ := fresh_of_run hr hh hs he' hc hn hp hl (List.forall_mem_cons.2 ⟨hk₁, hk⟩) hg required
    have h₂ := fresh_of_run hr hh hs he hc hn hp hl (List.forall_mem_cons.2 ⟨hk₂, hk⟩) hg required
    exact h₁.value?_load ha hb h₂ kind

/-- A record does not meet an expression that has no point. -/
theorem not_shared_of_no_point (hkey : '.' ∉ key.toList) : ¬ Shared h s key := by
  rintro ⟨other, e, v, hne, -, -, hmem⟩
  obtain ⟨fields, x, -, rfl⟩ := Cache.record_of_mem_storedKeys hne hmem
  simp [String.toList_append] at hkey

/-- A call that is remembered is loaded as the same with blanks around it, under which nothing is
remembered. -/
theorem load_between_blanks_registering :
    let answer := compliant (fun _ => methodDocument "r" [] ["uint256"]) (Bytes.ofNat 32 1000)
    ∃ h s, Run (start registering {}) [.load "call:r" none true] h s ∧ h.AnsweredBy answer ∧
      (s.cache.find? "call:r").map Value.text = some "1000" ∧
      s.cache.find? (" " ++ "call:r" ++ "\n") = none ∧
      (value? answer (load "call:r" none true) s).isSome ∧
      value? answer (load (" " ++ "call:r" ++ "\n") none true) s =
        value? answer (load "call:r" none true) s := by
  intro answer
  obtain ⟨h, hh, hr⟩ := exists_run_after answer (start registering {}) [.load "call:r" none true]
  refine ⟨h, _, hr, hh, by decide +kernel, by decide +kernel, by decide +kernel, ?_⟩
  have hblanks : Text.isBlankText " ".toList ∧ Text.isBlankText "\n".toList := by decide +kernel
  have he : KeyExpression.read? "call:r" = some ⟨.call, "r", none⟩ := by decide +kernel
  have hparts : (⟨.call, "r", none⟩ : KeyExpression).parts = [] := by decide +kernel
  apply (load_between_blanks hr hh (fun _ => rfl) hblanks.1 hblanks.2 "call:r" none true).2 _ he
  right
  rw [hparts]
  refine ⟨rfl, List.forall_mem_nil _, ?_⟩
  rw [List.forall_mem_cons, List.forall_mem_singleton]
  exact ⟨not_shared_of_no_point (by decide +kernel), not_shared_of_no_point (by decide +kernel)⟩

/-- A partner whose contract returns what it is given. -/
def echoing : (q : Query) → q.Reply
  | .request _ (.call _ data) => .ok (data.drop 4)
  | q => compliant (fun _ => methodDocument "r" ["uint256"] ["uint256"]) [] q

/-- A part of the specification is known by its exact text only, and a call is remembered with the
time of expiry that was the latest when it was made, but not with blanks around it. -/
theorem not_load_between_blanks_registering :
    ∃ tasks h s, Run (start registering {}) tasks h s ∧ h.AnsweredBy echoing ∧ Has echoing {} ∧
      Text.isBlankText " ".toList ∧ Text.isBlankText "".toList ∧
      (value? echoing (load "spec:name" none false) s).map Value.text = some "s" ∧
      value? echoing (load (" " ++ "spec:name" ++ "") none false) s = none ∧
      (value? echoing (load "call:r(last:expiry)" none true) s).map Value.text = some "1061" ∧
      (value? echoing (load (" " ++ "call:r(last:expiry)" ++ "") none true) s).map Value.text =
        some "1062" := by
  obtain ⟨h, hh, hr⟩ := exists_run_after echoing (start registering {})
    [.load "func:expiry(timeout=const:1)" none true, .load "call:r(last:expiry)" none true,
      .load "func:expiry(timeout=const:2)" none true]
  refine ⟨_, h, _, hr, hh, fun _ => rfl, ?_⟩
  decide +kernel

end Session

end Registrar
