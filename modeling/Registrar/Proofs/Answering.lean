import Registrar.Proofs.Entry
import Registrar.Proofs.Resolution

/-!
This module contains what computations come to with a partner who answers equal queries alike. Such a
partner leaves a computation no choice, so that what an expression is loaded as depends on the session
only.
-/

namespace Registrar

theorem Interaction.Run.eq_transcript {Req : Type} {Ans : Req → Type} {α : Type}
    {answer : (r : Req) → Ans r} {x : Interaction Req Ans α} {t : List ((r : Req) × Ans r)} {a : α}
    (hr : Run x t a) (ht : ∀ e ∈ t, e = ⟨e.1, answer e.1⟩) : transcript answer x = (t, a) := by
  induction hr with
  | done a => rfl
  | @ask r resume t a y hr ih =>
    rw [List.forall_mem_cons] at ht
    obtain ⟨heq, ht⟩ := ht
    have hy : y = answer r := eq_of_heq (Sigma.mk.inj heq).2
    rw [hy] at ih ⊢
    unfold transcript
    rw [ih ht]

/-- All answers are those of the partner. -/
def Trace.AnsweredBy (answer : (q : Query) → q.Reply) (t : Trace) : Prop :=
  ∀ e ∈ t, e = ⟨e.1, answer e.1⟩

theorem Trace.answeredBy_append_iff {answer : (q : Query) → q.Reply} {t u : Trace} :
    AnsweredBy answer (t ++ u) ↔ t.AnsweredBy answer ∧ u.AnsweredBy answer :=
  List.forall_mem_append

theorem Trace.answeredBy_singleton_iff {answer : (q : Query) → q.Reply} {q : Query} {x : q.Reply} :
    AnsweredBy answer [⟨q, x⟩] ↔ answer q = x := by
  unfold AnsweredBy
  rw [List.forall_mem_singleton]
  constructor
  . intro heq
    exact (eq_of_heq (Sigma.mk.inj heq).2).symm
  . rintro rfl
    rfl

theorem Event.loaded_answeredBy (answer : (q : Query) → q.Reply) (key : String) (v : Value) :
    Trace.AnsweredBy answer [loaded key v] :=
  Trace.answeredBy_singleton_iff.2 rfl

namespace Engine

variable {α : Type} {answer : (q : Query) → q.Reply} {x : Engine α} {s s' : Session} {t : Trace}

/-- What a computation comes to with such a partner, unless it fails. -/
def value? (answer : (q : Query) → q.Reply) (x : Engine α) (s : Session) : Option α :=
  (transcript answer x s).2.1.toOption

theorem value?_eq_some_iff {a : α} :
    value? answer x s = some a ↔ ∃ t s', t.AnsweredBy answer ∧ Runs x s t (.ok a) s' := by
  unfold value?
  constructor
  . intro h
    have hr := runs_transcript answer x s
    cases hx : (transcript answer x s).2.1 with
    | error e =>
      rw [hx] at h
      cases h
    | ok b =>
      rw [hx] at h hr
      cases h
      exact ⟨_, _, fun e he => Interaction.eq_of_mem_transcript he, hr⟩
  . rintro ⟨t, s', ht, hr⟩
    unfold transcript
    rw [Interaction.Run.eq_transcript hr ht]
    rfl

/-- With such a partner, a computation can end in one way only. -/
theorem eq_of_runs {r r' : Except OperationError α} {t' : Trace} {s₁ : Session}
    (ht : t.AnsweredBy answer) (ht' : t'.AnsweredBy answer) (hr : Runs x s t r s₁)
    (hr' : Runs x s t' r' s') : r' = r ∧ s' = s₁ := by
  have heq := (Interaction.Run.eq_transcript hr ht).symm.trans (Interaction.Run.eq_transcript hr' ht')
  simp only [Prod.mk.injEq] at heq
  exact ⟨heq.2.1.symm, heq.2.2.symm⟩

theorem value?_bind {β : Type} {f : α → Engine β} {a : α} (hx : Runs x s t (.ok a) s')
    (ht : t.AnsweredBy answer) : value? answer (x >>= f) s = value? answer (f a) s' := by
  apply Option.ext
  intro b
  simp only [value?_eq_some_iff, runs_bind_ok_iff]
  constructor
  . rintro ⟨u, s₂, hu, a', s₁, t₁, t₂, rfl, hx', hf⟩
    obtain ⟨ht₁, ht₂⟩ := Trace.answeredBy_append_iff.1 hu
    obtain ⟨heq, rfl⟩ := eq_of_runs ht ht₁ hx hx'
    cases heq
    exact ⟨t₂, s₂, ht₂, hf⟩
  . rintro ⟨u, s₂, hu, hf⟩
    exact ⟨t ++ u, s₂, Trace.answeredBy_append_iff.2 ⟨ht, hu⟩, a, s', t, u, rfl, hx, hf⟩

theorem value?_put_bind {β : Type} {q : Query} {f : q.Reply → Engine β} :
    value? answer (put q >>= f) s = value? answer (f (answer q)) s := by
  apply value?_bind (runs_put_iff.2 ⟨answer q, rfl, rfl, rfl⟩)
  exact Trace.answeredBy_singleton_iff.2 rfl

end Engine

namespace Session

open Engine

variable {answer : (q : Query) → q.Reply} {s : Session} {key key' : String} {kind : Option Kind}
  {required : Bool} {v w : Value}

/-- The session that tasks lead to with such a partner. -/
def after (answer : (q : Query) → q.Reply) (s : Session) (tasks : List Task) : Session :=
  tasks.foldl (fun s task => (transcript answer task.engine s).2.2) s

theorem exists_run_after (answer : (q : Query) → q.Reply) (s : Session) (tasks : List Task) :
    ∃ h, h.AnsweredBy answer ∧ Run s tasks h (after answer s tasks) := by
  have hrest {done : List Task} {h : Trace} {s₁ : Session} (hh : h.AnsweredBy answer)
      (hr : Run s done h s₁) (tasks : List Task) :
      ∃ h, h.AnsweredBy answer ∧ Run s (done ++ tasks) h (after answer s₁ tasks) := by
    induction tasks generalizing done h s₁ with
    | nil =>
      rw [List.append_nil]
      exact ⟨h, hh, hr⟩
    | cons task tasks ih =>
      rw [List.append_cons]
      apply ih _ (hr.snoc (runs_transcript answer task.engine s₁))
      exact Trace.answeredBy_append_iff.2 ⟨hh, fun e he => Interaction.eq_of_mem_transcript he⟩
  exact hrest (List.forall_mem_nil _) Run.nil tasks

theorem value?_load_iff :
    value? answer (load key kind required) s = some v ↔
      ∃ w, value? answer (fetch key (fun k _ => load k) required) s = some w ∧
        w.FinishedAs kind required v := by
  simp only [value?_eq_some_iff, runs_load_ok_iff]
  constructor
  . rintro ⟨t, s', ht, w, u, rfl, hr, hv⟩
    exact ⟨w, ⟨u, s', (Trace.answeredBy_append_iff.1 ht).1, hr⟩, hv⟩
  . rintro ⟨w, ⟨u, s', hu, hr⟩, hv⟩
    exact ⟨_, s', Trace.answeredBy_append_iff.2 ⟨hu, Event.loaded_answeredBy answer key v⟩,
      w, u, rfl, hr, hv⟩

/-- Expressions that are fetched as the same are loaded as the same. -/
theorem value?_load_congr
    (h : value? answer (fetch key (fun k _ => load k) required) s =
      value? answer (fetch key' (fun k _ => load k) required) s) (kind : Option Kind) :
    value? answer (load key kind required) s = value? answer (load key' kind required) s := by
  apply Option.ext
  intro v
  rw [value?_load_iff, value?_load_iff, h]

theorem value?_fetch_of_some {load : Loader key.length} (hf : s.cache.find? key = some w) :
    value? answer (fetch key load required) s = some w := by
  rw [value?_eq_some_iff]
  exact ⟨[], s, List.forall_mem_nil _, (runs_fetch_some_iff hf).2 ⟨rfl, rfl, rfl⟩⟩

theorem value?_fetch_of_none {load : Loader key.length} (hf : s.cache.find? key = none) :
    value? answer (fetch key load required) s = value? answer (resolve key load required) s := by
  apply Option.ext
  intro v
  simp only [value?_eq_some_iff, runs_fetch_none_iff hf]

theorem value?_resolve_iff {load : Loader key.length} {e : KeyExpression}
    (he : KeyExpression.read? key = some e) :
    value? answer (resolve key load required) s = some v ↔
      ∃ w, value? answer (resolveSource load e (KeyExpression.length_of_read? he) required) s = some w ∧
        e.transformed w = .ok v := by
  simp only [value?_eq_some_iff, runs_resolve_ok_iff he]
  constructor
  . rintro ⟨t, s', ht, w, s₁, hr, hv, -⟩
    exact ⟨w, ⟨t, s₁, ht, hr⟩, hv⟩
  . rintro ⟨w, ⟨t, s₁, ht, hr⟩, hv⟩
    exact ⟨t, _, ht, w, s₁, hr, hv, rfl⟩

theorem value?_resolve_eq_none {load : Loader key.length} (he : KeyExpression.read? key = none) :
    value? answer (resolve key load required) s = none := by
  apply Option.eq_none_iff_forall_ne_some.2
  intro v hv
  obtain ⟨t, s', -, hr⟩ := value?_eq_some_iff.1 hv
  obtain ⟨e, he'⟩ := exists_of_runs_resolve_ok hr
  rw [he] at he'
  cases he'

/-- How long the parts of an expression may be plays no role for what its source gives. -/
theorem resolveSource_load_eq {b₁ b₂ : Nat} (e : KeyExpression)
    (h₁ : e.source.marker.length + e.payload.length ≤ b₁)
    (h₂ : e.source.marker.length + e.payload.length ≤ b₂) :
    resolveSource (fun k _ => load k : Loader b₁) e h₁ required =
      resolveSource (fun k _ => load k : Loader b₂) e h₂ required := by
  obtain ⟨source, payload, transform⟩ := e
  cases source <;> rfl

/-- Texts that are read as the same expression resolve to the same. -/
theorem value?_resolve_congr (h : KeyExpression.read? key = KeyExpression.read? key') :
    value? answer (resolve key (fun k _ => load k) required) s =
      value? answer (resolve key' (fun k _ => load k) required) s := by
  cases he : KeyExpression.read? key' with
  | none =>
    rw [value?_resolve_eq_none he, value?_resolve_eq_none (h.trans he)]
  | some e =>
    apply Option.ext
    intro v
    rw [value?_resolve_iff he, value?_resolve_iff (h.trans he),
      resolveSource_load_eq e _ (KeyExpression.length_of_read? he)]

/-- The setting of a name. -/
def stored? (answer : (q : Query) → q.Reply) (name : String) : Option Json :=
  answer (.request none (.setting name))

/-- What the operator answers. -/
def asked? (answer : (q : Query) → q.Reply) (name : String) (required hidden : Bool) :
    Option String :=
  let text : Except ConfigError String := answer (.request none (.prompt name required hidden))
  text.toOption

/-- What a contract returns. -/
def returned (answer : (q : Query) → q.Reply) (role : Role) (a : Address) (data : Bytes) :
    Except ChainError Bytes :=
  answer (.request (some role) (.call a data))

/-- What an expression gives that names neither a method nor a function: the text in it, a setting, or
what the operator answers. -/
def given? (answer : (q : Query) → q.Reply) (e : KeyExpression) (required : Bool) : Option Value :=
  match e.source with
  | .const => some (.string e.payload)
  | .config =>
    match stored? answer e.payload with
    | some j => some (.ofJson j)
    | none => (asked? answer e.payload required false).map .string
  | .passwd => (asked? answer e.payload required true).map .string
  | _ => none

theorem value?_prompt (name : String) (required hidden : Bool) :
    value? answer (prompt name required hidden) s =
      (asked? answer name required hidden).map .string := by
  unfold prompt asked?
  refine value?_put_bind.trans ?_
  cases answer (.request none (.prompt name required hidden)) with
  | ok text => rfl
  | error e => rfl

theorem value?_setting (name : String) (required : Bool) :
    value? answer (setting name required) s =
      match stored? answer name with
      | some j => some (.ofJson j)
      | none => (asked? answer name required false).map .string := by
  unfold setting stored?
  refine value?_put_bind.trans ?_
  cases answer (.request none (.setting name)) with
  | some j => rfl
  | none => exact value?_prompt name required false

/-- What an expression gives that names neither a method nor a function is the same in every
session. -/
theorem value?_resolveSource {bound : Nat} {load : Loader bound} {e : KeyExpression}
    (he : e.source.marker.length + e.payload.length ≤ bound) (hcall : e.source ≠ .call)
    (hfunc : e.source ≠ .func) :
    value? answer (resolveSource load e he required) s = given? answer e required := by
  obtain ⟨source, payload, transform⟩ := e
  cases source with
  | call => exact absurd rfl hcall
  | func => exact absurd rfl hfunc
  | const => rfl
  | config => exact value?_setting payload required
  | passwd => exact value?_prompt payload required true
  | bare => rfl

end Session

end Registrar
