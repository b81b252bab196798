import Registrar.Proofs.Conduct.Invariant

/-!
This module contains the proof that the interfaces a session knows are those that have been read,
and that none of them is asked for again, whatever is loaded and carried out. Only one computation
asks for resources; everything else has nothing to do with interfaces.
-/

namespace Registrar

namespace Event

/-- The resource that is asked for. -/
def resource? (e : Event) : Option String :=
  match e.1 with
  | .request _ (.resource _ resource) => some resource
  | _ => none

/-- A resource is asked for, and an interface is read from it. -/
def Reads (e : Event) (resource : String) (i : Interface) : Prop :=
  ∃ service text, e = ⟨.request none (.resource service resource), .ok text⟩ ∧
    Interface.read text = .ok i

theorem Reads.resource?_eq {e : Event} {resource : String} {i : Interface}
    (h : e.Reads resource i) : e.resource? = some resource := by
  obtain ⟨service, text, rfl, -⟩ := h
  rfl

end Event

namespace Trace

variable {κ α : Type} {asks : Event → Option κ} {teaches : Event → κ → α → Prop}
  {known known' : κ → α → Prop} {h u : Trace}

/-- What is known is what some answer has taught, and what an answer has taught is not asked for
again. -/
structure Learned (asks : Event → Option κ) (teaches : Event → κ → α → Prop)
    (known : κ → α → Prop) (h : Trace) : Prop where
  known_iff : ∀ k a, known k a ↔ ∃ e ∈ h, teaches e k a
  once : h.Pairwise fun e later => ∀ k a, teaches e k a → asks later ≠ some k

theorem Learned.nil (hn : ∀ k a, ¬ known k a) : Learned asks teaches known [] where
  known_iff := by simp [hn]
  once := List.Pairwise.nil

/-- One more query may ask for what is not known, if what it teaches comes to be known. -/
theorem Learned.snoc {e : Event} (hl : Learned asks teaches known h)
    (hnew : ∀ k, asks e = some k → ∀ a, ¬ known k a)
    (hknown : ∀ k a, known' k a ↔ known k a ∨ teaches e k a) :
    Learned asks teaches known' (h ++ [e]) where
  known_iff := by
    intro k a
    rw [hknown, hl.known_iff]
    simp [List.mem_append, or_and_right, exists_or]
  once := by
    rw [List.pairwise_append]
    refine ⟨hl.once, List.pairwise_singleton _ _, ?_⟩
    intro earlier hearlier later hlater k a hteaches hasks
    rw [List.mem_singleton] at hlater
    rw [hlater] at hasks
    exact hnew k hasks a ((hl.known_iff k a).2 ⟨earlier, hearlier, hteaches⟩)

theorem Learned.append_idle (hl : Learned asks teaches known h)
    (hasks : ∀ e k a, teaches e k a → asks e = some k) (hu : ∀ e ∈ u, asks e = none) :
    Learned asks teaches known (h ++ u) := by
  induction u generalizing h with
  | nil =>
    rw [List.append_nil]
    exact hl
  | cons e u ih =>
    obtain ⟨he, hu⟩ := List.forall_mem_cons.1 hu
    rw [List.append_cons]
    apply ih _ hu
    apply hl.snoc
    . intro k hk
      rw [he] at hk
      cases hk
    . intro k a
      have hteaches : ¬ teaches e k a := by
        intro h
        rw [hasks e k a h] at he
        cases he
      simp [hteaches]

end Trace

namespace Session

variable {h u : Trace} {s s' : Session}

/-- The interfaces that a session knows are those that have been read in its history, and no
resource has been asked for after that. -/
def Informed (h : Trace) (s : Session) : Prop :=
  h.Learned Event.resource? Event.Reads fun resource i => Assoc.find? resource s.interfaces = some i

theorem informed_start (spec : Specification) (settings : Settings) :
    Informed [] (start spec settings) := by
  apply Trace.Learned.nil
  intro resource i hi
  cases hi

theorem Informed.append_idle (hs : Informed h s) (hi : s'.interfaces = s.interfaces)
    (hu : ∀ e ∈ u, e.resource? = none) : Informed (h ++ u) s' := by
  unfold Informed
  rw [hi]
  exact Trace.Learned.append_idle hs (fun e resource i => Event.Reads.resource?_eq) hu

end Session

namespace Engine

open Session

variable {α : Type} {x : Engine α}

/-- Whatever is answered, the computation has nothing to do with interfaces. -/
def Idle (x : Engine α) : Prop :=
  ∀ (s : Session) (t : Trace) (r : Except OperationError α) (s' : Session),
    Runs x s t r s' → s'.interfaces = s.interfaces ∧ ∀ e ∈ t, e.resource? = none

/-- Whatever is answered, the computation keeps a session informed. -/
def Informs (x : Engine α) : Prop :=
  ∀ (h : Trace) (s : Session) (t : Trace) (r : Except OperationError α) (s' : Session),
    Informed h s → Runs x s t r s' → Informed (h ++ t) s'

theorem Idle.informs (hx : Idle x) : Informs x := by
  intro h s t r s' hs hr
  obtain ⟨hi, ht⟩ := hx s t r s' hr
  exact hs.append_idle hi ht

end Engine

namespace Session

open Engine

variable {t : Trace} {s s' : Session}

/-- What comes of asking for an interface: nothing is put to the outside if it is known, and it is
known from then on if it can be read. -/
inductive Consulted (s : Session) (resource : String) :
    Trace → Except OperationError Interface → Session → Prop where
  | known {i : Interface} (hi : Assoc.find? resource s.interfaces = some i) :
      Consulted s resource [] (.ok i) s
  | failed {x : Except RepositoryError String} {e : OperationError}
      (hi : Assoc.find? resource s.interfaces = none)
      (hx : ∀ text i, x = .ok text → Interface.read text ≠ .ok i) :
      Consulted s resource [⟨.request none (.resource s.spec.name resource), x⟩] (.error e) s
  | read {text : String} {i : Interface} (hi : Assoc.find? resource s.interfaces = none)
      (hr : Interface.read text = .ok i) :
      Consulted s resource [⟨.request none (.resource s.spec.name resource), .ok text⟩] (.ok i)
        { s with interfaces := Assoc.insert resource i s.interfaces }

theorem consulted_of_runs {resource : String} {r : Except OperationError Interface}
    (hr : Runs (interface resource) s t r s') : Consulted s resource t r s' := by
  unfold interface at hr
  rw [runs_get_bind_iff] at hr
  split at hr
  . next i hi =>
    obtain ⟨rfl, rfl, rfl⟩ := runs_pure_iff.1 hr
    exact .known hi
  . next hi =>
    rw [runs_get_bind_iff] at hr
    obtain ⟨x, t', rfl, hx⟩ := runs_ask_bind_iff.1 hr
    cases x with
    | error e =>
      obtain ⟨rfl, rfl, rfl⟩ := runs_throw_bind_iff.1 hx
      apply Consulted.failed hi
      intro text i htext
      cases htext
    | ok text =>
      have htext := runs_pure_bind_iff.1 hx
      cases hread : Interface.read text with
      | error e =>
        rw [hread] at htext
        obtain ⟨rfl, rfl, rfl⟩ := runs_throw_bind_iff.1 htext
        apply Consulted.failed hi
        intro text' i htext' hi'
        cases htext'
        rw [hread] at hi'
        cases hi'
      | ok i =>
        rw [hread] at htext
        have hinsert := runs_modify_bind_iff.1 (runs_pure_bind_iff.1 htext)
        obtain ⟨rfl, rfl, rfl⟩ := runs_pure_iff.1 hinsert
        exact .read hi hread

theorem interface_informs (resource : String) : Informs (interface resource) := by
  intro h s t r s' hs hr
  have hnew {x : Except RepositoryError String} (hi : Assoc.find? resource s.interfaces = none)
      (name : String)
      (hname : Event.resource? ⟨.request none (.resource s.spec.name resource), x⟩ = some name)
      (i : Interface) : Assoc.find? name s.interfaces ≠ some i := by
    cases hname
    simp [hi]
  cases consulted_of_runs hr with
  | known hi =>
    rw [List.append_nil]
    exact hs
  | @failed x e hi hx =>
    apply Trace.Learned.snoc hs (hnew hi)
    intro name i
    have hread : ¬ Event.Reads ⟨.request none (.resource s.spec.name resource), x⟩ name i := by
      rintro ⟨service, text, heq, hi'⟩
      cases heq
      exact hx text i rfl hi'
    simp [hread]
  | @read text i hi hread =>
    apply Trace.Learned.snoc hs (hnew hi)
    intro name i'
    rw [Assoc.find?_insert]
    constructor
    . intro hfind
      split at hfind
      . next heq =>
        cases hfind
        rw [heq]
        exact .inr ⟨_, text, rfl, hread⟩
      . exact .inl hfind
    . rintro (hfind | ⟨service, text', heq, hread'⟩)
      . rw [if_neg]
        . exact hfind
        . intro heq
          rw [heq, hi] at hfind
          cases hfind
      . cases heq
        rw [hread] at hread'
        cases hread'
        rw [if_pos rfl]

theorem put_idle {q : Query} (hq : q.asksResource = false) : Idle (put q) := by
  intro s t r s' hr
  obtain ⟨x, rfl, -, rfl⟩ := runs_put_iff.1 hr
  refine ⟨rfl, ?_⟩
  rw [List.forall_mem_singleton]
  cases q with
  | remark m => rfl
  | request about q =>
    cases q with
    | resource name resource => cases hq
    | _ => rfl

theorem expiryAfter_idle (timeout : Nat) : Idle (Builtin.expiryAfter timeout) := by
  intro s t r s' hr
  obtain ⟨e, rfl, -, rfl⟩ | ⟨time, v, rfl, rfl, -, rfl⟩ := Builtin.runs_expiryAfter_iff.1 hr
  . exact ⟨rfl, by simp [Event.resource?]⟩
  . exact ⟨rfl, by simp [Event.resource?, Event.made]⟩

theorem saltFrom_idle (seed : Bytes) : Idle (Builtin.saltFrom seed) := by
  intro s t r s' hr
  obtain ⟨time, v, rfl, rfl, -, rfl⟩ := Builtin.runs_saltFrom_iff.1 hr
  exact ⟨rfl, by simp [Event.resource?, Event.made]⟩

theorem remember_idle (key : String) (e : KeyExpression) (v : Value) :
    Idle (remember key e v) := by
  intro s t r s' hr
  unfold remember at hr
  split at hr
  . obtain ⟨rfl, -, rfl⟩ := runs_memoize_iff.1 hr
    exact ⟨rfl, List.forall_mem_nil _⟩
  . obtain ⟨rfl, -, rfl⟩ := runs_pure_iff.1 hr
    exact ⟨rfl, List.forall_mem_nil _⟩

theorem fetch_informs {key : String} {required : Bool}
    (hs : ∀ e he,
      Keeps Informed (resolveSource (fun k _ => load k : Loader key.length) e he required)) :
    Keeps Informed (fetch key (fun k _ => load k) required) := by
  unfold fetch resolve
  apply keeps_get_bind
  intro s
  split
  . apply keeps_pure
  . apply keeps_within
    split
    . apply keeps_throw
    . next e he =>
      apply keeps_bind (hs e _)
      intro v
      refine keeps_bind (applyTransform_keeps _ v) ?_
      intro w
      apply keeps_bind (remember_idle key e w).informs
      intro _
      apply keeps_pure

theorem informed_invariant : Invariant Informed where
  put hq := (put_idle hq).informs
  interface := interface_informs
  bindTo := by
    intro h s role hb c hs
    have hi : (s.bindTo c role).interfaces = s.interfaces := by
      cases role <;> rfl
    rw [← List.append_nil h]
    exact hs.append_idle hi (List.forall_mem_nil _)
  expiryAfter timeout := (expiryAfter_idle timeout).informs
  saltFrom seed := (saltFrom_idle seed).informs
  fetch := fetch_informs

/-- The interfaces that a session knows are those that have been read, each of them once. -/
theorem Run.informed {tasks : List Task} (hs : Informed [] s) (hr : Run s tasks t s') :
    Informed t s' :=
  hr.keeps informed_invariant hs

end Session

end Registrar
