import Registrar.Proofs.Conduct.Operation

/-!
This module contains which entry of the repository a session reads from. The document of a
specification is read from the entry that the session is opened for, and interfaces are read from
the entry with the name that this document gives itself. Nothing sees to it that the two are the
same.
-/

namespace Registrar

theorem Interaction.eq_of_mem_transcript {Req : Type} {Ans : Req → Type} {α : Type}
    {answer : (r : Req) → Ans r} {x : Interaction Req Ans α} {e : (r : Req) × Ans r}
    (he : e ∈ (transcript answer x).1) : e = ⟨e.1, answer e.1⟩ := by
  induction x with
  | done a => cases he
  | ask r resume ih =>
    cases List.mem_cons.1 he with
    | inl he => rw [he]
    | inr he => exact ih (answer r) he

/-- The entry of the repository that something is read from. -/
def Event.entry? (e : Event) : Option String :=
  match e.1 with
  | .request _ (.resource name _) => some name
  | _ => none

def Trace.entries (t : Trace) : List String :=
  t.filterMap Event.entry?

theorem Trace.entries_append (t u : Trace) : Trace.entries (t ++ u) = t.entries ++ u.entries :=
  List.filterMap_append

theorem Specification.run_load_iff {entry : String} {t : List ((r : Request) × Answer r)}
    {r : Except SpecError Specification} :
    Interaction.Run (Specification.load entry) t r ↔
      ∃ x : Except RepositoryError String,
        t = [⟨.resource entry specificationResource, x⟩] ∧
        r = (x.mapError (.load entry)).bind (Specification.read entry) := by
  constructor
  . intro h
    cases h with
    | ask x h =>
      obtain ⟨rfl, rfl⟩ := Interaction.run_done_iff.1 h
      exact ⟨x, rfl, rfl⟩
  . rintro ⟨x, rfl, rfl⟩
    apply Interaction.Run.ask
    exact Interaction.Run.done _

theorem Specification.run_load_ok_iff {entry : String} {t : List ((r : Request) × Answer r)}
    {spec : Specification} :
    Interaction.Run (Specification.load entry) t (.ok spec) ↔
      ∃ document, t = [⟨.resource entry specificationResource, .ok document⟩] ∧
        Specification.read entry document = .ok spec := by
  rw [run_load_iff]
  constructor
  . rintro ⟨x | document, ht, hx⟩
    . cases hx
    . exact ⟨document, ht, hx.symm⟩
  . rintro ⟨document, ht, hread⟩
    exact ⟨.ok document, ht, hread.symm⟩

namespace Session

variable {spec : Specification} {settings : Settings} {l : Licence} {h t : Trace} {s s' : Session}

theorem Step.entries_eq (hs : Step l h s t s') : ∀ name ∈ t.entries, name = s.spec.name := by
  cases hs with
  | asked r x hr => cases r <;> simp_all [Trace.entries, Event.entry?, Request.isPlain]
  | _ => simp [Trace.entries, Event.entry?, Event.loaded, Event.made]

theorem Steps.entries_eq (hs : Steps l h s t s') : ∀ name ∈ t.entries, name = s.spec.name := by
  induction hs with
  | refl => simp [Trace.entries]
  | tail hs hu ih =>
    intro name hname
    rw [Trace.entries_append, List.mem_append] at hname
    cases hname with
    | inl hname => exact ih name hname
    | inr hname =>
      rw [← hs.spec_eq]
      exact hu.entries_eq name hname

/-- The document comes from the entry that was asked for, and everything that a session reads from
the repository then comes from the entry that the document names. These are one entry exactly if the
document has the name of the entry, unless nothing is read at all. -/
theorem entries_of_run {entry : String} {t₀ : List ((r : Request) × Answer r)} {tasks : List Task}
    (hl : Interaction.Run (Specification.load entry) t₀ (.ok spec))
    (hr : Run (start spec settings) tasks t s) :
    (∃ document, t₀ = [⟨.resource entry specificationResource, .ok document⟩] ∧
      Specification.read entry document = .ok spec) ∧
    (∀ name ∈ t.entries, name = spec.name) ∧
    ((∀ name ∈ t.entries, name = entry) ↔ spec.name = entry ∨ t.entries = []) := by
  have hname : ∀ name ∈ t.entries, name = spec.name := hr.steps.entries_eq
  refine ⟨Specification.run_load_ok_iff.1 hl, hname, ?_, ?_⟩
  . intro hentry
    cases hlist : t.entries with
    | nil => exact Or.inr rfl
    | cons name r =>
      have hmem : name ∈ t.entries := by
        rw [hlist]
        exact List.mem_cons_self
      left
      rw [← hname name hmem, hentry name hmem]
  . rintro (rfl | hnil)
    . exact hname
    . rw [hnil]
      nofun

def serving (name : String) : Specification where
  name := name
  contractAddress := "0x00000000000000000000000000000000000000a1"
  abi := "primary"
  functions := .ofList [("op", { callee := "m" })]

def servingDocument (name : String) : String :=
  serviceDocument name "\"op\":\x7b\"name\":\"m\"\x7d" ""

/-- A partner whose repository has the single entry `a`, in which a document stands together with
the interface that it refers to. -/
def hosting (document : String) : (q : Query) → q.Reply
  | .request _ (.resource name resource) =>
    if name ≠ "a" then .error (.notFound name resource)
    else if resource = specificationResource then .ok document
    else .ok (methodDocument "m" [] ["uint256"])
  | q => compliant (fun _ => "") (Bytes.ofNat 32 7) q

/-- A document that has the name of its entry is read together with its interface. -/
theorem entries_of_run_serving :
    ∃ t₀ t s, Interaction.Run (Specification.load "a") t₀ (.ok (serving "a")) ∧
      Run (start (serving "a") {}) [.call "op" none] t s ∧ t.entries = ["a"] ∧
      ∀ name ∈ t.entries, name = "a" := by
  let answer := hosting (servingDocument "a")
  have hread : Specification.read "a" (servingDocument "a") = .ok (serving "a") := by
    decide +kernel
  have hl := Specification.run_load_ok_iff.2 ⟨_, rfl, hread⟩
  have hr := run_transcript answer (start (serving "a") {}) (.call "op" none)
  refine ⟨_, _, _, hl, hr, ?_, (entries_of_run hl hr).2.2.2 (Or.inl rfl)⟩
  decide +kernel

/-- A document that is named otherwise has its interface looked for in an entry that the repository
does not have, although the interface stands next to it. -/
theorem not_entries_of_run_serving :
    ∃ t s,
      Interaction.Run (Specification.load "a")
        [⟨.resource "a" specificationResource,
          hosting (servingDocument "b") (.request none (.resource "a" specificationResource))⟩]
        (.ok (serving "b")) ∧
      Run (start (serving "b") {}) [.call "op" none] t s ∧
      (∀ e ∈ t, e = ⟨e.1, hosting (servingDocument "b") e.1⟩) ∧
      ¬ ∀ name ∈ t.entries, name = "a" := by
  let answer := hosting (servingDocument "b")
  have hread : Specification.read "a" (servingDocument "b") = .ok (serving "b") := by
    decide +kernel
  have hl := Specification.run_load_ok_iff.2 ⟨_, rfl, hread⟩
  have hr := run_transcript answer (start (serving "b") {}) (.call "op" none)
  refine ⟨_, _, hl, hr, fun e he => Interaction.eq_of_mem_transcript he, ?_⟩
  decide +kernel

end Session

end Registrar
