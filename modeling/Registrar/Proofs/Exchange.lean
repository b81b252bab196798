import Registrar.Proofs.Run
import Registrar.Rpc.Reading

/-!
This module contains the runs of exchanges with a node: what is put to it, what it answers, and how
the exchange ends. Most exchanges put one request and read its answer, and a longer one goes on as
long as the answers can be read, so that its requests come in a fixed order.
-/

namespace Registrar.Rpc

/-- A request and its answer. -/
abbrev Exchanged := (r : Request) × Reply r

abbrev Log := List Exchanged

/-- The exchange can end with the result `x`, with `log` being put to the node. -/
def Runs {α : Type} (x : Exchange α) (log : Log) (r : Except Failure α) : Prop :=
  Interaction.Run (ExceptT.run x) log r

section Runs

variable {α β : Type} {log : Log}

theorem runs_pure_iff {a : α} {r : Except Failure α} :
    Runs (pure a) log r ↔ log = [] ∧ r = .ok a :=
  Interaction.run_done_iff

theorem runs_throw_iff {f : Failure} {r : Except Failure α} :
    Runs (throw f) log r ↔ log = [] ∧ r = .error f :=
  Interaction.run_done_iff

theorem runs_ask_iff {q : Request} {r : Except Failure Json} :
    Runs (ask q) log r ↔ log = [⟨q, r⟩] := by
  unfold Runs
  rw [show ExceptT.run (ask q) = .ask q .done from rfl]
  constructor
  . intro h
    cases h with
    | ask y h =>
      obtain ⟨rfl, rfl⟩ := Interaction.run_done_iff.1 h
      rfl
  . rintro rfl
    apply Interaction.Run.ask
    exact Interaction.Run.done r

theorem runs_bind_iff {x : Exchange α} {f : α → Exchange β} {r : Except Failure β} :
    Runs (x >>= f) log r ↔
      (∃ a u v, log = u ++ v ∧ Runs x u (.ok a) ∧ Runs (f a) v r) ∨
        ∃ e, r = .error e ∧ Runs x log (.error e) := by
  unfold Runs
  have hbind : ExceptT.run (x >>= f) = Interaction.bind (ExceptT.run x) fun
      | .ok a => ExceptT.run (f a)
      | .error e => .done (.error e) := by
    show Interaction.bind (ExceptT.run x) _ = _
    congr 1
    funext a
    cases a <;> rfl
  rw [hbind, Interaction.run_bind_iff]
  constructor
  . rintro ⟨a, u, v, rfl, hu, hv⟩
    cases a with
    | ok a => exact Or.inl ⟨a, u, v, rfl, hu, hv⟩
    | error e =>
      obtain ⟨rfl, rfl⟩ := Interaction.run_done_iff.1 hv
      rw [List.append_nil]
      exact Or.inr ⟨e, rfl, hu⟩
  . rintro (⟨a, u, v, rfl, hu, hv⟩ | ⟨e, rfl, h⟩)
    . exact ⟨.ok a, u, v, rfl, hu, hv⟩
    . exact ⟨.error e, log, [], (List.append_nil log).symm, h, .done _⟩

end Runs

/-- An exchange puts one request and reads the answer. -/
def Inquires {α : Type} (x : Exchange α) (q : Request)
    (read : Except Failure Json → Except Failure α) : Prop :=
  ∀ log r, Runs x log r ↔ ∃ y, log = [⟨q, y⟩] ∧ r = read y

/-- What an answer is read as. -/
def readAs {α : Type} (what : String) (read : Json → Option α) (y : Except Failure Json) :
    Except Failure α :=
  y.bind fun j => (read j).elim (.error (.malformed ("expected " ++ what))) .ok

theorem readAs_eq_ok {α : Type} {what : String} {read : Json → Option α} {j : Json} {a : α}
    (h : read j = some a) : readAs what read (.ok j) = .ok a := by
  show (read j).elim _ _ = _
  rw [h]
  rfl

section Inquires

variable {α β : Type} {x : Exchange α} {q : Request}
  {read : Except Failure Json → Except Failure α}

theorem runs_expect_iff {what : String} {a : Option α} {log : Log} {r : Except Failure α} :
    Runs (expect what a) log r ↔
      log = [] ∧ r = a.elim (.error (.malformed ("expected " ++ what))) .ok := by
  cases a with
  | none => exact runs_throw_iff
  | some a => exact runs_pure_iff

theorem inquires_ask (q : Request) : Inquires (ask q) q id := by
  intro log r
  rw [runs_ask_iff]
  simp

/-- An exchange goes on without another request. -/
theorem Inquires.bind (hx : Inquires x q read) {k : α → Exchange β} {f : α → Except Failure β}
    (hk : ∀ a log r, Runs (k a) log r ↔ log = [] ∧ r = f a) :
    Inquires (x >>= k) q fun y => (read y).bind f := by
  intro log r
  rw [runs_bind_iff]
  simp only [hx _ _, hk]
  constructor
  . rintro (⟨a, u, v, rfl, ⟨y, rfl, hy⟩, rfl, rfl⟩ | ⟨e, rfl, y, rfl, hy⟩)
    . exact ⟨y, rfl, by rw [← hy]; rfl⟩
    . exact ⟨y, rfl, by rw [← hy]; rfl⟩
  . rintro ⟨y, rfl, rfl⟩
    cases hy : read y with
    | ok a => exact Or.inl ⟨a, _, [], rfl, ⟨y, rfl, hy.symm⟩, rfl, rfl⟩
    | error e => exact Or.inr ⟨e, rfl, y, rfl, hy.symm⟩

theorem inquires_expect (q : Request) (what : String) (read : Json → Option α) :
    Inquires (ask q >>= fun j => expect what (read j)) q (readAs what read) :=
  (inquires_ask q).bind fun _ _ _ => runs_expect_iff

/-- An exchange goes on if the answer to its first request is read, and ends otherwise. -/
theorem Inquires.runs_bind_iff (hx : Inquires x q read) {k : α → Exchange β} {log : Log}
    {r : Except Failure β} :
    Runs (x >>= k) log r ↔
      (∃ y f, read y = .error f ∧ log = [⟨q, y⟩] ∧ r = .error f) ∨
        ∃ y a u, read y = .ok a ∧ log = ⟨q, y⟩ :: u ∧ Runs (k a) u r := by
  rw [Rpc.runs_bind_iff]
  simp only [hx _ _]
  constructor
  . rintro (⟨a, u, v, rfl, ⟨y, rfl, hy⟩, hk⟩ | ⟨e, rfl, y, rfl, hy⟩)
    . exact Or.inr ⟨y, a, v, hy.symm, rfl, hk⟩
    . exact Or.inl ⟨y, e, hy.symm, rfl, rfl⟩
  . rintro (⟨y, f, hy, rfl, rfl⟩ | ⟨y, a, u, hy, rfl, hk⟩)
    . exact Or.inr ⟨f, rfl, y, rfl, hy.symm⟩
    . exact Or.inl ⟨a, _, u, rfl, ⟨y, rfl, hy.symm⟩, hk⟩

theorem Inquires.runs_bind_ok_iff (hx : Inquires x q read) {k : α → Exchange β} {log : Log}
    {b : β} :
    Runs (x >>= k) log (.ok b) ↔
      ∃ y a u, read y = .ok a ∧ log = ⟨q, y⟩ :: u ∧ Runs (k a) u (.ok b) := by
  rw [hx.runs_bind_iff, or_iff_right]
  rintro ⟨_, _, -, -, ⟨⟩⟩

end Inquires

def failureOf {α : Type} : Except Failure α → Option Failure
  | .ok _ => none
  | .error f => some f

section Orderly

variable {α β : Type} {failure? : Exchanged → Option Failure} {log : Log} {qs : List Request}

/-- No answer amounts to a failure but the last one, if the exchange fails. -/
def Stops (failure? : Exchanged → Option Failure) (log : Log) : Except Failure α → Prop
  | .ok _ => ∀ e ∈ log, failure? e = none
  | .error f => ∃ before e, log = before ++ [e] ∧ (∀ e' ∈ before, failure? e' = none) ∧
      failure? e = some f

theorem Stops.cons {e : Exchanged} {r : Except Failure α} (he : failure? e = none)
    (h : Stops failure? log r) : Stops failure? (e :: log) r := by
  cases r with
  | ok a => exact List.forall_mem_cons.2 ⟨he, h⟩
  | error f =>
    obtain ⟨before, e', rfl, hbefore, he'⟩ := h
    exact ⟨e :: before, e', rfl, List.forall_mem_cons.2 ⟨he, hbefore⟩, he'⟩

/-- The requests are put in the given order, as far as they are put, and the first answer that
amounts to a failure is the end. -/
def Orderly (failure? : Exchanged → Option Failure) (qs : List Request) (x : Exchange α) : Prop :=
  ∀ log r, Runs x log r → log.map Sigma.fst <+: qs ∧ Stops failure? log r

theorem orderly_pure (qs : List Request) (a : α) : Orderly failure? qs (pure a : Exchange α) := by
  intro log r hr
  obtain ⟨rfl, rfl⟩ := runs_pure_iff.1 hr
  exact ⟨List.nil_prefix, nofun⟩

theorem Inquires.orderly_bind {x : Exchange α} {q : Request}
    {read : Except Failure Json → Except Failure α} {k : α → Exchange β} (hx : Inquires x q read)
    (hf : ∀ y, failure? ⟨q, y⟩ = failureOf (read y)) (hk : ∀ a, Orderly failure? qs (k a)) :
    Orderly failure? (q :: qs) (x >>= k) := by
  intro log r hr
  obtain ⟨y, f, hy, rfl, rfl⟩ | ⟨y, a, u, hy, rfl, hu⟩ := hx.runs_bind_iff.1 hr
  . have hfailure : failure? ⟨q, y⟩ = some f := by rw [hf, hy, failureOf]
    exact ⟨⟨qs, rfl⟩, [], ⟨q, y⟩, rfl, nofun, hfailure⟩
  . obtain ⟨horder, hstops⟩ := hk a u r hu
    refine ⟨List.cons_prefix_cons.2 ⟨rfl, horder⟩, hstops.cons ?_⟩
    rw [hf, hy, failureOf]

end Orderly

/-- What is expected of an answer, passed on. -/
theorem runs_expect_bind_iff {α β : Type} {what : String} {read : Json → Option α} {j : Json}
    {g : α → β} {log : Log} {r : Except Failure β} :
    Runs (expect what (read j) >>= fun a => pure (g a)) log r ↔
      log = [] ∧ r = (readAs what read (.ok j)).map g := by
  unfold readAs Except.bind
  dsimp only
  cases read j with
  | none => exact runs_throw_iff
  | some a => exact runs_pure_iff

end Registrar.Rpc
