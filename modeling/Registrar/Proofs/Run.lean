import Registrar.Session

/-!
This module contains the runs of interactions and of the computations of a session: what is put to
the outside, what is answered, and how it ends. The answers are left open, so that a statement about
every run is a statement about every partner.
-/

namespace Registrar

namespace Interaction

variable {Req : Type} {Ans : Req → Type} {α β : Type}

/-- The interaction ends with a result after it has put requests and been answered in this way. -/
inductive Run : Interaction Req Ans α → List ((r : Req) × Ans r) → α → Prop where
  | done (a : α) : Run (.done a) [] a
  | ask {r : Req} {resume : Ans r → Interaction Req Ans α} {t : List ((r : Req) × Ans r)} {a : α}
      (x : Ans r) (h : Run (resume x) t a) : Run (.ask r resume) (⟨r, x⟩ :: t) a

theorem run_done_iff {a b : α} {t : List ((r : Req) × Ans r)} :
    Run (.done a) t b ↔ t = [] ∧ b = a := by
  constructor
  . intro h
    cases h
    simp
  . rintro ⟨rfl, rfl⟩
    exact Run.done b

theorem run_bind_iff {x : Interaction Req Ans α} {f : α → Interaction Req Ans β}
    {t : List ((r : Req) × Ans r)} {b : β} :
    Run (bind x f) t b ↔ ∃ a t₁ t₂, t = t₁ ++ t₂ ∧ Run x t₁ a ∧ Run (f a) t₂ b := by
  constructor
  . intro h
    induction x generalizing t with
    | done a => exact ⟨a, [], t, rfl, Run.done a, h⟩
    | ask r resume ih =>
      cases h with
      | ask y h =>
        obtain ⟨a, t₁, t₂, rfl, h₁, h₂⟩ := ih y h
        exact ⟨a, ⟨r, y⟩ :: t₁, t₂, rfl, Run.ask y h₁, h₂⟩
  . rintro ⟨a, t₁, t₂, rfl, h₁, h₂⟩
    induction h₁ with
    | done a => exact h₂
    | ask y _ ih => exact Run.ask y (ih h₂)

/-- What is put to a partner who answers equal requests alike, and how it ends. -/
def transcript (answer : (r : Req) → Ans r) :
    Interaction Req Ans α → List ((r : Req) × Ans r) × α
  | .done a => ([], a)
  | .ask r resume =>
    let (t, a) := transcript answer (resume (answer r))
    (⟨r, answer r⟩ :: t, a)

theorem run_transcript (answer : (r : Req) → Ans r) (x : Interaction Req Ans α) :
    Run x (transcript answer x).1 (transcript answer x).2 := by
  induction x with
  | done a => exact Run.done a
  | ask r resume ih => exact Run.ask (answer r) (ih (answer r))

end Interaction

/-- Something that is put to the outside, and its answer. -/
abbrev Event := (q : Query) × q.Reply

/-- What is put to the outside in the course of time. -/
abbrev Trace := List Event

namespace Engine

variable {α β : Type} {s s' : Session} {t : Trace}

/-- From the session `s` on, the computation can end with the result `r` in the session `s'`, with
`t` being put to the outside. -/
def Runs (x : Engine α) (s : Session) (t : Trace) (r : Except OperationError α) (s' : Session) :
    Prop :=
  Interaction.Run ((ExceptT.run x).run s) t (r, s')

/-- What is put to a partner who answers equal queries alike, and how it ends. -/
def transcript (answer : (q : Query) → q.Reply) (x : Engine α) (s : Session) :
    Trace × Except OperationError α × Session :=
  Interaction.transcript answer ((ExceptT.run x).run s)

theorem runs_transcript (answer : (q : Query) → q.Reply) (x : Engine α) (s : Session) :
    Runs x s (transcript answer x s).1 (transcript answer x s).2.1 (transcript answer x s).2.2 := by
  exact Interaction.run_transcript answer ((ExceptT.run x).run s)

theorem exists_runs_of_map_eq_some {answer : (q : Query) → q.Reply} {x : Engine α} {f : α → β} {b : β}
    (h : (transcript answer x s).2.1.toOption.map f = some b) :
    ∃ a, f a = b ∧ Runs x s (transcript answer x s).1 (.ok a) (transcript answer x s).2.2 := by
  have hr := runs_transcript answer x s
  cases hx : (transcript answer x s).2.1 with
  | ok a =>
    rw [hx] at h hr
    cases h
    exact ⟨a, rfl, hr⟩
  | error e =>
    rw [hx] at h
    cases h

theorem runs_pure_iff {a : α} {r : Except OperationError α} :
    Runs (pure a) s t r s' ↔ t = [] ∧ r = .ok a ∧ s' = s := by
  unfold Runs
  rw [show (ExceptT.run (pure a : Engine α)).run s = .done (.ok a, s) from rfl]
  rw [Interaction.run_done_iff]
  rw [Prod.mk.injEq]

theorem runs_throw_iff {e : OperationError} {r : Except OperationError α} :
    Runs (throw e) s t r s' ↔ t = [] ∧ r = .error e ∧ s' = s := by
  unfold Runs
  rw [show (ExceptT.run (throw e : Engine α)).run s = .done (.error e, s) from rfl]
  rw [Interaction.run_done_iff]
  rw [Prod.mk.injEq]

theorem runs_get_iff {r : Except OperationError Session} :
    Runs get s t r s' ↔ t = [] ∧ r = .ok s ∧ s' = s := by
  unfold Runs
  rw [show (ExceptT.run (get : Engine Session)).run s = .done (.ok s, s) from rfl]
  rw [Interaction.run_done_iff]
  rw [Prod.mk.injEq]

theorem runs_modify_iff {f : Session → Session} {r : Except OperationError Unit} :
    Runs (modify f) s t r s' ↔ t = [] ∧ r = .ok () ∧ s' = f s := by
  unfold Runs
  rw [show (ExceptT.run (modify f : Engine Unit)).run s = .done (.ok (), f s) from rfl]
  rw [Interaction.run_done_iff]
  rw [Prod.mk.injEq]

theorem runs_put_iff {q : Query} {r : Except OperationError q.Reply} :
    Runs (put q) s t r s' ↔ ∃ x, t = [⟨q, x⟩] ∧ r = .ok x ∧ s' = s := by
  unfold Runs
  rw [show (ExceptT.run (put q)).run s = .ask q fun x => .done (.ok x, s) from rfl]
  constructor
  . intro h
    cases h with
    | ask x h =>
      obtain ⟨rfl, heq⟩ := Interaction.run_done_iff.1 h
      rw [Prod.mk.injEq] at heq
      exact ⟨x, rfl, heq.1, heq.2⟩
  . rintro ⟨x, rfl, rfl, rfl⟩
    exact Interaction.Run.ask x (Interaction.Run.done _)

theorem runs_ask_iff {q : Request} {r : Except OperationError (Answer q)} :
    Runs (ask q) s t r s' ↔ ∃ x, t = [⟨.request none q, x⟩] ∧ r = .ok x ∧ s' = s := by
  exact runs_put_iff

theorem runs_say_iff {m : Remark} {r : Except OperationError Unit} :
    Runs (say m) s t r s' ↔ t = [⟨.remark m, ()⟩] ∧ r = .ok () ∧ s' = s := by
  constructor
  . intro h
    obtain ⟨x, ht, hr, hs⟩ := runs_put_iff.1 h
    exact ⟨ht, hr, hs⟩
  . rintro ⟨ht, hr, hs⟩
    exact runs_put_iff.2 ⟨(), ht, hr, hs⟩

theorem runs_bind_iff {x : Engine α} {f : α → Engine β} {r : Except OperationError β} :
    Runs (x >>= f) s t r s' ↔
      (∃ a s₁ t₁ t₂, t = t₁ ++ t₂ ∧ Runs x s t₁ (.ok a) s₁ ∧ Runs (f a) s₁ t₂ r s') ∨
        ∃ e, r = .error e ∧ Runs x s t (.error e) s' := by
  unfold Runs
  -- a step behind a failed one is skipped with the session as it is
  have hbind : (ExceptT.run (x >>= f)).run s =
      Interaction.bind ((ExceptT.run x).run s) fun p =>
        match p with
        | (.ok a, s₁) => (ExceptT.run (f a)).run s₁
        | (.error e, s₁) => .done (.error e, s₁) := by
    show Interaction.bind ((ExceptT.run x).run s) _ = _
    congr 1
    funext p
    rcases p with ⟨a | a, s₁⟩ <;> rfl
  rw [hbind]
  rw [Interaction.run_bind_iff]
  constructor
  . rintro ⟨⟨a | a, s₁⟩, t₁, t₂, rfl, h₁, h₂⟩
    . obtain ⟨rfl, heq⟩ := Interaction.run_done_iff.1 h₂
      rw [Prod.mk.injEq] at heq
      obtain ⟨rfl, rfl⟩ := heq
      right
      rw [List.append_nil]
      exact ⟨a, rfl, h₁⟩
    . left
      exact ⟨a, s₁, t₁, t₂, rfl, h₁, h₂⟩
  . rintro (⟨a, s₁, t₁, t₂, rfl, h₁, h₂⟩ | ⟨e, rfl, h⟩)
    . exact ⟨(.ok a, s₁), t₁, t₂, rfl, h₁, h₂⟩
    . exact ⟨(.error e, s'), t, [], (List.append_nil t).symm, h, Interaction.Run.done _⟩

theorem runs_ofExcept_iff {ε : Type} {wrap : ε → OperationError} {x : Except ε α}
    {r : Except OperationError α} :
    Runs (ofExcept wrap x) s t r s' ↔ t = [] ∧ r = x.mapError wrap ∧ s' = s := by
  cases x with
  | ok a => exact runs_pure_iff
  | error e => exact runs_throw_iff

theorem runs_within_iff {wrap : OperationError → OperationError} {x : Engine α}
    {r : Except OperationError α} :
    Runs (within wrap x) s t r s' ↔ ∃ r₀, r = r₀.mapError wrap ∧ Runs x s t r₀ s' := by
  unfold Runs
  have hwithin : (ExceptT.run (within wrap x)).run s =
      Interaction.bind ((ExceptT.run x).run s) fun p => .done (p.1.mapError wrap, p.2) := by
    rfl
  rw [hwithin]
  rw [Interaction.run_bind_iff]
  constructor
  . rintro ⟨⟨r₀, s₁⟩, t₁, t₂, rfl, h₁, h₂⟩
    obtain ⟨rfl, heq⟩ := Interaction.run_done_iff.1 h₂
    rw [Prod.mk.injEq] at heq
    obtain ⟨rfl, rfl⟩ := heq
    rw [List.append_nil]
    exact ⟨r₀, rfl, h₁⟩
  . rintro ⟨r₀, rfl, h⟩
    exact ⟨(r₀, s'), t, [], (List.append_nil t).symm, h, Interaction.Run.done _⟩

theorem runs_memoize_iff {key : String} {v : Value} {r : Except OperationError Unit} :
    Runs (memoize key v) s t r s' ↔
      t = [] ∧ r = .ok () ∧ s' = { s with cache := s.cache.memoize key v } := by
  exact runs_modify_iff

/-- What follows a computation that asks nothing and succeeds. -/
theorem runs_bind_of_ok {x : Engine α} {f : α → Engine β} {a : α} {s₁ : Session}
    {r : Except OperationError β}
    (hx : ∀ t r s', Runs x s t r s' ↔ t = [] ∧ r = .ok a ∧ s' = s₁) :
    Runs (x >>= f) s t r s' ↔ Runs (f a) s₁ t r s' := by
  rw [runs_bind_iff]
  constructor
  . rintro (⟨b, s₂, t₁, t₂, rfl, h₁, h₂⟩ | ⟨e, -, h⟩)
    . obtain ⟨rfl, hb, rfl⟩ := (hx _ _ _).1 h₁
      cases hb
      exact h₂
    . obtain ⟨-, he, -⟩ := (hx _ _ _).1 h
      cases he
  . intro h
    left
    exact ⟨a, s₁, [], t, rfl, (hx _ _ _).2 ⟨rfl, rfl, rfl⟩, h⟩

theorem runs_bind_of_error {x : Engine α} {f : α → Engine β} {e : OperationError}
    {r : Except OperationError β}
    (hx : ∀ t r s', Runs x s t r s' ↔ t = [] ∧ r = .error e ∧ s' = s) :
    Runs (x >>= f) s t r s' ↔ t = [] ∧ r = .error e ∧ s' = s := by
  rw [runs_bind_iff]
  constructor
  . rintro (⟨b, s₁, t₁, t₂, -, h₁, -⟩ | ⟨e', hr, h⟩)
    . obtain ⟨-, hb, -⟩ := (hx _ _ _).1 h₁
      cases hb
    . obtain ⟨rfl, he, rfl⟩ := (hx _ _ _).1 h
      cases he
      exact ⟨rfl, hr, rfl⟩
  . rintro ⟨rfl, rfl, rfl⟩
    right
    exact ⟨e, rfl, (hx _ _ _).2 ⟨rfl, rfl, rfl⟩⟩

theorem runs_pure_bind_iff {a : α} {f : α → Engine β} {r : Except OperationError β} :
    Runs (pure a >>= f) s t r s' ↔ Runs (f a) s t r s' := by
  apply runs_bind_of_ok
  intro t r s'
  exact runs_pure_iff

theorem runs_throw_bind_iff {e : OperationError} {f : α → Engine β}
    {r : Except OperationError β} :
    Runs (throw e >>= f) s t r s' ↔ t = [] ∧ r = .error e ∧ s' = s := by
  apply runs_bind_of_error
  intro t r s'
  exact runs_throw_iff

theorem runs_get_bind_iff {f : Session → Engine β} {r : Except OperationError β} :
    Runs (get >>= f) s t r s' ↔ Runs (f s) s t r s' := by
  apply runs_bind_of_ok
  intro t r s'
  exact runs_get_iff

theorem runs_modify_bind_iff {g : Session → Session} {f : Unit → Engine β}
    {r : Except OperationError β} :
    Runs (modify g >>= f) s t r s' ↔ Runs (f ()) (g s) t r s' := by
  apply runs_bind_of_ok
  intro t r s'
  exact runs_modify_iff

theorem runs_put_bind_iff {q : Query} {f : q.Reply → Engine β} {r : Except OperationError β} :
    Runs (put q >>= f) s t r s' ↔ ∃ x t', t = ⟨q, x⟩ :: t' ∧ Runs (f x) s t' r s' := by
  rw [runs_bind_iff]
  constructor
  . rintro (⟨b, s₁, t₁, t₂, rfl, h₁, h₂⟩ | ⟨e, -, h⟩)
    . obtain ⟨x, rfl, hb, rfl⟩ := runs_put_iff.1 h₁
      cases hb
      exact ⟨b, t₂, rfl, h₂⟩
    . obtain ⟨x, -, he, -⟩ := runs_put_iff.1 h
      cases he
  . rintro ⟨x, t', rfl, h⟩
    left
    exact ⟨x, s, [⟨q, x⟩], t', rfl, runs_put_iff.2 ⟨x, rfl, rfl, rfl⟩, h⟩

theorem runs_ask_bind_iff {q : Request} {f : Answer q → Engine β} {r : Except OperationError β} :
    Runs (ask q >>= f) s t r s' ↔
      ∃ x t', t = ⟨.request none q, x⟩ :: t' ∧ Runs (f x) s t' r s' := by
  exact runs_put_bind_iff

theorem runs_askAbout_bind_iff {role : Role} {q : Request} {f : Answer q → Engine β}
    {r : Except OperationError β} :
    Runs (askAbout role q >>= f) s t r s' ↔
      ∃ x t', t = ⟨.request (some role) q, x⟩ :: t' ∧ Runs (f x) s t' r s' := by
  exact runs_put_bind_iff

theorem runs_bind_ok_iff {x : Engine α} {f : α → Engine β} {b : β} :
    Runs (x >>= f) s t (.ok b) s' ↔
      ∃ a s₁ t₁ t₂, t = t₁ ++ t₂ ∧ Runs x s t₁ (.ok a) s₁ ∧ Runs (f a) s₁ t₂ (.ok b) s' := by
  rw [runs_bind_iff]
  constructor
  . rintro (h | ⟨e, he, -⟩)
    . exact h
    . cases he
  . exact Or.inl

theorem runs_ofExcept_ok_iff {ε : Type} {wrap : ε → OperationError} {x : Except ε α} {a : α} :
    Runs (ofExcept wrap x) s t (.ok a) s' ↔ t = [] ∧ x = .ok a ∧ s' = s := by
  rw [runs_ofExcept_iff]
  cases x with
  | ok b =>
    constructor
    . rintro ⟨ht, heq, hs⟩
      cases heq
      exact ⟨ht, rfl, hs⟩
    . rintro ⟨ht, heq, hs⟩
      cases heq
      exact ⟨ht, rfl, hs⟩
  | error e =>
    constructor
    . rintro ⟨-, heq, -⟩
      cases heq
    . rintro ⟨-, heq, -⟩
      cases heq

theorem runs_bind_ofExcept_ok_iff {x : Engine α} {g : α → Except OperationError β} {b : β} :
    Runs (x >>= fun a => ofExcept id (g a)) s t (.ok b) s' ↔
      ∃ a, Runs x s t (.ok a) s' ∧ g a = .ok b := by
  rw [runs_bind_ok_iff]
  constructor
  . rintro ⟨a, s₁, t₁, t₂, rfl, ha, hb⟩
    obtain ⟨rfl, hg, rfl⟩ := runs_ofExcept_ok_iff.1 hb
    rw [List.append_nil]
    exact ⟨a, ha, hg⟩
  . rintro ⟨a, ha, hg⟩
    exact ⟨a, s', t, [], (List.append_nil t).symm, ha, runs_ofExcept_ok_iff.2 ⟨rfl, hg, rfl⟩⟩

theorem runs_bind_ofExcept_error_iff {x : Engine α} {g : α → Except OperationError β}
    {e : OperationError} :
    Runs (x >>= fun a => ofExcept id (g a)) s t (.error e) s' ↔
      (∃ a, Runs x s t (.ok a) s' ∧ g a = .error e) ∨ Runs x s t (.error e) s' := by
  rw [runs_bind_iff]
  constructor
  . rintro (⟨a, s₁, t₁, t₂, rfl, ha, he⟩ | ⟨e', heq, he⟩)
    . left
      obtain ⟨rfl, heq, rfl⟩ := runs_ofExcept_iff.1 he
      rw [List.append_nil]
      cases hg : g a with
      | ok b =>
        rw [hg] at heq
        cases heq
      | error e' =>
        rw [hg] at heq
        cases heq
        exact ⟨a, ha, hg⟩
    . cases heq
      exact Or.inr he
  . rintro (⟨a, ha, hg⟩ | he)
    . left
      refine ⟨a, s', t, [], (List.append_nil t).symm, ha, ?_⟩
      rw [runs_ofExcept_iff, hg]
      exact ⟨rfl, rfl, rfl⟩
    . exact Or.inr ⟨e, rfl, he⟩

theorem runs_within_ok_iff {wrap : OperationError → OperationError} {x : Engine α} {a : α} :
    Runs (within wrap x) s t (.ok a) s' ↔ Runs x s t (.ok a) s' := by
  rw [runs_within_iff]
  constructor
  . rintro ⟨r₀, heq, h⟩
    cases r₀ with
    | ok b =>
      cases heq
      exact h
    | error e => cases heq
  . intro h
    exact ⟨.ok a, rfl, h⟩

end Engine

end Registrar
