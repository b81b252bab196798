import Registrar.Proofs.Run

/-!
This module contains pairs of computations that go alike if they are answered alike: what they put to
the outside corresponds, one query after the other, and they end with results that correspond or with
the same error. What corresponds to what is left open, for queries with their answers, for sessions
and for results, so that each way of making computations out of others has one rule.
-/

namespace Registrar

namespace Interaction

variable {Req : Type} {Ans : Req → Type} {α β γ δ : Type}

/-- Two requests correspond if they do so with some answers. -/
def Comparable (A : (r : Req) × Ans r → (r : Req) × Ans r → Prop) (q q' : Req) : Prop :=
  ∃ x x', A ⟨q, x⟩ ⟨q', x'⟩

/-- As long as the requests correspond, they do so with their answers. -/
def AnsweredAlike (A : (r : Req) × Ans r → (r : Req) × Ans r → Prop) :
    List ((r : Req) × Ans r) → List ((r : Req) × Ans r) → Prop
  | e :: t, e' :: t' => Comparable A e.1 e'.1 → A e e' ∧ AnsweredAlike A t t'
  | _, _ => True

/-- As long as they are answered alike, the interactions put corresponding requests, and end with
corresponding results. -/
inductive Paired (A : (r : Req) × Ans r → (r : Req) × Ans r → Prop) (P : α → β → Prop) :
    Interaction Req Ans α → Interaction Req Ans β → Prop where
  | done {a : α} {b : β} (h : P a b) : Paired A P (.done a) (.done b)
  | ask {q q' : Req} {resume : Ans q → Interaction Req Ans α}
      {resume' : Ans q' → Interaction Req Ans β} (hq : Comparable A q q')
      (h : ∀ x x', A ⟨q, x⟩ ⟨q', x'⟩ → Paired A P (resume x) (resume' x')) :
      Paired A P (.ask q resume) (.ask q' resume')

variable {A : (r : Req) × Ans r → (r : Req) × Ans r → Prop} {P : α → β → Prop}
  {t t' : List ((r : Req) × Ans r)}

theorem AnsweredAlike.and {B : (r : Req) × Ans r → Prop} (h : AnsweredAlike A t t')
    (hB : ∀ e ∈ t, B e) : AnsweredAlike (fun e e' => A e e' ∧ B e) t t' := by
  induction t generalizing t' with
  | nil => trivial
  | cons e t ih =>
    cases t' with
    | nil => trivial
    | cons e' t' =>
      rintro ⟨x, x', hx⟩
      obtain ⟨he, ht⟩ := h ⟨x, x', hx.1⟩
      obtain ⟨hBe, hBt⟩ := List.forall_mem_cons.1 hB
      exact ⟨⟨he, hBe⟩, ih ht hBt⟩

theorem Paired.of_runs {x : Interaction Req Ans α} {y : Interaction Req Ans β} {a : α} {b : β}
    (h : Paired A P x y) (hx : Run x t a) (hy : Run y t' b) (ht : AnsweredAlike A t t') : P a b := by
  induction h generalizing t t' with
  | done h =>
    obtain ⟨-, rfl⟩ := run_done_iff.1 hx
    obtain ⟨-, rfl⟩ := run_done_iff.1 hy
    exact h
  | ask hq _ ih =>
    cases hx with
    | ask z hx =>
      cases hy with
      | ask z' hy =>
        obtain ⟨he, ht⟩ := ht hq
        exact ih z z' he hx hy ht

theorem answeredAlike_transcript {f g : (r : Req) → Ans r}
    (h : ∀ q q', Comparable A q q' → A ⟨q, f q⟩ ⟨q', g q'⟩) (x : Interaction Req Ans α)
    (y : Interaction Req Ans β) : AnsweredAlike A (transcript f x).1 (transcript g y).1 := by
  induction x generalizing y with
  | done a => trivial
  | ask q resume ih =>
    cases y with
    | done b => trivial
    | ask q' resume' => exact fun hq => ⟨h q q' hq, ih (f q) (resume' (g q'))⟩

theorem Paired.mono {Q : α → β → Prop} {x : Interaction Req Ans α} {y : Interaction Req Ans β}
    (h : Paired A P x y) (hPQ : ∀ a b, P a b → Q a b) : Paired A Q x y := by
  induction h with
  | done h => exact .done (hPQ _ _ h)
  | ask hq _ ih => exact .ask hq ih

theorem Paired.bind {Q : γ → δ → Prop} {x : Interaction Req Ans α} {y : Interaction Req Ans β}
    {f : α → Interaction Req Ans γ} {g : β → Interaction Req Ans δ} (h : Paired A P x y)
    (hf : ∀ a b, P a b → Paired A Q (f a) (g b)) :
    Paired A Q (Interaction.bind x f) (Interaction.bind y g) := by
  induction h with
  | done h => exact hf _ _ h
  | ask hq _ ih => exact .ask hq ih

end Interaction

/-- Two computations end with results that correspond, or with the same error. -/
inductive SameEnd {ε α β : Type} (R : α → β → Prop) : Except ε α → Except ε β → Prop where
  | ok {a : α} {b : β} (h : R a b) : SameEnd R (.ok a) (.ok b)
  | error (e : ε) : SameEnd R (.error e) (.error e)

theorem sameEnd_self {ε α : Type} (x : Except ε α) :
    SameEnd (fun a b => a = b ∧ x = .ok a) x x := by
  cases x with
  | ok a => exact .ok ⟨rfl, rfl⟩
  | error e => exact .error e

theorem SameEnd.mono {ε α β : Type} {R Q : α → β → Prop} {x : Except ε α} {y : Except ε β}
    (h : SameEnd R x y) (hRQ : ∀ a b, R a b → Q a b) : SameEnd Q x y := by
  cases h with
  | ok h => exact .ok (hRQ _ _ h)
  | error e => exact .error e

theorem SameEnd.mapError {ε ε' α β : Type} {R : α → β → Prop} {x : Except ε α} {y : Except ε β}
    (h : SameEnd R x y) (wrap : ε → ε') : SameEnd R (x.mapError wrap) (y.mapError wrap) := by
  cases h with
  | ok h => exact .ok h
  | error e => exact .error (wrap e)

namespace Engine

variable {α β γ δ : Type} {S : Session → Session → Prop} {A : Event → Event → Prop}
  {R : α → β → Prop} {Q : γ → δ → Prop} {x : Engine α} {y : Engine β}

/-- From corresponding sessions on, the computations go alike as long as they are answered alike. -/
def Paired (S : Session → Session → Prop) (A : Event → Event → Prop) (R : α → β → Prop)
    (x : Engine α) (y : Engine β) : Prop :=
  ∀ s s', S s s' →
    Interaction.Paired A (fun p p' => SameEnd R p.1 p'.1 ∧ S p.2 p'.2)
      ((ExceptT.run x).run s) ((ExceptT.run y).run s')

theorem Paired.of_runs {s s' s₁ s₁' : Session} {t t' : Trace} {r : Except OperationError α}
    {r' : Except OperationError β} (h : Paired S A R x y) (hs : S s s') (hx : Runs x s t r s₁)
    (hy : Runs y s' t' r' s₁') (ht : Interaction.AnsweredAlike A t t') :
    SameEnd R r r' ∧ S s₁ s₁' :=
  (h s s' hs).of_runs hx hy ht

theorem paired_pure {a : α} {b : β} (h : R a b) : Paired S A R (pure a) (pure b) :=
  fun _ _ hs => .done ⟨.ok h, hs⟩

theorem paired_throw (e : OperationError) : Paired S A R (throw e) (throw e) :=
  fun _ _ hs => .done ⟨.error e, hs⟩

theorem paired_get : Paired S A S get get :=
  fun _ _ hs => .done ⟨.ok hs, hs⟩

theorem paired_modify {f g : Session → Session} (h : ∀ s s', S s s' → S (f s) (g s')) :
    Paired S A (fun _ _ => True) (modify f) (modify g) :=
  fun s s' hs => .done ⟨.ok trivial, h s s' hs⟩

theorem paired_put {q q' : Query} {R : q.Reply → q'.Reply → Prop}
    (hq : Interaction.Comparable A q q') (h : ∀ x x', A ⟨q, x⟩ ⟨q', x'⟩ → R x x') :
    Paired S A R (put q) (put q') :=
  fun _ _ hs => .ask hq fun x x' hx => .done ⟨.ok (h x x' hx), hs⟩

theorem paired_ask (r r' : Request) {R : Answer r → Answer r' → Prop}
    (hq : Interaction.Comparable A (.request none r) (.request none r'))
    (h : ∀ x x', A ⟨.request none r, x⟩ ⟨.request none r', x'⟩ → R x x') :
    Paired S A R (ask r) (ask r') :=
  paired_put hq h

theorem paired_askAbout (role : Role) (r r' : Request) {R : Answer r → Answer r' → Prop}
    (hq : Interaction.Comparable A (.request (some role) r) (.request (some role) r'))
    (h : ∀ x x', A ⟨.request (some role) r, x⟩ ⟨.request (some role) r', x'⟩ → R x x') :
    Paired S A R (askAbout role r) (askAbout role r') :=
  paired_put hq h

theorem Paired.mono {R' : α → β → Prop} (h : Paired S A R x y) (hR : ∀ a b, R a b → R' a b) :
    Paired S A R' x y :=
  fun s s' hs => (h s s' hs).mono fun _ _ hp => ⟨hp.1.mono hR, hp.2⟩

theorem Paired.bind {f : α → Engine γ} {g : β → Engine δ} (hx : Paired S A R x y)
    (hf : ∀ a b, R a b → Paired S A Q (f a) (g b)) : Paired S A Q (x >>= f) (y >>= g) := by
  intro s s' hs
  apply (hx s s' hs).bind
  rintro ⟨_, s₁⟩ ⟨_, s₁'⟩ ⟨hend, hs₁⟩
  cases hend with
  | ok h => exact hf _ _ h s₁ s₁' hs₁
  | error e => exact .done ⟨.error e, hs₁⟩

/-- What follows equal results may differ only as far as what they are used for does. -/
theorem Paired.bind_eq {x y : Engine α} {f : α → Engine γ} {g : α → Engine δ}
    (hx : Paired S A Eq x y) (hf : ∀ a, Paired S A Q (f a) (g a)) :
    Paired S A Q (x >>= f) (y >>= g) := by
  apply hx.bind
  rintro a _ rfl
  exact hf a

theorem paired_ofExcept {ε : Type} {wrap : ε → OperationError} {r : Except ε α} {r' : Except ε β}
    (h : SameEnd R r r') : Paired S A R (ofExcept wrap r) (ofExcept wrap r') := by
  cases h with
  | ok h => exact paired_pure h
  | error e => exact paired_throw (wrap e)

theorem paired_ofExcept_self {ε : Type} (wrap : ε → OperationError) (r : Except ε α) :
    Paired S A (fun a b => a = b ∧ r = .ok a) (ofExcept wrap r) (ofExcept wrap r) :=
  paired_ofExcept (sameEnd_self r)

theorem paired_ofExcept_eq {ε : Type} (wrap : ε → OperationError) (r : Except ε α) :
    Paired S A Eq (ofExcept wrap r) (ofExcept wrap r) :=
  (paired_ofExcept_self wrap r).mono fun _ _ h => h.1

/-- What follows an answer that is no failure. -/
theorem Paired.answer {ε : Type} {wrap : ε → OperationError} {x y : Engine (Except ε α)}
    {f : α → Engine γ} {g : α → Engine δ} (hx : Paired S A Eq x y)
    (hf : ∀ a, Paired S A Q (f a) (g a)) :
    Paired S A Q (x >>= fun r => ofExcept wrap r >>= f) (y >>= fun r => ofExcept wrap r >>= g) := by
  apply hx.bind_eq
  intro r
  exact (paired_ofExcept_eq wrap r).bind_eq hf

theorem Paired.within (wrap : OperationError → OperationError) (h : Paired S A R x y) :
    Paired S A R (within wrap x) (within wrap y) := by
  intro s s' hs
  apply (h s s' hs).bind
  rintro ⟨_, s₁⟩ ⟨_, s₁'⟩ ⟨hend, hs₁⟩
  exact .done ⟨hend.mapError wrap, hs₁⟩

end Engine

end Registrar
