/-!
This module contains interactions: computations that put requests to the outside and go on with the
answers. An interaction is plain data, the tree of everything it may ask, so that it can be run
against any partner and can be reasoned about without one.
-/

namespace Registrar

/-- A computation of an `α` that puts requests `r : Req` and receives answers of type `Ans r`. -/
inductive Interaction (Req : Type) (Ans : Req → Type) (α : Type) where
  | done (a : α)
  | ask (r : Req) (resume : Ans r → Interaction Req Ans α)

namespace Interaction

variable {Req : Type} {Ans : Req → Type} {α β γ : Type}

def bind : Interaction Req Ans α → (α → Interaction Req Ans β) → Interaction Req Ans β
  | done a, f => f a
  | ask r resume, f => ask r fun x => bind (resume x) f

instance : Monad (Interaction Req Ans) where
  pure := done
  bind := bind

def request (r : Req) : Interaction Req Ans (Ans r) :=
  ask r done

def run {m : Type → Type} [Monad m] (answer : (r : Req) → m (Ans r)) :
    Interaction Req Ans α → m α
  | done a => pure a
  | ask r resume => do
    let x ← answer r
    run answer (resume x)

@[simp]
theorem pure_eq (a : α) : (pure a : Interaction Req Ans α) = done a :=
  rfl

@[simp]
theorem bind_eq (x : Interaction Req Ans α) (f : α → Interaction Req Ans β) :
    x >>= f = bind x f :=
  rfl

@[simp]
theorem done_bind (a : α) (f : α → Interaction Req Ans β) : bind (done a) f = f a :=
  rfl

@[simp]
theorem ask_bind (r : Req) (resume : Ans r → Interaction Req Ans α)
    (f : α → Interaction Req Ans β) : bind (ask r resume) f = ask r fun x => bind (resume x) f :=
  rfl

@[simp]
theorem bind_done (x : Interaction Req Ans α) : bind x done = x := by
  induction x with
  | done a => rfl
  | ask r resume ih => simp [ih]

theorem bind_assoc (x : Interaction Req Ans α) (f : α → Interaction Req Ans β)
    (g : β → Interaction Req Ans γ) : bind (bind x f) g = bind x fun a => bind (f a) g := by
  induction x with
  | done a => rfl
  | ask r resume ih => simp [ih]

instance : LawfulMonad (Interaction Req Ans) :=
  LawfulMonad.mk' (Interaction Req Ans) bind_done (fun _ _ => rfl) bind_assoc

end Interaction

end Registrar
