import Registrar.Proofs.Conduct
import Registrar.Proofs.Memory
import Registrar.Proofs.Part
import Registrar.Session.Load

/-!
This module contains where the values come from that a session remembers. A move is a step that puts
something to the outside, or it remembers a value that the expression has given, under a key under
which nothing is remembered unless a record that another expression gave has a field there.
-/

namespace Registrar

/-- The contract that an invocation is about, and the method that it names. -/
def Invocation.target (i : Invocation) : Role × String :=
  match Operation.splitCallee? i.callee with
  | some (delegate, method) => (.delegate delegate, method)
  | none => (.primary, i.callee)

/-- What the transform of an expression, if it has one, makes of a value. -/
def KeyExpression.transformed (e : KeyExpression) (v : Value) : Except TransformError Value :=
  match e.transform with
  | none => .ok v
  | some text => Transform.apply text v

namespace Session

variable {h h' t u : Trace} {s s' s'' : Session}

/-- A method of the contract that is bound for a role has been read, with a number of arguments, and
the value is the first of what it returned. -/
inductive ReadFrom (h : Trace) (s : Session) (role : Role) (name : String) (count : Nat)
    (v : Value) : Prop where
  | intro {c : Contract} {m : Method} (values : List AbiValue) {output : Bytes}
      (hc : s.bound? role = some c) (hm : c.method name (some count) = .ok m)
      (hr : ⟨.request (some role) (.call c.address (m.selector ++ Abi.encode values)), .ok output⟩ ∈ h)
      (ho : firstOutput m output = .ok v)

/-- The value is what the source of an expression has given. -/
inductive Gives (h : Trace) (s : Session) (e : KeyExpression) : Value → Prop where
  | literal (hs : e.source = .const) : Gives h s e (.string e.payload)
  | setting {j : Json} (hs : e.source = .config)
      (hj : ⟨.request none (.setting e.payload), some j⟩ ∈ h) : Gives h s e (.ofJson j)
  | answer {required hidden : Bool} {text : String}
      (hs : e.source = .config ∨ e.source = .passwd)
      (ht : ⟨.request none (.prompt e.payload required hidden), .ok text⟩ ∈ h) :
      Gives h s e (.string text)
  | read {v : Value} (hs : e.source = .call)
      (hr : ReadFrom h s (Invocation.read e.payload).target.1 (Invocation.read e.payload).target.2
        (Invocation.read e.payload).arguments.length v) : Gives h s e v

/-- The value is what an expression has given, transformed. -/
def Yields (h : Trace) (s : Session) (e : KeyExpression) (v : Value) : Prop :=
  ∃ w, Gives h s e w ∧ e.transformed w = .ok v

/-- A record that another expression has given has a field that is remembered under the key. -/
def Shared (h : Trace) (s : Session) (key : String) : Prop :=
  ∃ other e v, other ≠ key ∧ KeyExpression.read? other = some e ∧ Yields h s e v ∧
    key ∈ Cache.storedKeys other v

theorem ReadFrom.mono {role : Role} {name : String} {count : Nat} {v : Value}
    (hr : ReadFrom h s role name count v) (hh : h ⊆ h')
    (hs : ∀ role c, s.bound? role = some c → s'.bound? role = some c) :
    ReadFrom h' s' role name count v := by
  obtain ⟨values, hc, hm, hr, ho⟩ := hr
  exact .intro values (hs _ _ hc) hm (hh hr) ho

theorem Gives.mono {e : KeyExpression} {v : Value} (hg : Gives h s e v) (hh : h ⊆ h')
    (hs : ∀ role c, s.bound? role = some c → s'.bound? role = some c) : Gives h' s' e v := by
  cases hg with
  | literal hsource => exact .literal hsource
  | setting hsource hj => exact .setting hsource (hh hj)
  | answer hsource ht => exact .answer hsource (hh ht)
  | read hsource hr => exact .read hsource (hr.mono hh hs)

theorem Yields.mono {e : KeyExpression} {v : Value} (hy : Yields h s e v) (hh : h ⊆ h')
    (hs : ∀ role c, s.bound? role = some c → s'.bound? role = some c) : Yields h' s' e v := by
  obtain ⟨w, hg, hv⟩ := hy
  exact ⟨w, hg.mono hh hs, hv⟩

theorem Shared.mono {key : String} (hk : Shared h s key) (hh : h ⊆ h')
    (hs : ∀ role c, s.bound? role = some c → s'.bound? role = some c) : Shared h' s' key := by
  obtain ⟨other, e, v, hne, he, hy, hmem⟩ := hk
  exact ⟨other, e, v, hne, he, hy.mono hh hs, hmem⟩

/-- What a computation may do, and the expressions whose values it may remember. -/
structure Permit extends Licence where
  remembers : String → Prop

def Permit.none : Permit where
  toLicence := .none
  remembers _ := False

structure Permit.Le (l m : Permit) : Prop extends Licence.Le l.toLicence m.toLicence where
  remembers : ∀ key, l.remembers key → m.remembers key

variable {l m : Permit}

inductive Move (l : Permit) (h : Trace) (s : Session) : Trace → Session → Prop where
  | step {t : Trace} {s' : Session} (hs : Step l.toLicence h s t s') (ht : t ≠ []) : Move l h s t s'
  | remembered (key : String) (e : KeyExpression) (v : Value)
      (he : KeyExpression.read? key = some e) (hy : Yields h s e v) (hm : l.remembers key)
      (hn : s.cache.find? key = none ∨ Shared h s key) :
      Move l h s [] { s with cache := s.cache.memoize key v }

inductive Moves (l : Permit) (h : Trace) (s : Session) : Trace → Session → Prop where
  | refl : Moves l h s [] s
  | tail {t u : Trace} {s₁ s₂ : Session} (hs : Moves l h s t s₁) (hu : Move l (h ++ t) s₁ u s₂) :
      Moves l h s (t ++ u) s₂

theorem Gives.source {e : KeyExpression} {v : Value} (hg : Gives h s e v) :
    e.isCacheable ∧ e.source ≠ .bare := by
  unfold KeyExpression.isCacheable
  cases hg with
  | literal hs => simp [hs]
  | setting hs => simp [hs]
  | answer hs => cases hs with
    | inl hs => simp [hs]
    | inr hs => simp [hs]
  | read hs => simp [hs]

theorem Move.step_of (hs : Move l h s t s') : Step l.toLicence h s t s' := by
  cases hs with
  | step hs => exact hs
  | remembered key e v he hy =>
    obtain ⟨w, hg, -⟩ := hy
    exact .memoized key e v he hg.source.1 hg.source.2

theorem Move.mono (hs : Move l h s t s') (hlm : l.Le m) : Move m h s t s' := by
  cases hs with
  | step hs ht => exact .step (hs.mono hlm.toLe) ht
  | remembered key e v he hy hm hn => exact .remembered key e v he hy (hlm.remembers key hm) hn

namespace Moves

theorem single (hs : Move l h s t s') : Moves l h s t s' := by
  apply Moves.tail (Moves.refl (l := l) (h := h))
  rw [List.append_nil]
  exact hs

theorem step (hs : Step l.toLicence h s t s') (ht : t ≠ []) : Moves l h s t s' := by
  apply Moves.single
  exact .step hs ht

theorem trans (h₁ : Moves l h s t s') (h₂ : Moves l (h ++ t) s' u s'') :
    Moves l h s (t ++ u) s'' := by
  induction h₂ with
  | refl =>
    rw [List.append_nil]
    exact h₁
  | tail _ hu ih =>
    rw [← List.append_assoc]
    apply Moves.tail ih
    rw [← List.append_assoc]
    exact hu

theorem mono (hs : Moves l h s t s') (hlm : l.Le m) : Moves m h s t s' := by
  induction hs with
  | refl => exact .refl
  | tail _ hu ih => exact .tail ih (hu.mono hlm)

theorem steps (hs : Moves l h s t s') : Steps l.toLicence h s t s' := by
  induction hs with
  | refl => exact .refl
  | tail _ hu ih => exact .tail ih hu.step_of

end Moves

section Remembered

variable {key : String} {e : KeyExpression} {v : Value}

theorem Step.find?_eq_of_ne {q : String} (hs : Step l.toLicence h s t s') (ht : t ≠ [])
    (hexpiry : q ≠ Builtin.lastExpiryKey) (hsalt : q ≠ Builtin.lastSaltKey) :
    s'.cache.find? q = s.cache.find? q := by
  cases hs with
  | dated time timeout => exact (Cache.find?_insert _ _ _ q).trans (if_neg hexpiry)
  | salted seed time => exact (Cache.find?_insert _ _ _ q).trans (if_neg hsalt)
  | bound role c => rw [cache_bindTo]
  | memoized => exact absurd rfl ht
  | _ => rfl

/-- What is remembered under an expression is changed only where its own value is remembered, if no
record of another expression has a field there. -/
theorem Move.find?_eq (hs : Move l h s t s') (he : KeyExpression.read? key = some e)
    (hc : e.isCacheable) (hn : e.source ≠ .bare) (hk : ¬ Shared h s key) :
    s'.cache.find? key = s.cache.find? key ∨
      l.remembers key ∧ s.cache.find? key = none ∧
        ∃ v, Yields h s e v ∧ s'.cache.find? key = some v := by
  cases hs with
  | step hs ht =>
    left
    have hne {q : String} (hq : Key.Apart q) : key ≠ q := by
      intro heq
      apply hq.ne_append he hc hn ""
      rw [String.append_empty, heq]
    apply hs.find?_eq_of_ne ht
    . apply hne
      unfold Key.Apart
      decide
    . apply hne
      unfold Key.Apart
      decide
  | remembered other f w hf hy hm hnone =>
    by_cases hkey : key = other
    . right
      subst hkey
      rw [he] at hf
      cases hf
      exact ⟨hm, hnone.resolve_right hk, w, hy, Cache.find?_memoize_self s.cache key w⟩
    . left
      apply Cache.find?_memoize_of_not_mem s.cache hkey
      intro hmem
      exact hk ⟨other, f, w, Ne.symm hkey, hf, hy, hmem⟩

theorem Yields.after {t : Trace} (hy : Yields h s e v) (hs : Step l.toLicence h s t s') :
    Yields (h ++ t) s' e v :=
  hy.mono (List.subset_append_left h t) fun _ _ => hs.bound?_eq_some

theorem Shared.after {t : Trace} (hk : Shared h s key) (hs : Step l.toLicence h s t s') :
    Shared (h ++ t) s' key :=
  hk.mono (List.subset_append_left h t) fun _ _ => hs.bound?_eq_some

/-- Nothing comes to be remembered under an expression whose value may not be remembered, but for a
record of another expression. -/
theorem Moves.find?_eq_none (hs : Moves l h s t s') (he : KeyExpression.read? key = some e)
    (hc : e.isCacheable) (hn : e.source ≠ .bare) (hl : ¬ l.remembers key)
    (hf : s.cache.find? key = none) :
    s'.cache.find? key = none ∨ Shared (h ++ t) s' key := by
  induction hs with
  | refl => exact .inl hf
  | @tail t u s₁ s₂ _ hu ih =>
    by_cases hk : Shared (h ++ t) s₁ key
    . right
      rw [← List.append_assoc]
      exact hk.mono (List.subset_append_left _ u) fun role c => hu.step_of.bound?_eq_some
    . left
      cases hu.find?_eq he hc hn hk with
      | inl heq =>
        rw [heq]
        exact ih.resolve_right hk
      | inr hnew => exact absurd hnew.1 hl

/-- What is remembered under an expression is what the expression has given, if that was so before. -/
theorem Moves.yields_of_find? (hs : Moves l h s t s') (he : KeyExpression.read? key = some e)
    (hc : e.isCacheable) (hn : e.source ≠ .bare) (hk : ¬ Shared (h ++ t) s' key)
    (hf : ∀ w, s.cache.find? key = some w → Yields h s e w) :
    ∀ w, s'.cache.find? key = some w → Yields (h ++ t) s' e w := by
  induction hs with
  | refl =>
    rw [List.append_nil]
    exact hf
  | @tail t u s₁ s₂ _ hu ih =>
    rw [← List.append_assoc] at hk ⊢
    have hk₁ : ¬ Shared (h ++ t) s₁ key := fun hshared => hk (hshared.after hu.step_of)
    intro w hw
    cases hu.find?_eq he hc hn hk₁ with
    | inl heq =>
      rw [heq] at hw
      exact (ih hk₁ w hw).after hu.step_of
    | inr hnew =>
      obtain ⟨-, -, v, hy, hv⟩ := hnew
      rw [hv] at hw
      cases hw
      exact hy.after hu.step_of

theorem Moves.find?_eq_some (hs : Moves l h s t s') (he : KeyExpression.read? key = some e)
    (hc : e.isCacheable) (hn : e.source ≠ .bare) (hk : ¬ Shared (h ++ t) s' key)
    (hf : s.cache.find? key = some v) : s'.cache.find? key = some v := by
  induction hs with
  | refl => exact hf
  | @tail t u s₁ s₂ _ hu ih =>
    rw [← List.append_assoc] at hk
    have hk₁ : ¬ Shared (h ++ t) s₁ key := fun hshared => hk (hshared.after hu.step_of)
    have hv := ih hk₁
    cases hu.find?_eq he hc hn hk₁ with
    | inl heq => rw [heq, hv]
    | inr hnew =>
      rw [hnew.2.1] at hv
      cases hv

end Remembered

section Start

variable {q : String}

theorem find?_seedSettings (c : Cache) (hq : ∀ x, q ≠ settingSpace ++ x)
    (entries : List (String × Json)) : (seedSettings c entries).find? q = c.find? q := by
  induction entries generalizing c with
  | nil => rfl
  | cons entry r ih =>
    unfold seedSettings
    rw [ih]
    apply Cache.find?_store
    intro x
    rw [String.append_assoc]
    apply hq

theorem find?_seed (c : Cache) (hq : ∀ x, q ≠ "spec" ++ x) (document : Json) :
    (c.seed specificationSpace document).find? q = c.find? q := by
  unfold Cache.seed
  split
  . apply Cache.find?_seedFields
    intro x
    exact hq (":" ++ x)
  . apply Cache.find?_store
    exact hq

/-- Only settings are known before anything has been done. -/
theorem find?_start {spec : Specification} {settings : Settings} {key : String} {e : KeyExpression}
    (he : KeyExpression.read? key = some e) (hn : e.source ≠ .bare) (hs : e.source ≠ .config) :
    (start spec settings).cache.find? key = none := by
  unfold start
  dsimp only
  rw [find?_seedSettings, find?_seed]
  . rfl
  . apply KeyExpression.ne_append he hn (by decide)
    . cases hsource : e.source <;> first | exact absurd hsource hn | decide
    . cases hsource : e.source <;> first | exact absurd hsource hn | decide
  . apply KeyExpression.ne_append he hn (by decide)
    . cases hsource : e.source <;> first | exact absurd hsource hn | exact absurd hsource hs | decide
    . cases hsource : e.source <;> first | exact absurd hsource hn | exact absurd hsource hs | decide

end Start

end Session

end Registrar
