import Registrar.Proofs.Conduct.Operation

/-!
This module contains the safety of destinations: whatever is loaded and carried out in a session,
every read and every transaction goes to the place of the contract it is about, where code was found
before, and the place of a contract never changes.
-/

namespace Registrar

/-- Code was found at an address when a contract was to be bound for a role. -/
def Event.codeFound (role : Role) (a : Address) : Event :=
  ⟨.request (some role) (.hasCode a), .ok true⟩

namespace Trace

/-- Every read and every transaction is about a contract and goes to its place, where code was found
before. -/
def Located (spec : Specification) (t : Trace) : Prop :=
  ∀ before e after a, t = before ++ e :: after → e.target? = some a →
    ∃ role, e.about? = some role ∧ Event.codeFound role a ∈ before ∧ spec.Locates before a role

/-- Reads and transactions that are about one contract go to one place. -/
def Steady (t : Trace) : Prop :=
  ∀ e₁ ∈ t, ∀ e₂ ∈ t, ∀ a₁ a₂, e₁.target? = some a₁ → e₂.target? = some a₂ →
    e₁.about? = e₂.about? → a₁ = a₂

/-- A trace with one more query is located if the query, if it goes anywhere, goes to the place of
the contract it is about. -/
theorem Located.snoc {spec : Specification} {t : Trace} {e : Event} (ht : t.Located spec)
    (he : ∀ a, e.target? = some a →
      ∃ role, e.about? = some role ∧ Event.codeFound role a ∈ t ∧ spec.Locates t a role) :
    Located spec (t ++ [e]) := by
  intro before e' after a heq he'
  -- the query in question is the new one, or it stands in the trace before that
  cases List.eq_nil_or_concat after with
  | inl hnil =>
    rw [hnil] at heq
    obtain ⟨rfl, hlast⟩ := List.append_inj' heq rfl
    cases hlast
    exact he a he'
  | inr hconcat =>
    obtain ⟨after', x, hafter⟩ := hconcat
    rw [hafter, List.concat_eq_append, ← List.cons_append, ← List.append_assoc] at heq
    obtain ⟨hinit, -⟩ := List.append_inj' heq rfl
    exact ht before e' after' a hinit he'

end Trace

namespace Session

variable {spec : Specification} {l : Licence} {h t : Trace} {s s' : Session}

/-- A session with a history in which everything has gone where it should, and whose contracts are
bound to the places to which it has gone. -/
structure Anchored (spec : Specification) (h : Trace) (s : Session) : Prop where
  spec_eq : s.spec = spec
  bound : ∀ role c, s.bound? role = some c →
    Event.codeFound role c.address ∈ h ∧ spec.Locates h c.address role
  located : h.Located spec
  sent : ∀ e ∈ h, ∀ a, e.target? = some a →
    ∃ role c, e.about? = some role ∧ s.bound? role = some c ∧ c.address = a

theorem anchored_start (spec : Specification) (settings : Settings) :
    Anchored spec [] (start spec settings) where
  spec_eq := rfl
  bound := by
    intro role c hc
    cases role <;> cases hc
  located := by
    intro before e after a ht
    simp at ht
  sent := by simp

/-- One more query keeps a session anchored if a contract that it binds is in its place and has
code there, and if it goes, if anywhere, to a contract that is bound. -/
theorem Anchored.snoc {e : Event} (ha : Anchored spec h s) (hspec : s'.spec = s.spec)
    (hkeep : ∀ role c, s.bound? role = some c → s'.bound? role = some c)
    (hnew : ∀ role c, s'.bound? role = some c →
      s.bound? role = some c ∨ e = Event.codeFound role c.address ∧ s.spec.Locates h c.address role)
    (htarget : ∀ a, e.target? = some a →
      ∃ role c, e.about? = some role ∧ s.bound? role = some c ∧ c.address = a) :
    Anchored spec (h ++ [e]) s' where
  spec_eq := by rw [hspec, ha.spec_eq]
  bound := by
    intro role c hc
    cases hnew role c hc with
    | inl hc =>
      obtain ⟨hcode, hl⟩ := ha.bound role c hc
      constructor
      . simp [hcode]
      . exact hl.mono (List.subset_append_left h [e])
    | inr hc =>
      obtain ⟨he, hl⟩ := hc
      rw [ha.spec_eq] at hl
      constructor
      . simp [he]
      . exact hl.mono (List.subset_append_left h [e])
  located := by
    apply ha.located.snoc
    intro a hta
    obtain ⟨role, c, habout, hc, rfl⟩ := htarget a hta
    obtain ⟨hcode, hl⟩ := ha.bound role c hc
    exact ⟨role, habout, hcode, hl⟩
  sent := by
    intro e' he' a hta
    cases List.mem_append.1 he' with
    | inl hmem =>
      obtain ⟨role, c, habout, hc, hca⟩ := ha.sent e' hmem a hta
      exact ⟨role, c, habout, hkeep role c hc, hca⟩
    | inr hmem =>
      rw [List.mem_singleton] at hmem
      rw [hmem] at hta ⊢
      obtain ⟨role, c, habout, hc, hca⟩ := htarget a hta
      exact ⟨role, c, habout, hkeep role c hc, hca⟩

/-- Queries that go nowhere, and a change that binds nothing, keep a session anchored. -/
theorem Anchored.append_still {u : Trace} (ha : Anchored spec h s) (hspec : s'.spec = s.spec)
    (hbound : ∀ role, s'.bound? role = s.bound? role) (htarget : ∀ e ∈ u, e.target? = none) :
    Anchored spec (h ++ u) s' := by
  induction u generalizing h with
  | nil =>
    rw [List.append_nil]
    refine ⟨by rw [hspec, ha.spec_eq], ?_, ha.located, ?_⟩
    . intro role c hc
      rw [hbound] at hc
      exact ha.bound role c hc
    . intro e he a hta
      obtain ⟨role, c, habout, hc, hca⟩ := ha.sent e he a hta
      exact ⟨role, c, habout, by rw [hbound, hc], hca⟩
  | cons e u ih =>
    obtain ⟨htarget, hrest⟩ := List.forall_mem_cons.1 htarget
    rw [List.append_cons]
    apply ih _ hrest
    apply ha.snoc rfl
    . intro role c hc
      exact hc
    . intro role c hc
      exact Or.inl hc
    . intro a heq
      rw [htarget] at heq
      cases heq

theorem Anchored.snoc_bound {e : Event} {role : Role} {c : Contract} (ha : Anchored spec h s)
    (habout : e.about? = some role) (hc : s.bound? role = some c)
    (htarget : e.target? = some c.address) : Anchored spec (h ++ [e]) s := by
  apply ha.snoc rfl
  . intro role c hc
    exact hc
  . intro role c hc
    exact Or.inl hc
  . intro a heq
    rw [htarget] at heq
    cases heq
    exact ⟨role, c, habout, hc, rfl⟩

theorem Anchored.step (ha : Anchored spec h s) (hs : Step l h s t s') :
    Anchored spec (h ++ t) s' := by
  cases hs with
  | asked r x hr =>
    apply ha.append_still rfl (fun _ => rfl)
    cases r <;> simp_all [Event.target?, Request.isPlain]
  | bound role c hb hl hm =>
    -- none has been bound for the role before, so that no place changes
    apply ha.snoc (spec_bindTo c role)
    . intro r c' hc'
      rw [bound?_bindTo]
      split
      . next heq =>
        rw [heq, hb] at hc'
        cases hc'
      . exact hc'
    . intro r c' hc'
      rw [bound?_bindTo] at hc'
      split at hc'
      . next heq =>
        cases hc'
        right
        rw [heq]
        exact ⟨rfl, hl⟩
      . exact Or.inl hc'
    . intro a heq
      cases heq
  | called role c data x hb => exact ha.snoc_bound rfl hb rfl
  | submitted role c tx x hb ht hm =>
    apply ha.snoc_bound rfl hb
    rw [← ht]
    rfl
  | _ =>
    apply ha.append_still
    . rfl
    . intro role
      cases role <;> rfl
    . simp [Event.target?, Event.loaded, Event.made]

theorem Anchored.steps (ha : Anchored spec h s) (hs : Steps l h s t s') :
    Anchored spec (h ++ t) s' := by
  induction hs with
  | refl =>
    rw [List.append_nil]
    exact ha
  | tail _ hu ih =>
    rw [← List.append_assoc]
    exact ih.step hu

theorem Anchored.steady (ha : Anchored spec h s) : h.Steady := by
  intro e₁ he₁ e₂ he₂ a₁ a₂ h₁ h₂ habout
  obtain ⟨role₁, c₁, habout₁, hc₁, rfl⟩ := ha.sent e₁ he₁ a₁ h₁
  obtain ⟨role₂, c₂, habout₂, hc₂, rfl⟩ := ha.sent e₂ he₂ a₂ h₂
  rw [habout₁, habout₂] at habout
  cases habout
  rw [hc₁] at hc₂
  cases hc₂
  rfl

/-- Whatever is done in a session and whatever is answered, reads and transactions go to the places
of the contracts they are about, and these do not change. -/
theorem located_and_steady_of_run {settings : Settings} {tasks : List Task}
    (hr : Run (start spec settings) tasks t s') : t.Located spec ∧ t.Steady := by
  have ha : Anchored spec t s' := (anchored_start spec settings).steps hr.steps
  exact ⟨ha.located, ha.steady⟩

/-- A service with a delegate whose address is what its getter returns. -/
def delegating : Specification where
  name := "s"
  contractAddress := "0x00000000000000000000000000000000000000a1"
  abi := "primary"
  functions := .ofList []
  delegates := [{ name := "d", abi := "delegate" }]

def delegatingResource (name : String) : String :=
  if name = "primary" then methodDocument "d" [] ["address"] else methodDocument "m" [] ["bool"]

/-- A read of the primary contract gives the place of the delegate, and then the delegate is
read. -/
theorem located_and_steady_delegating :
    ∃ t s', Run (start delegating {}) [.load "call:d.m" none true] t s' ∧
      t.filterMap Event.target? = [⟨0xa1⟩, ⟨0xb2⟩] ∧ t.Located delegating ∧ t.Steady := by
  let answer := compliant delegatingResource (Bytes.ofNat 32 0xb2)
  have hr := run_transcript answer (start delegating {}) (.load "call:d.m" none true)
  refine ⟨_, _, hr, ?_, located_and_steady_of_run hr⟩
  decide +kernel

end Session

end Registrar
