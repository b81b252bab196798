import Registrar.Proofs.Conduct.Reading
import Registrar.Proofs.Destination

/-!
This module contains the proof that nothing is established twice: code is asked for until it is
found, an interface is asked for until it can be read, and neither is asked for again. What has
failed leaves nothing behind, so that an operation asks for exactly what is missing.
-/

namespace Registrar

namespace Event

/-- The contract whose code is asked for. -/
def codeOf? (e : Event) : Option Role :=
  match e.1 with
  | .request about (.hasCode _) => about
  | _ => none

/-- Code is found for a contract. -/
def Finds (e : Event) (role : Role) (a : Address) : Prop :=
  e = codeFound role a

/-- Code is asked for on behalf of no contract. -/
def IsAstray (e : Event) : Prop :=
  ∃ a, e.1 = .request none (.hasCode a)

end Event

namespace Session

open Engine

variable {l : Licence} {h t u : Trace} {s s' : Session}

section Code

/-- The contracts that are bound are those for which code has been found in the history, and nobody
has been asked for their code after that. -/
def Founded (h : Trace) (s : Session) : Prop :=
  h.Learned Event.codeOf? Event.Finds fun role a => ∃ c, s.bound? role = some c ∧ c.address = a

theorem founded_start (spec : Specification) (settings : Settings) :
    Founded [] (start spec settings) := by
  apply Trace.Learned.nil
  rintro role a ⟨c, hc, -⟩
  cases role <;> cases hc

theorem Founded.append_idle (hf : Founded h s) (hb : ∀ role, s'.bound? role = s.bound? role)
    (hu : ∀ e ∈ u, e.codeOf? = none) : Founded (h ++ u) s' := by
  unfold Founded
  simp only [hb]
  apply Trace.Learned.append_idle hf _ hu
  rintro e role a rfl
  rfl

theorem Founded.not_mem (hf : Founded h s) {role : Role} (hb : s.bound? role = none) (a : Address) :
    Event.codeFound role a ∉ h := by
  intro hmem
  obtain ⟨c, hc, -⟩ := (hf.known_iff role a).2 ⟨_, hmem, rfl⟩
  rw [hb] at hc
  cases hc

theorem Founded.step (hf : Founded h s) (hs : Step l h s t s') : Founded (h ++ t) s' := by
  have hnew {role : Role} {a : Address} {x : Except ChainError Bool} (hb : s.bound? role = none)
      (role' : Role) (hrole : Event.codeOf? ⟨.request (some role) (.hasCode a), x⟩ = some role')
      (a' : Address) : ¬ ∃ c, s.bound? role' = some c ∧ c.address = a' := by
    cases hrole
    rw [hb]
    rintro ⟨c, hc, -⟩
    cases hc
  cases hs with
  | asked r x hr =>
    apply hf.append_idle fun _ => rfl
    cases r <;> simp_all [Event.codeOf?, Request.isPlain]
  | unbound role a x hb hx =>
    apply Trace.Learned.snoc hf (hnew hb)
    intro role' a'
    have hfound : ¬ Event.Finds ⟨.request (some role) (.hasCode a), x⟩ role' a' := by
      intro heq
      cases heq
      exact hx rfl
    simp [hfound]
  | bound role c hb hl hm =>
    apply Trace.Learned.snoc hf (hnew hb)
    intro role' a'
    rw [bound?_bindTo]
    constructor
    . rintro ⟨c', hc', rfl⟩
      split at hc'
      . next heq =>
        cases hc'
        rw [heq]
        exact .inr rfl
      . exact .inl ⟨c', hc', rfl⟩
    . rintro (⟨c', hc', rfl⟩ | heq)
      . rw [if_neg]
        . exact ⟨c', hc', rfl⟩
        . rintro rfl
          rw [hb] at hc'
          cases hc'
      . cases heq
        rw [if_pos rfl]
        exact ⟨c, rfl, rfl⟩
  | _ =>
    apply hf.append_idle
    . intro role
      cases role <;> rfl
    . simp [Event.codeOf?, Event.loaded, Event.made]

theorem Founded.steps (hf : Founded h s) (hs : Steps l h s t s') : Founded (h ++ t) s' := by
  induction hs with
  | refl =>
    rw [List.append_nil]
    exact hf
  | tail _ hu ih =>
    rw [← List.append_assoc]
    exact ih.step hu

theorem Step.not_isAstray (hs : Step l h s t s') : ∀ e ∈ t, ¬ e.IsAstray := by
  cases hs with
  | asked r x hr => cases r <;> simp_all [Event.IsAstray, Request.isPlain]
  | _ => simp [Event.IsAstray, Event.loaded, Event.made]

theorem Steps.not_isAstray (hs : Steps l h s t s') : ∀ e ∈ t, ¬ e.IsAstray := by
  induction hs with
  | refl => simp
  | tail _ hu ih =>
    intro e he
    cases List.mem_append.1 he with
    | inl he => exact ih e he
    | inr he => exact hu.not_isAstray e he

end Code

section Binding

/-- An interface has been read from a resource. -/
def WasRead (h : Trace) (resource : String) (i : Interface) : Prop :=
  ∃ e ∈ h, e.Reads resource i

/-- What is put to the outside after `h` to establish a contract at an address: its interface is
asked for unless it has been read, and if it is there, code is asked for. -/
inductive Attempt (h : Trace) (service resource : String) (role : Role) (a : Address) :
    Trace → Prop where
  | known {i : Interface} (x : Except ChainError Bool) (hi : WasRead h resource i) :
      Attempt h service resource role a [⟨.request (some role) (.hasCode a), x⟩]
  | failed (x : Except RepositoryError String) (hi : ∀ i, ¬ WasRead h resource i)
      (hx : ∀ text i, x = .ok text → Interface.read text ≠ .ok i) :
      Attempt h service resource role a [⟨.request none (.resource service resource), x⟩]
  | read {text : String} {i : Interface} (x : Except ChainError Bool)
      (hi : ∀ i, ¬ WasRead h resource i) (hr : Interface.read text = .ok i) :
      Attempt h service resource role a
        [⟨.request none (.resource service resource), .ok text⟩,
          ⟨.request (some role) (.hasCode a), x⟩]

theorem Informed.not_wasRead (hi : Informed h s) {resource : String}
    (hn : Assoc.find? resource s.interfaces = none) (i : Interface) : ¬ WasRead h resource i := by
  intro hread
  have hsome := (hi.known_iff resource i).2 hread
  rw [hn] at hsome
  cases hsome

theorem exists_bindResult_iff {c : Contract} {role : Role} {x : Except ChainError Bool} :
    (∃ c', bindResult c x = .ok c') ↔
      ∃ a, Event.codeFound role a ∈ [⟨.request (some role) (.hasCode c.address), x⟩] := by
  constructor
  . rintro ⟨c', hc'⟩
    refine ⟨c.address, ?_⟩
    rcases x with e | _ | _
    . cases hc'
    . cases hc'
    . exact List.mem_cons_self
  . rintro ⟨a, ha⟩
    rw [List.mem_singleton] at ha
    cases ha
    exact ⟨c, rfl⟩

/-- A contract is established by what is missing, and only if code is found. -/
theorem establish_attempt {role : Role} {name abi : String} {a : Address}
    {g : Contract → Session → Session} {r : Except OperationError Contract} (hi : Informed h s)
    (hr : Runs (do
      let i ← interface abi
      let c ← bind role name a i
      modify (g c)
      return c) s t r s') :
    Attempt h s.spec.name abi role a t ∧ ((∃ c, r = .ok c) ↔ ∃ a, Event.codeFound role a ∈ t) := by
  have hfasten {i : Interface} {s : Session} {t : Trace}
      (hr : Runs (do
        let c ← bind role name a i
        modify (g c)
        return c) s t r s') :
      ∃ x, t = [⟨.request (some role) (.hasCode a), x⟩] ∧
        ((∃ c, r = .ok c) ↔ ∃ a, Event.codeFound role a ∈ t) := by
    rw [Engine.runs_bind_iff] at hr
    rcases hr with ⟨c, s₁, t₁, t₂, rfl, hbind, hr⟩ | ⟨e, rfl, hbind⟩
    . obtain ⟨x, rfl, hx, rfl⟩ := runs_bind_contract_iff.1 hbind
      rw [runs_modify_bind_iff] at hr
      obtain ⟨rfl, rfl, rfl⟩ := runs_pure_iff.1 hr
      refine ⟨x, List.append_nil _, ?_⟩
      rw [hx, List.append_nil]
      exact exists_bindResult_iff
    . obtain ⟨x, rfl, hx, rfl⟩ := runs_bind_contract_iff.1 hbind
      refine ⟨x, rfl, ?_⟩
      rw [hx]
      exact exists_bindResult_iff
  have hne (a' : Address) (x : Except RepositoryError String) :
      Event.codeFound role a' ≠ ⟨.request none (.resource s.spec.name abi), x⟩ := by
    intro heq
    cases heq
  rw [Engine.runs_bind_iff] at hr
  rcases hr with ⟨i, s₁, t₁, t₂, rfl, hread, hr⟩ | ⟨e, rfl, hread⟩
  . obtain ⟨x, rfl, hx⟩ := hfasten hr
    cases consulted_of_runs hread with
    | known hknown => exact ⟨.known x ((hi.known_iff abi i).1 hknown), hx⟩
    | read hn htext =>
      refine ⟨.read x (hi.not_wasRead hn) htext, ?_⟩
      rw [hx]
      simp [hne]
  . cases consulted_of_runs hread with
    | @failed x e hn hx =>
      refine ⟨.failed x (hi.not_wasRead hn) hx, ?_⟩
      simp [hne]

/-- The computation that binds the contract of a role. -/
def binding : Role → Engine Contract
  | .primary => bindPrimary
  | .delegate name => bindDelegate name (load (getterKey name) (some .address) true)

/-- What is put to the outside to find the place of a delegate: nothing if it has an address, and
otherwise what the loading of its getter puts there. -/
inductive Placing (s : Session) (name : String) (d : Delegate) :
    Trace → Except OperationError Address → Session → Prop where
  | configured {text : String} (ht : d.contractAddress = some text) :
      Placing s name d [] ((parseAddress text).mapError .spec) s
  | resolved {t : Trace} {a : Address} {s' : Session} (ht : d.contractAddress = none)
      (hr : Runs (load (getterKey name) (some .address) true) s t (.ok (.address a)) s') :
      Placing s name d t (.ok a) s'
  | lost {t : Trace} {r : Except OperationError Value} {e : OperationError} {s' : Session}
      (ht : d.contractAddress = none)
      (hr : Runs (load (getterKey name) (some .address) true) s t r s')
      (hn : ∀ a, r ≠ .ok (.address a)) : Placing s name d t (.error e) s'

theorem placing_of_runs {name : String} {d : Delegate} {r : Except OperationError Address}
    (hr : Runs (delegateAddress d (load (getterKey name) (some .address) true)) s t r s') :
    Placing s name d t r s' := by
  unfold delegateAddress at hr
  split at hr
  . next text ht =>
    obtain ⟨rfl, rfl, rfl⟩ := runs_ofExcept_iff.1 hr
    exact .configured ht
  . next ht =>
    rw [Engine.runs_bind_iff] at hr
    rcases hr with ⟨v, s₁, t₁, t₂, rfl, hload, hr⟩ | ⟨e, rfl, hload⟩
    . split at hr
      . obtain ⟨rfl, rfl, rfl⟩ := runs_pure_iff.1 hr
        rw [List.append_nil]
        exact .resolved ht hload
      . next hv =>
        obtain ⟨rfl, rfl, rfl⟩ := runs_throw_iff.1 hr
        rw [List.append_nil]
        apply Placing.lost ht hload
        rintro a heq
        cases heq
        exact hv a rfl
    . apply Placing.lost ht hload
      intro a heq
      cases heq

/-- What is put to the outside after `h` to bind the contract of a role: what has been established
is not asked for, and what fails ends it. -/
inductive Rebinds (h : Trace) (s : Session) : Role → Trace → Prop where
  | bound {role : Role} {a : Address} (hf : Event.codeFound role a ∈ h) : Rebinds h s role []
  | unplaced {e : SpecError} (hn : ∀ a, Event.codeFound .primary a ∉ h)
      (ha : s.spec.address = .error e) : Rebinds h s .primary []
  | primary {t : Trace} {a : Address} (hn : ∀ a, Event.codeFound .primary a ∉ h)
      (ha : s.spec.address = .ok a) (ht : Attempt h s.spec.name s.spec.abi .primary a t) :
      Rebinds h s .primary t
  | undeclared {name : String} (hn : ∀ a, Event.codeFound (.delegate name) a ∉ h)
      (hd : s.spec.delegate? name = none) : Rebinds h s (.delegate name) []
  | lost {name : String} {d : Delegate} {t : Trace} {e : OperationError} {s₁ : Session}
      (hn : ∀ a, Event.codeFound (.delegate name) a ∉ h) (hd : s.spec.delegate? name = some d)
      (hp : Placing s name d t (.error e) s₁) : Rebinds h s (.delegate name) t
  | delegate {name : String} {d : Delegate} {t u : Trace} {a : Address} {s₁ : Session}
      (hn : ∀ a, Event.codeFound (.delegate name) a ∉ h) (hd : s.spec.delegate? name = some d)
      (hp : Placing s name d t (.ok a) s₁)
      (hu : Attempt (h ++ t) s.spec.name d.abi (.delegate name) a u) :
      Rebinds h s (.delegate name) (t ++ u)

theorem bindPrimary_rebinds {r : Except OperationError Contract} (hi : Informed h s)
    (hf : Founded h s) (hr : Runs bindPrimary s t r s') :
    Rebinds h s .primary t ∧ ((∃ c, r = .ok c) ↔ ∃ a, Event.codeFound .primary a ∈ h ++ t) := by
  unfold bindPrimary at hr
  rw [runs_get_bind_iff] at hr
  split at hr
  . next c hc =>
    obtain ⟨rfl, rfl, rfl⟩ := runs_pure_iff.1 hr
    obtain ⟨e, hmem, rfl⟩ := (hf.known_iff .primary c.address).1 ⟨c, hc, rfl⟩
    rw [List.append_nil]
    exact ⟨.bound hmem, fun _ => ⟨_, hmem⟩, fun _ => ⟨c, rfl⟩⟩
  . next hb =>
    have hn : ∀ a, Event.codeFound .primary a ∉ h := hf.not_mem hb
    rw [runs_get_bind_iff] at hr
    dsimp only at hr
    cases ha : s.spec.address with
    | error e =>
      rw [ha] at hr
      obtain ⟨rfl, rfl, rfl⟩ := runs_throw_bind_iff.1 hr
      refine ⟨.unplaced hn ha, ?_⟩
      simp [hn]
    | ok a =>
      rw [ha] at hr
      obtain ⟨ht, hok⟩ := establish_attempt (g := fun c s => { s with primary := some c }) hi
        (runs_pure_bind_iff.1 hr)
      refine ⟨.primary hn ha ht, ?_⟩
      simp [hok, hn]

theorem bindDelegate_rebinds {name : String} (hname : '.' ∉ name.toList)
    {r : Except OperationError Contract} (hi : Informed h s) (hf : Founded h s)
    (hr : Runs (bindDelegate name (load (getterKey name) (some .address) true)) s t r s') :
    Rebinds h s (.delegate name) t ∧
      ((∃ c, r = .ok c) ↔ ∃ a, Event.codeFound (.delegate name) a ∈ h ++ t) := by
  unfold bindDelegate at hr
  rw [runs_get_bind_iff] at hr
  split at hr
  . next c hc =>
    obtain ⟨rfl, rfl, rfl⟩ := runs_pure_iff.1 hr
    obtain ⟨e, hmem, rfl⟩ := (hf.known_iff (.delegate name) c.address).1 ⟨c, hc, rfl⟩
    rw [List.append_nil]
    exact ⟨.bound hmem, fun _ => ⟨_, hmem⟩, fun _ => ⟨c, rfl⟩⟩
  . next hb =>
    have hn : ∀ a, Event.codeFound (.delegate name) a ∉ h := hf.not_mem hb
    rw [runs_get_bind_iff] at hr
    split at hr
    . next hd =>
      obtain ⟨rfl, rfl, rfl⟩ := runs_throw_iff.1 hr
      refine ⟨.undeclared hn hd, ?_⟩
      simp [hn]
    . next d hd =>
      -- the getter may have bound other contracts, but not this one
      have hplace {t : Trace} {r : Except OperationError Address} {s₁ : Session}
          (hr : Runs (within (.delegateResolution name)
            (delegateAddress d (load (getterKey name) (some .address) true))) s t r s₁) :
          s₁.spec = s.spec ∧ ∀ a, Event.codeFound (.delegate name) a ∉ h ++ t := by
        have hsteps := (follows_within (.delegateResolution name)
          (delegateAddress_follows d (load_follows _ _ _))).steps (h := h) hr
        refine ⟨hsteps.spec_eq, ?_⟩
        apply (hf.steps hsteps).not_mem
        rw [hsteps.bound?_eq (not_binds_getterKey hname)]
        exact hb
      rw [Engine.runs_bind_iff] at hr
      rcases hr with ⟨a, s₁, t₁, t₂, rfl, ha, hr⟩ | ⟨e, rfl, ha⟩
      . obtain ⟨hspec, hn₁⟩ := hplace ha
        have ha := runs_within_ok_iff.1 ha
        have hi₁ : Informed (h ++ t₁) s₁ :=
          delegateAddress_keeps d (load_keeps informed_invariant _ _ _) _ _ _ _ _ hi ha
        obtain ⟨hu, hok⟩ := establish_attempt
          (g := fun c s => { s with delegates := Assoc.insert name c s.delegates }) hi₁ hr
        rw [hspec] at hu
        refine ⟨.delegate hn hd (placing_of_runs ha) hu, ?_⟩
        rw [← List.append_assoc]
        simp only [List.mem_append (s := h ++ t₁), hn₁, false_or, hok]
      . obtain ⟨-, hn₁⟩ := hplace ha
        obtain ⟨r₀, heq, ha⟩ := runs_within_iff.1 ha
        cases r₀ with
        | ok a => cases heq
        | error e₀ =>
          refine ⟨.lost hn hd (placing_of_runs ha), ?_⟩
          simp [hn₁]

end Binding

section Operation

variable {α : Type}

/-- What is put to the outside after `h` to bind the contracts of roles one after the other, until
one of them cannot be bound. -/
inductive Prepares : Trace → Session → List Role → Trace → Prop where
  | done {h : Trace} {s : Session} : Prepares h s [] []
  | stuck {h t : Trace} {s : Session} {role : Role} {roles : List Role} (ht : Rebinds h s role t)
      (hn : ∀ a, Event.codeFound role a ∉ h ++ t) : Prepares h s (role :: roles) t
  | next {h t u : Trace} {s s₁ : Session} {role : Role} {roles : List Role} {a : Address}
      {c : Contract} (ht : Rebinds h s role t) (hf : Event.codeFound role a ∈ h ++ t)
      (hr : Runs (binding role) s t (.ok c) s₁) (hu : Prepares (h ++ t) s₁ roles u) :
      Prepares h s (role :: roles) (t ++ u)

/-- The roles of the contracts that an operation binds, in this order. -/
def roles : Target → List Role
  | .stub => []
  | .direct _ => [.primary]
  | .delegate name _ => [.primary, .delegate name]

/-- Code has been found for every contract that an operation needs. -/
def Ready (h : Trace) (target : Target) : Prop :=
  ∀ role ∈ roles target, ∃ a, Event.codeFound role a ∈ h

/-- If the first contract is bound, the rest follows, and nothing follows if it is not. -/
theorem prepares_cons (role : Role) {rest : List Role} {f : Contract → Engine α}
    {r : Except OperationError α}
    (hb : ∀ t r s₁, Runs (binding role) s t r s₁ → Rebinds h s role t ∧
      ((∃ c, r = .ok c) ↔ ∃ a, Event.codeFound role a ∈ h ++ t))
    (hf : ∀ c s₁ t u, Runs (binding role) s t (.ok c) s₁ → Runs (f c) s₁ u r s' →
      Prepares (h ++ t) s₁ rest u ∧
        ((∃ a, r = .ok a) → ∀ role ∈ rest, ∃ a, Event.codeFound role a ∈ h ++ t ++ u))
    (hr : Runs (binding role >>= f) s t r s') :
    Prepares h s (role :: rest) t ∧
      ((∃ a, r = .ok a) → ∀ r ∈ role :: rest, ∃ a, Event.codeFound r a ∈ h ++ t) := by
  rw [Engine.runs_bind_iff] at hr
  rcases hr with ⟨c, s₁, t₁, t₂, rfl, hc, hr⟩ | ⟨e, rfl, hc⟩
  . obtain ⟨ht, hok⟩ := hb _ _ _ hc
    obtain ⟨a, ha⟩ := hok.1 ⟨c, rfl⟩
    obtain ⟨hu, hrest⟩ := hf c s₁ t₁ t₂ hc hr
    refine ⟨.next ht ha hc hu, ?_⟩
    rw [← List.append_assoc]
    intro hdone r hr
    cases List.mem_cons.1 hr with
    | inl heq =>
      rw [heq]
      exact ⟨a, List.mem_append_left t₂ ha⟩
    | inr hr => exact hrest hdone r hr
  . obtain ⟨ht, hok⟩ := hb _ _ _ hc
    constructor
    . apply Prepares.stuck ht
      intro a ha
      obtain ⟨c, hc⟩ := hok.2 ⟨a, ha⟩
      cases hc
    . rintro ⟨a, ha⟩
      cases ha

theorem callee_prepares {o : Operation} {given : Option (List String)}
    {r : Except OperationError (Option Callee)} (hi : Informed h s) (hf : Founded h s)
    (hr : Runs (callee o given) s t r s') :
    Prepares h s (roles o.target) t ∧ ((∃ c, r = .ok c) → Ready (h ++ t) o.target) := by
  unfold callee at hr
  unfold Ready
  split at hr
  . next ho =>
    obtain ⟨rfl, rfl, rfl⟩ := runs_pure_iff.1 hr
    rw [ho]
    exact ⟨.done, fun _ => List.forall_mem_nil _⟩
  . next method ho =>
    rw [ho]
    apply prepares_cons .primary (fun t r s₁ => bindPrimary_rebinds hi hf) _ hr
    intro c s₁ t u _ hpure
    obtain ⟨rfl, rfl, rfl⟩ := runs_pure_iff.1 hpure
    exact ⟨.done, fun _ => List.forall_mem_nil _⟩
  . next name method ho =>
    obtain ⟨-, hname⟩ := Operation.splitCallee?_eq_some (Operation.splitCallee?_of_target ho)
    rw [ho]
    apply prepares_cons .primary (fun t r s₁ => bindPrimary_rebinds hi hf) _ hr
    intro primary s₁ t u hprimary hr
    have hi₁ := bindPrimary_keeps informed_invariant _ _ _ _ _ hi hprimary
    have hf₁ := hf.steps (bindPrimary_moves (l := .reading) (h := h) trivial hprimary).1.steps
    apply prepares_cons (.delegate name)
      (fun t r s₂ => bindDelegate_rebinds hname hi₁ hf₁) _ hr
    intro c s₂ t u _ hpure
    rw [runs_get_bind_iff] at hpure
    obtain ⟨rfl, rfl, rfl⟩ := runs_pure_iff.1 hpure
    exact ⟨.done, fun _ => List.forall_mem_nil _⟩

/-- An operation binds the contracts it needs before it does anything else. -/
theorem prepares_of_operation {name : String} {o : Operation} {given : Option (List String)}
    {f : Operation → Option Callee → Engine α} {r : Except OperationError α} (hi : Informed h s)
    (hf : Founded h s) (ho : s.spec.functions.find? name = some o)
    (hr : Runs (do
      let o ← operation name
      let c ← callee o given
      f o c) s t r s') :
    ∃ t₁ t₂, t = t₁ ++ t₂ ∧ Prepares h s (roles o.target) t₁ ∧
      (¬ Ready (h ++ t₁) o.target → t₂ = []) := by
  have hoperation : ∀ t r s', Runs (operation name) s t r s' ↔ t = [] ∧ r = .ok o ∧ s' = s := by
    intro t r s'
    unfold operation
    rw [runs_get_bind_iff, ho]
    exact runs_pure_iff
  rw [runs_bind_of_ok hoperation, Engine.runs_bind_iff] at hr
  rcases hr with ⟨c, s₁, t₁, t₂, rfl, hc, -⟩ | ⟨e, -, hc⟩
  . obtain ⟨ht, hready⟩ := callee_prepares hi hf hc
    exact ⟨t₁, t₂, rfl, ht, fun hn => absurd (hready ⟨c, rfl⟩) hn⟩
  . obtain ⟨ht, -⟩ := callee_prepares hi hf hc
    exact ⟨t, [], (List.append_nil t).symm, ht, fun _ => rfl⟩

theorem status_prepares {o : Operation} {r : Except OperationError (Outcome Int)}
    (hi : Informed h s) (hf : Founded h s)
    (ho : s.spec.functions.find? StandardOperation.status.name = some o)
    (hr : Runs status s t r s') :
    ∃ t₁ t₂, t = t₁ ++ t₂ ∧ Prepares h s (roles o.target) t₁ ∧
      (¬ Ready (h ++ t₁) o.target → t₂ = []) := by
  unfold status at hr
  rw [Engine.runs_bind_iff] at hr
  rcases hr with ⟨outcome, s₁, t₁, t₂, rfl, hcall, hr⟩ | ⟨e, -, hcall⟩
  . -- nothing is asked behind the call
    have ht₂ : t₂ = [] := by
      split at hr
      . exact (runs_pure_iff.1 hr).1
      . next v =>
        cases hv : v.toInt64 with
        | ok i =>
          rw [hv] at hr
          exact (runs_pure_iff.1 (runs_pure_bind_iff.1 hr)).1
        | error e =>
          rw [hv] at hr
          exact (runs_throw_bind_iff.1 hr).1
    rw [ht₂, List.append_nil]
    exact prepares_of_operation hi hf ho hcall
  . exact prepares_of_operation hi hf ho hcall

/-- The operation that a task carries out. -/
def Task.operation? : Task → Option String
  | .load _ _ _ => none
  | .execute name | .call name _ => some name
  | .status => some StandardOperation.status.name

theorem Task.prepares {task : Task} {name : String} {o : Operation}
    {r : Except OperationError task.Result} (hi : Informed h s) (hf : Founded h s)
    (hname : task.operation? = some name) (ho : s.spec.functions.find? name = some o)
    (hr : Runs task.engine s t r s') :
    ∃ t₁ t₂, t = t₁ ++ t₂ ∧ Prepares h s (roles o.target) t₁ ∧
      (¬ Ready (h ++ t₁) o.target → t₂ = []) := by
  cases task with
  | load key kind required => cases hname
  | execute name =>
    cases hname
    exact prepares_of_operation hi hf ho hr
  | call name given =>
    cases hname
    exact prepares_of_operation hi hf ho hr
  | status =>
    cases hname
    exact status_prepares hi hf ho hr

/-- However tasks succeed and fail, what has been established is not asked for again, and nothing
else is bound or known: to bind a contract, and to carry out an operation, exactly what is missing is
asked for. -/
theorem established_once {spec : Specification} {settings : Settings} {tasks : List Task}
    (hr : Run (start spec settings) tasks t s) :
    Founded t s ∧ Informed t s ∧ (∀ e ∈ t, ¬ e.IsAstray) ∧
    (∀ role u r s', (∀ name, role = .delegate name → '.' ∉ name.toList) →
      Runs (binding role) s u r s' →
        Rebinds t s role u ∧ ((∃ c, r = .ok c) ↔ ∃ a, Event.codeFound role a ∈ t ++ u)) ∧
    ∀ (task : Task) name o u r s', task.operation? = some name →
      spec.functions.find? name = some o → Runs task.engine s u r s' →
        ∃ u₁ u₂, u = u₁ ++ u₂ ∧ Prepares t s (roles o.target) u₁ ∧
          (¬ Ready (t ++ u₁) o.target → u₂ = []) := by
  have hf : Founded t s := (founded_start spec settings).steps hr.steps
  have hi : Informed t s := hr.informed (informed_start spec settings)
  refine ⟨hf, hi, hr.steps.not_isAstray, ?_, ?_⟩
  . intro role u r s' hrole hbinding
    cases role with
    | primary => exact bindPrimary_rebinds hi hf hbinding
    | delegate name => exact bindDelegate_rebinds (hrole name rfl) hi hf hbinding
  . intro task name o u r s' hname ho hu
    rw [← show s.spec = spec from hr.steps.spec_eq] at ho
    exact Task.prepares hi hf hname ho hu

/-- The service with an operation that calls the delegate. -/
def operating : Specification :=
  { delegating with functions := .ofList [("m", { callee := "d.m" })] }

/-- A partner who finds no code anywhere. -/
def codeless (answer : (q : Query) → q.Reply) : (q : Query) → q.Reply
  | .request _ (.hasCode _) => .ok false
  | q => answer q

/-- Code is not found at first. The interface is not read again, and the operation goes on from
there. -/
theorem established_once_retrying :
    ∃ t s u r s', Run (start operating {}) [.call "m" none] t s ∧
      Runs (call "m" none) s u r s' ∧
      t.filterMap Event.codeOf? = [.primary] ∧ t.filterMap Event.resource? = ["primary"] ∧
      u.filterMap Event.codeOf? = [.primary, .delegate "d"] ∧
      u.filterMap Event.resource? = ["delegate"] ∧
      ∃ u₁ u₂, u = u₁ ++ u₂ ∧ Prepares t s [.primary, .delegate "d"] u₁ := by
  let answer := compliant delegatingResource (Bytes.ofNat 32 0xb2)
  let failed := transcript (codeless answer) (call "m" none) (start operating {})
  have hr : Run (start operating {}) [.call "m" none] failed.1 failed.2.2 :=
    run_transcript (codeless answer) (start operating {}) (.call "m" none)
  have hu := runs_transcript answer (call "m" none) failed.2.2
  obtain ⟨-, -, -, -, hprepares⟩ := established_once hr
  obtain ⟨u₁, u₂, heq, hu₁, -⟩ :=
    hprepares (.call "m" none) "m" { callee := "d.m" } _ _ _ rfl rfl hu
  refine ⟨_, _, _, _, _, hr, hu, ?_, ?_, ?_, ?_, u₁, u₂, heq, hu₁⟩ <;> decide +kernel

end Operation

end Session

end Registrar
