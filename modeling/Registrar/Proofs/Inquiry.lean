import Registrar.Proofs.Resolution

/-!
This module contains how built-in functions ask for their parameters. A question is answered with
the value of its parameter, or with nothing where the parameter may be missing, or it is refused
with an error. Questions are asked one after the other, and the first that is refused is the last.
-/

namespace Registrar

/-- A parameter that a function asks for: the kind that its value is loaded as, whether it has to be
there, and how its value is checked. -/
structure Question where
  name : String
  kind : Option Kind
  required : Bool
  check : Value → Except OperationError Unit

namespace Session

open Engine

variable {α β : Type} {c : BuiltinCall} {q : Question} {qs : List Question} {s s' : Session}
  {t : Trace} {e : OperationError}

/-- A question is answered: the parameter is not there, or it is empty, or it has a value that
passes the check. -/
inductive Answered (c : BuiltinCall) (q : Question) (s : Session) :
    Trace → Option Value → Session → Prop where
  | absent (hk : c.parameter q.name = none) (hq : q.required = false) :
      Answered c q s [] none s
  | empty {key : String} {t : Trace} {v : Value} {s' : Session} (hk : c.parameter q.name = some key)
      (hq : q.required = false) (hv : Runs (load key q.kind false) s t (.ok v) s')
      (he : v.isEmpty) : Answered c q s t none s'
  | given {key : String} {t : Trace} {v : Value} {s' : Session} (hk : c.parameter q.name = some key)
      (hv : Runs (load key q.kind q.required) s t (.ok v) s')
      (he : q.required = false → ¬ v.isEmpty) (hc : q.check v = .ok ()) :
      Answered c q s t (some v) s'

/-- A question is refused: the parameter is missing, or it is not loaded, or its value does not pass
the check. -/
inductive Refused (c : BuiltinCall) (q : Question) (s : Session) :
    Trace → OperationError → Session → Prop where
  | missing (hk : c.parameter q.name = none) (hq : q.required) :
      Refused c q s [] (.key (.missingParameter c.builtin.name q.name)) s
  | unloaded {key : String} {t : Trace} {e : OperationError} {s' : Session}
      (hk : c.parameter q.name = some key)
      (he : Runs (load key q.kind q.required) s t (.error e) s') : Refused c q s t e s'
  | unfit {key : String} {t : Trace} {v : Value} {e : OperationError} {s' : Session}
      (hk : c.parameter q.name = some key)
      (hv : Runs (load key q.kind q.required) s t (.ok v) s')
      (he : q.required = false → ¬ v.isEmpty) (hc : q.check v = .error e) : Refused c q s t e s'

/-- All questions are answered, one after the other. -/
inductive Answers (c : BuiltinCall) :
    List Question → Session → Trace → List (Option Value) → Session → Prop where
  | nil (s : Session) : Answers c [] s [] [] s
  | cons {q : Question} {qs : List Question} {s s₁ s₂ : Session} {t u : Trace} {v : Option Value}
      {vs : List (Option Value)} (hv : Answered c q s t v s₁) (hs : Answers c qs s₁ u vs s₂) :
      Answers c (q :: qs) s (t ++ u) (v :: vs) s₂

/-- A question is refused after all before it have been answered, and none behind it is asked. -/
inductive Refuses (c : BuiltinCall) :
    List Question → Session → Trace → OperationError → Session → Prop where
  | here {q : Question} {qs : List Question} {s s' : Session} {t : Trace} {e : OperationError}
      (he : Refused c q s t e s') : Refuses c (q :: qs) s t e s'
  | later {q : Question} {qs : List Question} {s s₁ s₂ : Session} {t u : Trace} {v : Option Value}
      {e : OperationError} (hv : Answered c q s t v s₁) (hs : Refuses c qs s₁ u e s₂) :
      Refuses c (q :: qs) s (t ++ u) e s₂

theorem Answered.steps {l : Licence} {h : Trace} {v : Option Value} (hl : Licence.reading.Le l)
    (ha : Answered c q s t v s') : Steps l h s t s' := by
  cases ha with
  | absent => exact .refl
  | empty hk hq hv =>
    have hload : Steps .reading h _ _ _ := (load_follows_reading _ _ _).steps hv
    exact hload.mono hl
  | given hk hv =>
    have hload : Steps .reading h _ _ _ := (load_follows_reading _ _ _).steps hv
    exact hload.mono hl

section Parameters

variable {name : String} {kind : Option Kind}

theorem runs_required_iff {r : Except OperationError Value} :
    Runs (c.builtin.required c.arguments name kind) s t r s' ↔
      c.parameter name = none ∧ t = [] ∧
          r = .error (.key (.missingParameter c.builtin.name name)) ∧ s' = s ∨
        ∃ key, c.parameter name = some key ∧ Runs (load key kind true) s t r s' := by
  unfold Builtin.required BuiltinCall.arguments
  cases hkey : c.parameter name with
  | none => simp [runs_throw_iff]
  | some key => simp

theorem runs_optional_ok_iff {v : Option Value} :
    Runs (Builtin.optional c.arguments name kind) s t (.ok v) s' ↔
      c.parameter name = none ∧ t = [] ∧ v = none ∧ s' = s ∨
        ∃ key w, c.parameter name = some key ∧ Runs (load key kind false) s t (.ok w) s' ∧
          v = if w.isEmpty then none else some w := by
  unfold Builtin.optional BuiltinCall.arguments
  cases hkey : c.parameter name with
  | none => simp [runs_pure_iff]
  | some key =>
    simp only [Option.map_some, runs_bind_ok_iff, runs_pure_iff]
    constructor
    . rintro ⟨w, s₁, t₁, t₂, rfl, hw, rfl, heq, rfl⟩
      cases heq
      rw [List.append_nil]
      exact Or.inr ⟨key, w, rfl, hw, rfl⟩
    . rintro (⟨hnone, -⟩ | ⟨key', w, heq, hw, rfl⟩)
      . cases hnone
      . cases heq
        exact ⟨w, s', t, [], (List.append_nil t).symm, hw, rfl, rfl, rfl⟩

theorem runs_optional_error_iff :
    Runs (Builtin.optional c.arguments name kind) s t (.error e) s' ↔
      ∃ key, c.parameter name = some key ∧ Runs (load key kind false) s t (.error e) s' := by
  unfold Builtin.optional BuiltinCall.arguments
  cases hkey : c.parameter name with
  | none => simp [runs_pure_iff]
  | some key =>
    simp only [Option.map_some, runs_bind_iff, runs_pure_iff]
    constructor
    . rintro (⟨w, s₁, t₁, t₂, rfl, hw, rfl, heq, rfl⟩ | ⟨e', heq, he⟩)
      . cases heq
      . cases heq
        exact ⟨key, rfl, he⟩
    . rintro ⟨key', heq, he⟩
      cases heq
      exact Or.inr ⟨e, rfl, he⟩

end Parameters

theorem answered_required_iff {v : Option Value} (hq : q.required = true) :
    Answered c q s t v s' ↔
      ∃ w, v = some w ∧ Runs (c.builtin.required c.arguments q.name q.kind) s t (.ok w) s' ∧
        q.check w = .ok () := by
  constructor
  . intro h
    cases h with
    | absent _ hq' =>
      rw [hq] at hq'
      cases hq'
    | empty _ hq' =>
      rw [hq] at hq'
      cases hq'
    | given hk hw _ hc =>
      rw [hq] at hw
      exact ⟨_, rfl, runs_required_iff.2 (Or.inr ⟨_, hk, hw⟩), hc⟩
  . rintro ⟨w, rfl, hw, hc⟩
    obtain ⟨-, -, heq, -⟩ | ⟨key, hk, hw⟩ := runs_required_iff.1 hw
    . cases heq
    . rw [← hq] at hw
      exact .given hk hw (by simp [hq]) hc

theorem refused_required_iff (hq : q.required = true) :
    Refused c q s t e s' ↔
      (∃ w, Runs (c.builtin.required c.arguments q.name q.kind) s t (.ok w) s' ∧
        q.check w = .error e) ∨
      Runs (c.builtin.required c.arguments q.name q.kind) s t (.error e) s' := by
  constructor
  . intro h
    cases h with
    | missing hk => exact Or.inr (runs_required_iff.2 (Or.inl ⟨hk, rfl, rfl, rfl⟩))
    | unloaded hk he =>
      rw [hq] at he
      exact Or.inr (runs_required_iff.2 (Or.inr ⟨_, hk, he⟩))
    | unfit hk hw _ hc =>
      rw [hq] at hw
      exact Or.inl ⟨_, runs_required_iff.2 (Or.inr ⟨_, hk, hw⟩), hc⟩
  . rintro (⟨w, hw, hc⟩ | he)
    . obtain ⟨-, -, heq, -⟩ | ⟨key, hk, hw⟩ := runs_required_iff.1 hw
      . cases heq
      . rw [← hq] at hw
        exact .unfit hk hw (by simp [hq]) hc
    . obtain ⟨hk, rfl, heq, rfl⟩ | ⟨key, hk, he⟩ := runs_required_iff.1 he
      . cases heq
        exact .missing hk hq
      . rw [← hq] at he
        exact .unloaded hk he

theorem answered_optional_iff {v : Option Value} (hq : q.required = false) :
    Answered c q s t v s' ↔
      Runs (Builtin.optional c.arguments q.name q.kind) s t (.ok v) s' ∧
        ∀ w, v = some w → q.check w = .ok () := by
  rw [runs_optional_ok_iff]
  constructor
  . intro h
    cases h with
    | absent hk => exact ⟨Or.inl ⟨hk, rfl, rfl, rfl⟩, by simp⟩
    | empty hk _ hw hempty =>
      exact ⟨Or.inr ⟨_, _, hk, hw, (if_pos hempty).symm⟩, by simp⟩
    | given hk hw hempty hc =>
      rw [hq] at hw
      refine ⟨Or.inr ⟨_, _, hk, hw, (if_neg (hempty hq)).symm⟩, ?_⟩
      intro w heq
      cases heq
      exact hc
  . rintro ⟨⟨hk, rfl, rfl, rfl⟩ | ⟨key, w, hk, hw, rfl⟩, hc⟩
    . exact .absent hk hq
    . by_cases hempty : w.isEmpty
      . rw [if_pos hempty]
        exact .empty hk hq hw hempty
      . rw [if_neg hempty] at hc ⊢
        rw [← hq] at hw
        exact .given hk hw (fun _ => hempty) (hc w rfl)

theorem refused_optional_iff (hq : q.required = false) :
    Refused c q s t e s' ↔
      (∃ w, Runs (Builtin.optional c.arguments q.name q.kind) s t (.ok (some w)) s' ∧
        q.check w = .error e) ∨
      Runs (Builtin.optional c.arguments q.name q.kind) s t (.error e) s' := by
  rw [runs_optional_error_iff]
  constructor
  . intro h
    cases h with
    | missing hk hq' =>
      rw [hq] at hq'
      cases hq'
    | unloaded hk he =>
      rw [hq] at he
      exact Or.inr ⟨_, hk, he⟩
    | unfit hk hw hempty hc =>
      rw [hq] at hw
      refine Or.inl ⟨_, runs_optional_ok_iff.2 (Or.inr ⟨_, _, hk, hw, ?_⟩), hc⟩
      rw [if_neg (hempty hq)]
  . rintro (⟨w, hw, hc⟩ | ⟨key, hk, he⟩)
    . obtain ⟨-, -, heq, -⟩ | ⟨key, w', hk, hw, heq⟩ := runs_optional_ok_iff.1 hw
      . cases heq
      . split at heq
        . cases heq
        . next hempty =>
          cases heq
          rw [← hq] at hw
          exact .unfit hk hw (fun _ => hempty) hc
    . rw [← hq] at he
      exact .unloaded hk he

/-- A computation asks one question and nothing else. `R` says which results go with an answer. -/
structure Asks (c : BuiltinCall) (x : Engine α) (q : Question) (R : Option Value → α → Prop) :
    Prop where
  ok_iff : ∀ {s t a s'}, Runs x s t (.ok a) s' ↔ ∃ v, Answered c q s t v s' ∧ R v a
  error_iff : ∀ {s t e s'}, Runs x s t (.error e) s' ↔ Refused c q s t e s'
  total : ∀ {s t v s'}, Answered c q s t v s' → ∃ a, R v a

/-- A computation asks questions, until one is refused, and nothing else. -/
structure Poses (c : BuiltinCall) (x : Engine α) (qs : List Question)
    (R : List (Option Value) → α → Prop) : Prop where
  ok_iff : ∀ {s t a s'}, Runs x s t (.ok a) s' ↔ ∃ vs, Answers c qs s t vs s' ∧ R vs a
  error_iff : ∀ {s t e s'}, Runs x s t (.error e) s' ↔ Refuses c qs s t e s'

theorem check_eq_ok_iff {g : Except OperationError α} :
    g.map (fun _ => ()) = .ok () ↔ ∃ a, g = .ok a := by
  cases g <;> simp [Except.map]

theorem check_eq_error_iff {g : Except OperationError α} :
    g.map (fun _ => ()) = .error e ↔ g = .error e := by
  cases g <;> simp [Except.map]

theorem asks_required (c : BuiltinCall) (q : Question) (g : Value → Except OperationError α)
    (hq : q.required = true) (hg : ∀ v, q.check v = (g v).map fun _ => ()) :
    Asks c (c.builtin.required c.arguments q.name q.kind >>= fun v => Engine.ofExcept id (g v)) q
      fun v a => ∃ w, v = some w ∧ g w = .ok a where
  ok_iff := by
    intro s t a s'
    simp only [runs_bind_ofExcept_ok_iff, answered_required_iff hq, hg, check_eq_ok_iff]
    constructor
    . rintro ⟨w, hw, ha⟩
      exact ⟨some w, ⟨w, rfl, hw, a, ha⟩, w, rfl, ha⟩
    . rintro ⟨v, ⟨w, rfl, hw, -⟩, w', heq, ha⟩
      cases heq
      exact ⟨w, hw, ha⟩
  error_iff := by
    intro s t e s'
    simp only [runs_bind_ofExcept_error_iff, refused_required_iff hq, hg, check_eq_error_iff]
  total := by
    intro s t v s' hv
    obtain ⟨w, rfl, -, hc⟩ := (answered_required_iff hq).1 hv
    rw [hg, check_eq_ok_iff] at hc
    obtain ⟨a, ha⟩ := hc
    exact ⟨a, w, rfl, ha⟩

theorem asks_optional (c : BuiltinCall) (q : Question)
    (g : Option Value → Except OperationError α) {a₀ : α} (hq : q.required = false)
    (hnone : g none = .ok a₀) (hg : ∀ v, q.check v = (g (some v)).map fun _ => ()) :
    Asks c (Builtin.optional c.arguments q.name q.kind >>= fun v => Engine.ofExcept id (g v)) q
      fun v a => g v = .ok a where
  ok_iff := by
    intro s t a s'
    simp only [runs_bind_ofExcept_ok_iff, answered_optional_iff hq, hg, check_eq_ok_iff]
    constructor
    . rintro ⟨v, hv, ha⟩
      refine ⟨v, ⟨hv, ?_⟩, ha⟩
      rintro w rfl
      exact ⟨a, ha⟩
    . rintro ⟨v, ⟨hv, -⟩, ha⟩
      exact ⟨v, hv, ha⟩
  error_iff := by
    intro s t e s'
    simp only [runs_bind_ofExcept_error_iff, refused_optional_iff hq, hg, check_eq_error_iff]
    constructor
    . rintro (⟨v, hv, he⟩ | he)
      . cases v with
        | none =>
          -- nothing never fails the check
          rw [hnone] at he
          cases he
        | some w => exact Or.inl ⟨w, hv, he⟩
      . exact Or.inr he
    . rintro (⟨w, hw, he⟩ | he)
      . exact Or.inl ⟨some w, hw, he⟩
      . exact Or.inr he
  total := by
    intro s t v s' hv
    cases v with
    | none => exact ⟨a₀, hnone⟩
    | some w =>
      have hc := ((answered_optional_iff hq).1 hv).2 w rfl
      rw [hg, check_eq_ok_iff] at hc
      exact hc

/-- An optional parameter that is not checked. -/
theorem asks_any (c : BuiltinCall) (q : Question) (hq : q.required = false)
    (hg : ∀ v, q.check v = .ok ()) :
    Asks c (Builtin.optional c.arguments q.name q.kind) q fun v a => a = v := by
  have hasks := asks_optional c q .ok hq rfl hg
  have heq : (Builtin.optional c.arguments q.name q.kind >>= fun v => Engine.ofExcept id (.ok v)) =
      Builtin.optional c.arguments q.name q.kind := bind_pure _
  rw [heq] at hasks
  simpa only [Except.ok.injEq, eq_comm] using hasks

theorem poses_pure (a : α) : Poses c (pure a) [] fun vs b => vs = [] ∧ b = a where
  ok_iff := by
    intro s t b s'
    rw [runs_pure_iff]
    constructor
    . rintro ⟨rfl, heq, rfl⟩
      cases heq
      exact ⟨[], .nil _, rfl, rfl⟩
    . rintro ⟨vs, hvs, rfl, rfl⟩
      cases hvs
      exact ⟨rfl, rfl, rfl⟩
  error_iff := by
    intro s t e s'
    rw [runs_pure_iff]
    constructor
    . rintro ⟨-, heq, -⟩
      cases heq
    . intro h
      cases h

theorem poses_bind {x : Engine α} {f : α → Engine β} {R : Option Value → α → Prop}
    {R' : α → List (Option Value) → β → Prop} (hx : Asks c x q R)
    (hf : ∀ a, Poses c (f a) qs (R' a)) :
    Poses c (x >>= f) (q :: qs) fun vs b => ∃ v ws a, vs = v :: ws ∧ R v a ∧ R' a ws b where
  ok_iff := by
    intro s t b s'
    rw [runs_bind_ok_iff]
    constructor
    . rintro ⟨a, s₁, t₁, t₂, rfl, ha, hb⟩
      obtain ⟨v, hv, hR⟩ := hx.ok_iff.1 ha
      obtain ⟨ws, hws, hR'⟩ := (hf a).ok_iff.1 hb
      exact ⟨v :: ws, .cons hv hws, v, ws, a, rfl, hR, hR'⟩
    . rintro ⟨vs, hvs, v, ws, a, rfl, hR, hR'⟩
      cases hvs with
      | cons hv hws =>
        have ha := hx.ok_iff.2 ⟨v, hv, hR⟩
        have hb := (hf a).ok_iff.2 ⟨ws, hws, hR'⟩
        exact ⟨a, _, _, _, rfl, ha, hb⟩
  error_iff := by
    intro s t e s'
    rw [runs_bind_iff]
    constructor
    . rintro (⟨a, s₁, t₁, t₂, rfl, ha, he⟩ | ⟨e', heq, he⟩)
      . obtain ⟨v, hv, -⟩ := hx.ok_iff.1 ha
        exact .later hv ((hf a).error_iff.1 he)
      . cases heq
        exact .here (hx.error_iff.1 he)
    . intro h
      cases h with
      | here he => exact Or.inr ⟨e, rfl, hx.error_iff.2 he⟩
      | later hv hs =>
        -- what has been answered has a result, with which the other questions are asked
        obtain ⟨a, hR⟩ := hx.total hv
        exact Or.inl ⟨a, _, _, _, rfl, hx.ok_iff.2 ⟨_, hv, hR⟩, (hf a).error_iff.2 hs⟩

theorem Poses.congr {x : Engine α} {R R' : List (Option Value) → α → Prop} (hx : Poses c x qs R)
    (h : ∀ vs a, R vs a ↔ R' vs a) : Poses c x qs R' := by
  have hR : R = R' := by
    funext vs a
    exact propext (h vs a)
  rw [← hR]
  exact hx

end Session

end Registrar
