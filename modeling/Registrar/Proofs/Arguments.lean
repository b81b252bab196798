import Registrar.Proofs.Run
import Registrar.Session.Call

/-!
This module contains what comes of the arguments of a call: they are loaded, converted and encoded
from left to right, each in the session that the ones before it left, until one of them fails.
-/

namespace Registrar

theorem Contract.method_some_eq_ok {c : Contract} {name : String} {n : Nat} {m : Method}
    (h : c.method name (some n) = .ok m) : m ∈ c.interface.overloads name ∧ m.inputs.length = n := by
  unfold method at h
  split at h
  . cases h
  . next hlist =>
    dsimp only at h
    split at h
    . next hfind =>
      cases h
      rw [hlist]
      constructor
      . exact List.mem_of_find?_eq_some hfind
      . simpa using List.find?_some hfind
    . cases h

namespace Session

open Engine

variable {α : Type} {load : α → Option Kind → Engine Value} {s s' : Session} {t : Trace}

/-- All arguments are loaded and encoded for their parameters, one after the other. -/
inductive Encoded (load : α → Option Kind → Engine Value) :
    List Param → List α → Session → Trace → List AbiValue → Session → Prop where
  | nil (s : Session) : Encoded load [] [] s [] [] s
  | cons {p : Param} {a : α} {ps : List Param} {as : List α} {s s₁ s₂ : Session} {t u : Trace}
      {type : AbiType} {v : Value} {w : AbiValue} {ws : List AbiValue}
      (hp : p.resolve = some type) (hv : Runs (load a type.kind?) s t (.ok v) s₁)
      (hw : v.encodeAs type p.components = .ok w) (hs : Encoded load ps as s₁ u ws s₂) :
      Encoded load (p :: ps) (a :: as) s (t ++ u) (w :: ws) s₂

/-- An argument is not loaded and encoded for its parameter. -/
inductive Unencodable (load : α → Option Kind → Engine Value) (p : Param) (a : α) (s : Session) :
    Trace → OperationError → Session → Prop where
  | unknown (hp : p.resolve = none) :
      Unencodable load p a s [] (.encode p.type "the type is not known") s
  | unloaded {type : AbiType} {t : Trace} {e : OperationError} {s' : Session}
      (hp : p.resolve = some type) (he : Runs (load a type.kind?) s t (.error e) s') :
      Unencodable load p a s t e s'
  | unfit {type : AbiType} {t : Trace} {v : Value} {e : ConversionError} {s' : Session}
      (hp : p.resolve = some type) (hv : Runs (load a type.kind?) s t (.ok v) s')
      (he : v.encodeAs type p.components = .error e) :
      Unencodable load p a s t (.ofConversion e) s'

theorem Encoded.map {β : Type} {f : α → β} {load : β → Option Kind → Engine Value} {ps : List Param}
    {as : List α} {ws : List AbiValue}
    (hw : Encoded (fun a => load (f a)) ps as s t ws s') : Encoded load ps (as.map f) s t ws s' := by
  induction hw with
  | nil => exact .nil _
  | cons hp hv hw _ ih => exact .cons hp hv hw ih

theorem Encoded.get {ps : List Param} {as : List α} {ws : List AbiValue} {i : Nat} {a : α}
    (hw : Encoded load ps as s t ws s') (ha : as[i]? = some a) :
    ∃ p type w v s₁ s₂ t₁ t₂ t₃, ps[i]? = some p ∧ ws[i]? = some w ∧ p.resolve = some type ∧
      t = t₁ ++ (t₂ ++ t₃) ∧ Encoded load (ps.take i) (as.take i) s t₁ (ws.take i) s₁ ∧
      Runs (load a type.kind?) s₁ t₂ (.ok v) s₂ ∧ v.encodeAs type p.components = .ok w := by
  induction hw generalizing i with
  | nil => simp at ha
  | @cons p b ps as s s₁ s₂ t u type v w ws hp hv hw hs ih =>
    cases i with
    | zero =>
      cases ha
      exact ⟨p, type, w, v, s, s₁, [], t, u, rfl, rfl, hp, rfl, .nil s, hv, hw⟩
    | succ i =>
      obtain ⟨p', type', w', v', s₃, s₄, t₁, t₂, t₃, hp', hw', hr', rfl, hs', hv', he'⟩ := ih ha
      refine ⟨p', type', w', v', s₃, s₄, t ++ t₁, t₂, t₃, hp', hw', hr', ?_, ?_, hv', he'⟩
      . rw [List.append_assoc]
      . exact .cons hp hv hw hs'

theorem runs_argument_ok_iff {p : Param} {a : α} {w : AbiValue} :
    Runs (argument load p a) s t (.ok w) s' ↔
      ∃ type v, p.resolve = some type ∧ Runs (load a type.kind?) s t (.ok v) s' ∧
        v.encodeAs type p.components = .ok w := by
  unfold argument
  cases hp : p.resolve with
  | none => simp [runs_throw_iff]
  | some type =>
    dsimp only
    rw [runs_bind_ok_iff]
    constructor
    . rintro ⟨v, s₁, t₁, t₂, rfl, hv, hencode⟩
      obtain ⟨rfl, hw, rfl⟩ := runs_ofExcept_ok_iff.1 hencode
      rw [List.append_nil]
      exact ⟨type, v, rfl, hv, hw⟩
    . rintro ⟨type', v, heq, hv, hw⟩
      cases heq
      exact ⟨v, s', t, [], (List.append_nil t).symm, hv, runs_ofExcept_ok_iff.2 ⟨rfl, hw, rfl⟩⟩

theorem runs_argument_error_iff {p : Param} {a : α} {e : OperationError} :
    Runs (argument load p a) s t (.error e) s' ↔ Unencodable load p a s t e s' := by
  unfold argument
  cases hp : p.resolve with
  | none =>
    dsimp only
    rw [runs_throw_iff]
    constructor
    . rintro ⟨rfl, he, rfl⟩
      cases he
      exact .unknown hp
    . intro h
      cases h with
      | unknown => exact ⟨rfl, rfl, rfl⟩
      | unloaded hp' => simp [hp] at hp'
      | unfit hp' => simp [hp] at hp'
  | some type =>
    dsimp only
    rw [runs_bind_iff]
    constructor
    . rintro (⟨v, s₁, t₁, t₂, rfl, hv, hw⟩ | ⟨e', he, hv⟩)
      . obtain ⟨rfl, hw, rfl⟩ := runs_ofExcept_iff.1 hw
        rw [List.append_nil]
        cases hencode : v.encodeAs type p.components with
        | ok w =>
          rw [hencode] at hw
          cases hw
        | error e' =>
          rw [hencode] at hw
          cases hw
          exact .unfit hp hv hencode
      . cases he
        exact .unloaded hp hv
    . intro h
      cases h with
      | unknown hp' => simp [hp] at hp'
      | unloaded hp' he =>
        rw [hp] at hp'
        cases hp'
        exact Or.inr ⟨e, rfl, he⟩
      | unfit hp' hv he =>
        rw [hp] at hp'
        cases hp'
        left
        refine ⟨_, s', t, [], (List.append_nil t).symm, hv, ?_⟩
        rw [runs_ofExcept_iff, he]
        exact ⟨rfl, rfl, rfl⟩

theorem runs_arguments_cons_iff {method : String} {position : Nat} {p : Param} {ps : List Param}
    {a : α} {as : List α} {r : Except OperationError (List AbiValue)} :
    Runs (arguments load method position (p :: ps) (a :: as)) s t r s' ↔
      (∃ w t₁ s₁ t₂ r', t = t₁ ++ t₂ ∧ Runs (argument load p a) s t₁ (.ok w) s₁ ∧
        Runs (arguments load method (position + 1) ps as) s₁ t₂ r' s' ∧ r = r'.map (w :: ·)) ∨
      ∃ e, Runs (argument load p a) s t (.error e) s' ∧
        r = .error (.parameterMapping method position e) := by
  rw [show arguments load method position (p :: ps) (a :: as) = (do
    let w ← within (.parameterMapping method position) (argument load p a)
    let ws ← arguments load method (position + 1) ps as
    return w :: ws) from rfl]
  rw [runs_bind_iff]
  constructor
  . rintro (⟨w, s₁, t₁, t₂, rfl, hw, hr⟩ | ⟨e, rfl, he⟩)
    . left
      rw [runs_within_ok_iff] at hw
      rw [runs_bind_iff] at hr
      cases hr with
      | inl hr =>
        obtain ⟨ws, s₂, t₃, t₄, rfl, hws, hr⟩ := hr
        obtain ⟨rfl, rfl, rfl⟩ := runs_pure_iff.1 hr
        rw [List.append_nil]
        exact ⟨w, t₁, s₁, t₃, .ok ws, rfl, hw, hws, rfl⟩
      | inr hr =>
        obtain ⟨e, rfl, he⟩ := hr
        exact ⟨w, t₁, s₁, t₂, .error e, rfl, hw, he, rfl⟩
    . right
      obtain ⟨r₀, hr, hargument⟩ := runs_within_iff.1 he
      cases r₀ with
      | ok w => cases hr
      | error e' =>
        cases hr
        exact ⟨e', hargument, rfl⟩
  . rintro (⟨w, t₁, s₁, t₂, r', rfl, hw, hr, rfl⟩ | ⟨e, he, rfl⟩)
    . left
      refine ⟨w, s₁, t₁, t₂, rfl, runs_within_ok_iff.2 hw, ?_⟩
      rw [runs_bind_iff]
      cases r' with
      | ok ws =>
        left
        refine ⟨ws, s', t₂, [], (List.append_nil t₂).symm, hr, ?_⟩
        exact runs_pure_iff.2 ⟨rfl, rfl, rfl⟩
      | error e => exact Or.inr ⟨e, rfl, hr⟩
    . right
      exact ⟨_, rfl, runs_within_iff.2 ⟨.error e, rfl, he⟩⟩

theorem runs_arguments_ok_iff {method : String} {position : Nat} {ps : List Param} {as : List α}
    {ws : List AbiValue} (hlength : ps.length = as.length) :
    Runs (arguments load method position ps as) s t (.ok ws) s' ↔
      Encoded load ps as s t ws s' := by
  induction ps generalizing as position s t ws with
  | nil =>
    obtain rfl : as = [] := List.length_eq_zero_iff.1 hlength.symm
    constructor
    . intro hr
      obtain ⟨rfl, heq, rfl⟩ := runs_pure_iff.1 hr
      cases heq
      exact .nil s'
    . intro hs
      cases hs
      exact runs_pure_iff.2 ⟨rfl, rfl, rfl⟩
  | cons p ps ih =>
    cases as with
    | nil => simp at hlength
    | cons a as =>
      have hrest : ps.length = as.length := by simpa using hlength
      rw [runs_arguments_cons_iff]
      constructor
      . rintro (⟨w, t₁, s₁, t₂, r', rfl, hw, hr, heq⟩ | ⟨e, -, heq⟩)
        . obtain ⟨type, v, hp, hv, hw⟩ := runs_argument_ok_iff.1 hw
          cases r' with
          | ok ws' =>
            cases heq
            exact .cons hp hv hw ((ih hrest).1 hr)
          | error e => cases heq
        . cases heq
      . intro hs
        cases hs with
        | cons hp hv hw hs =>
          left
          refine ⟨_, _, _, _, .ok _, rfl, ?_, (ih hrest).2 hs, rfl⟩
          exact runs_argument_ok_iff.2 ⟨_, _, hp, hv, hw⟩

/-- The arguments fail with the first one that fails, which the error counts from `position` on. -/
theorem runs_arguments_error_iff {method : String} {position : Nat} {ps : List Param} {as : List α}
    {e : OperationError} (hlength : ps.length = as.length) :
    Runs (arguments load method position ps as) s t (.error e) s' ↔
      ∃ i p a t₁ ws s₁ t₂ e', ps[i]? = some p ∧ as[i]? = some a ∧ t = t₁ ++ t₂ ∧
        Encoded load (ps.take i) (as.take i) s t₁ ws s₁ ∧ Unencodable load p a s₁ t₂ e' s' ∧
        e = .parameterMapping method (position + i) e' := by
  -- an argument that fails is the first one, or one of those behind it, where counting goes on
  induction ps generalizing as position s t with
  | nil =>
    obtain rfl : as = [] := List.length_eq_zero_iff.1 hlength.symm
    constructor
    . intro hr
      obtain ⟨-, heq, -⟩ := runs_pure_iff.1 hr
      cases heq
    . rintro ⟨i, p, a, t₁, ws, s₁, t₂, e', hp, -⟩
      simp at hp
  | cons p ps ih =>
    cases as with
    | nil => simp at hlength
    | cons a as =>
      have hrest : ps.length = as.length := by simpa using hlength
      rw [runs_arguments_cons_iff]
      constructor
      . rintro (⟨w, t₁, s₁, t₂, r', rfl, hw, hr, heq⟩ | ⟨e', he, heq⟩)
        . obtain ⟨type, v, hp, hv, hw⟩ := runs_argument_ok_iff.1 hw
          cases r' with
          | ok ws => cases heq
          | error e' =>
            cases heq
            obtain ⟨i, p', a', t₃, ws, s₂, t₄, e'', hp', ha', rfl, hs, he, rfl⟩ :=
              (ih hrest).1 hr
            refine ⟨i + 1, p', a', t₁ ++ t₃, w :: ws, s₂, t₄, e'', hp', ha', ?_, ?_, he, ?_⟩
            . rw [List.append_assoc]
            . exact .cons hp hv hw hs
            . rw [Nat.add_assoc, Nat.add_comm 1 i]
        . cases heq
          refine ⟨0, p, a, [], [], s, t, e', rfl, rfl, rfl, .nil s, ?_, rfl⟩
          exact runs_argument_error_iff.1 he
      . rintro ⟨i, p', a', t₁, ws, s₁, t₂, e', hp', ha', rfl, hs, he, rfl⟩
        cases i with
        | zero =>
          cases hp'
          cases ha'
          cases hs
          right
          exact ⟨e', runs_argument_error_iff.2 he, rfl⟩
        | succ i =>
          rw [List.take_succ_cons, List.take_succ_cons] at hs
          cases hs with
          | cons hp hv hw hs =>
            left
            have hargument := runs_argument_ok_iff.2 ⟨_, _, hp, hv, hw⟩
            refine ⟨_, _, _, _, .error _, List.append_assoc _ _ _, hargument, ?_, rfl⟩
            apply (ih hrest).2
            refine ⟨i, p', a', _, _, _, t₂, e', hp', ha', rfl, hs, he, ?_⟩
            rw [Nat.add_assoc, Nat.add_comm 1 i]

theorem runs_calldata_iff {m : Method} {as : List α} {r : Except OperationError Bytes}
    (hlength : m.inputs.length = as.length) :
    Runs (calldata load m as) s t r s' ↔
      ∃ r', Runs (arguments load m.signature 0 m.inputs as) s t r' s' ∧
        r = r'.map fun ws => m.selector ++ Abi.encode ws := by
  unfold calldata
  rw [if_pos hlength]
  rw [runs_bind_iff]
  constructor
  . rintro (⟨ws, s₁, t₁, t₂, rfl, hws, hr⟩ | ⟨e, rfl, he⟩)
    . obtain ⟨rfl, rfl, rfl⟩ := runs_pure_iff.1 hr
      rw [List.append_nil]
      exact ⟨.ok ws, hws, rfl⟩
    . exact ⟨.error e, he, rfl⟩
  . rintro ⟨r', hr, rfl⟩
    cases r' with
    | ok ws =>
      left
      refine ⟨ws, s', t, [], (List.append_nil t).symm, hr, ?_⟩
      exact runs_pure_iff.2 ⟨rfl, rfl, rfl⟩
    | error e => exact Or.inr ⟨e, rfl, hr⟩

theorem runs_calldata_ok_iff {m : Method} {as : List α} {data : Bytes}
    (hlength : m.inputs.length = as.length) :
    Runs (calldata load m as) s t (.ok data) s' ↔
      ∃ ws, Encoded load m.inputs as s t ws s' ∧ data = m.selector ++ Abi.encode ws := by
  rw [runs_calldata_iff hlength]
  constructor
  . rintro ⟨r', hr, heq⟩
    cases r' with
    | ok ws =>
      simp only [Except.map, Except.ok.injEq] at heq
      exact ⟨ws, (runs_arguments_ok_iff hlength).1 hr, heq⟩
    | error e => simp [Except.map] at heq
  . rintro ⟨ws, hs, hdata⟩
    refine ⟨.ok ws, (runs_arguments_ok_iff hlength).2 hs, ?_⟩
    rw [hdata, Except.map]

theorem runs_calldata_error_iff {m : Method} {as : List α} {e : OperationError}
    (hlength : m.inputs.length = as.length) :
    Runs (calldata load m as) s t (.error e) s' ↔
      ∃ i p a t₁ ws s₁ t₂ e', m.inputs[i]? = some p ∧ as[i]? = some a ∧ t = t₁ ++ t₂ ∧
        Encoded load (m.inputs.take i) (as.take i) s t₁ ws s₁ ∧ Unencodable load p a s₁ t₂ e' s' ∧
        e = .parameterMapping m.signature i e' := by
  have harguments : Runs (calldata load m as) s t (.error e) s' ↔
      Runs (arguments load m.signature 0 m.inputs as) s t (.error e) s' := by
    rw [runs_calldata_iff hlength]
    constructor
    . rintro ⟨r', hr, heq⟩
      cases r' with
      | ok ws => simp [Except.map] at heq
      | error e' =>
        simp only [Except.map, Except.error.injEq] at heq
        rw [heq]
        exact hr
    . intro hr
      exact ⟨.error e, hr, rfl⟩
  rw [harguments, runs_arguments_error_iff hlength]
  simp only [Nat.zero_add]

end Session

end Registrar
