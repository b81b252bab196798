import Registrar.Proofs.Arguments
import Registrar.Proofs.Conduct.Operation

/-!
This module contains what carrying out an operation comes to. Its contract is bound, its parameters
are loaded and encoded from left to right, and only then, if all of this succeeds, one transaction is
submitted, which is the last that is put to the outside. Nothing else submits a transaction.
-/

namespace Registrar

def Trace.Quiet (t : Trace) : Prop :=
  ∀ e ∈ t, ¬ e.isSubmission

namespace Session

open Engine

variable {α : Type} {s s' : Session} {t : Trace}

/-- The transaction that calls a method of what has been bound. -/
def Callee.transaction (c : Callee) (m : Method) (data : Bytes) : Transaction where
  target := c.contract.address
  method := m.signature
  calldata := data

/-- What carrying out the operation of a name comes to, by the point that it reaches. -/
inductive Execution (name : String) (s : Session) :
    Trace → Except OperationError (Outcome TransactionOutcome) → Session → Prop where
  | unknown (ho : s.spec.functions.find? name = none) :
      Execution name s [] (.error (.notSupported name)) s
  | stub {o : Operation} (ho : s.spec.functions.find? name = some o) (hc : o.target = .stub) :
      Execution name s [] (.ok (.unsupported o.userMessage)) s
  | unbound {o : Operation} {t : Trace} {e : OperationError} {s' : Session}
      (ho : s.spec.functions.find? name = some o) (hc : o.target ≠ .stub)
      (hb : Runs (callee o none) s t (.error e) s') (ht : t.Quiet) :
      Execution name s t (.error e) s'
  | unmatched {o : Operation} {c : Callee} {t : Trace} {e : OperationError} {s' : Session}
      (ho : s.spec.functions.find? name = some o)
      (hb : Runs (callee o none) s t (.ok (some c)) s') (ht : t.Quiet)
      (hc : s'.bound? c.role = some c.contract)
      (hm : c.contract.method c.method (some c.parameters.length) = .error e) :
      Execution name s t (.error e) s'
  | unmapped {o : Operation} {c : Callee} {m : Method} {i : Nat} {p : Param} {key : String}
      {ws : List AbiValue} {t₁ t₂ t₃ : Trace} {e : OperationError} {s₁ s₂ s' : Session}
      (ho : s.spec.functions.find? name = some o)
      (hb : Runs (callee o none) s t₁ (.ok (some c)) s₁) (ht : t₁.Quiet)
      (hc : s₁.bound? c.role = some c.contract)
      (hm : c.contract.method c.method (some c.parameters.length) = .ok m)
      (hp : m.inputs[i]? = some p) (hk : c.parameters[i]? = some key)
      (hw : Encoded loadParameter (m.inputs.take i) (c.parameters.take i) s₁ t₂ ws s₂)
      (he : Unencodable loadParameter p key s₂ t₃ e s') (hq : Trace.Quiet (t₂ ++ t₃)) :
      Execution name s (t₁ ++ (t₂ ++ t₃)) (.error (.parameterMapping m.signature i e)) s'
  | submitted {o : Operation} {c : Callee} {m : Method} {ws : List AbiValue} {t₁ t₂ : Trace}
      {s₁ s' : Session} (x : Except TransactionError TransactionOutcome)
      (ho : s.spec.functions.find? name = some o)
      (hb : Runs (callee o none) s t₁ (.ok (some c)) s₁) (ht : t₁.Quiet)
      (hc : s₁.bound? c.role = some c.contract)
      (hm : c.contract.method c.method (some c.parameters.length) = .ok m)
      (hw : Encoded loadParameter m.inputs c.parameters s₁ t₂ ws s') (hq : t₂.Quiet) :
      Execution name s
        (t₁ ++ (t₂ ++ [⟨.request (some c.role) (.submit
          (c.transaction m (m.selector ++ Abi.encode ws))), x⟩]))
        ((x.mapError .transaction).map .completed) s'

theorem quiet_of_follows_reading {x : Engine α} {r : Except OperationError α}
    (hx : Follows .reading x) (hr : Runs x s t r s') : t.Quiet := by
  have hsteps : Steps .reading [] s t s' := hx.steps hr
  exact hsteps.not_isSubmission not_false

theorem callee_quiet {o : Operation} {given : Option (List String)}
    {r : Except OperationError (Option Callee)} (hr : Runs (callee o given) s t r s') :
    t.Quiet := by
  have hsteps : Steps .reading [] s t s' := (callee_moves hr).1.steps
  exact hsteps.not_isSubmission not_false

theorem runs_operation_bind_some_iff {name : String} {o : Operation} {f : Operation → Engine α}
    {r : Except OperationError α} (ho : s.spec.functions.find? name = some o) :
    Runs (operation name >>= f) s t r s' ↔ Runs (f o) s t r s' := by
  apply runs_bind_of_ok
  intro t r s'
  unfold operation
  rw [runs_get_bind_iff, ho]
  exact runs_pure_iff

theorem runs_operation_bind_none_iff {name : String} {f : Operation → Engine α}
    {r : Except OperationError α} (ho : s.spec.functions.find? name = none) :
    Runs (operation name >>= f) s t r s' ↔
      t = [] ∧ r = .error (.notSupported name) ∧ s' = s := by
  apply runs_bind_of_error
  intro t r s'
  unfold operation
  rw [runs_get_bind_iff, ho]
  exact runs_throw_iff

theorem runs_callee_of_stub {o : Operation} {given : Option (List String)}
    {r : Except OperationError (Option Callee)} (ho : o.target = .stub) :
    Runs (callee o given) s t r s' ↔ t = [] ∧ r = .ok none ∧ s' = s := by
  unfold callee
  rw [ho]
  exact runs_pure_iff

theorem not_runs_callee_none {o : Operation} {given : Option (List String)}
    (ho : o.target ≠ .stub) : ¬ Runs (callee o given) s t (.ok none) s' := by
  intro hr
  unfold callee at hr
  split at hr
  . next h => exact ho h
  . obtain ⟨c, s₁, t₁, t₂, rfl, -, hpure⟩ := runs_bind_ok_iff.1 hr
    obtain ⟨-, heq, -⟩ := runs_pure_iff.1 hpure
    cases heq
  . obtain ⟨c, s₁, t₁, t₂, rfl, -, hdelegate⟩ := runs_bind_ok_iff.1 hr
    obtain ⟨c', s₂, t₃, t₄, rfl, -, hget⟩ := runs_bind_ok_iff.1 hdelegate
    rw [runs_get_bind_iff] at hget
    obtain ⟨-, heq, -⟩ := runs_pure_iff.1 hget
    cases heq

theorem calldata_quiet {m : Method} {keys : List String} {r : Except OperationError Bytes}
    (hr : Runs (calldata loadParameter m keys) s t r s') : t.Quiet := by
  apply quiet_of_follows_reading _ hr
  apply calldata_follows
  intro key kind
  exact load_follows_reading key kind true

theorem runs_submission_iff {c : Callee} {m : Method}
    {r : Except OperationError (Outcome TransactionOutcome)} :
    Runs (do
      let data ← calldata loadParameter m c.parameters
      let answer ← askAbout c.role (.submit (c.transaction m data))
      let outcome ← Engine.ofExcept .transaction answer
      return .completed outcome) s t r s' ↔
      (∃ e, r = .error e ∧ Runs (calldata loadParameter m c.parameters) s t (.error e) s') ∨
        ∃ data t₁ x, t = t₁ ++ [⟨.request (some c.role) (.submit (c.transaction m data)), x⟩] ∧
          r = (x.mapError .transaction).map .completed ∧
          Runs (calldata loadParameter m c.parameters) s t₁ (.ok data) s' := by
  rw [runs_bind_iff]
  constructor
  . rintro (⟨data, s₁, t₁, t₂, rfl, hdata, hr⟩ | h)
    . right
      obtain ⟨x, t', rfl, hx⟩ := runs_askAbout_bind_iff.1 hr
      cases x with
      | error e =>
        obtain ⟨rfl, rfl, rfl⟩ := runs_throw_bind_iff.1 hx
        exact ⟨data, t₁, .error e, rfl, rfl, hdata⟩
      | ok outcome =>
        have hpure := runs_pure_bind_iff.1 hx
        obtain ⟨rfl, rfl, rfl⟩ := runs_pure_iff.1 hpure
        exact ⟨data, t₁, .ok outcome, rfl, rfl, hdata⟩
    . exact Or.inl h
  . rintro (h | ⟨data, t₁, x, rfl, rfl, hdata⟩)
    . exact Or.inr h
    . left
      refine ⟨data, s', t₁, _, rfl, hdata, ?_⟩
      rw [runs_askAbout_bind_iff]
      refine ⟨x, [], rfl, ?_⟩
      cases x with
      | error e => exact runs_throw_bind_iff.2 ⟨rfl, rfl, rfl⟩
      | ok outcome => exact runs_pure_bind_iff.2 (runs_pure_iff.2 ⟨rfl, rfl, rfl⟩)

/-- Carrying out an operation whose contract is bound goes on with the method that has as many
inputs as the operation has parameters. -/
theorem runs_execute_of_callee {name : String} {o : Operation} {c : Callee} {t₁ t₂ : Trace}
    {s₁ : Session} {r : Except OperationError (Outcome TransactionOutcome)}
    (ho : s.spec.functions.find? name = some o)
    (hb : Runs (callee o none) s t₁ (.ok (some c)) s₁)
    (hr : Runs (do
      let m ← Engine.ofExcept id (c.contract.method c.method (some c.parameters.length))
      let data ← calldata loadParameter m c.parameters
      let answer ← askAbout c.role (.submit (c.transaction m data))
      let outcome ← Engine.ofExcept .transaction answer
      return .completed outcome) s₁ t₂ r s') :
    Runs (execute name) s (t₁ ++ t₂) r s' := by
  unfold execute
  rw [runs_operation_bind_some_iff ho]
  rw [runs_bind_iff]
  left
  exact ⟨some c, s₁, t₁, t₂, rfl, hb, hr⟩

theorem runs_execute_of_execution {name : String}
    {r : Except OperationError (Outcome TransactionOutcome)} (he : Execution name s t r s') :
    Runs (execute name) s t r s' := by
  cases he with
  | unknown ho =>
    unfold execute
    rw [runs_operation_bind_none_iff ho]
    exact ⟨rfl, rfl, rfl⟩
  | @stub o ho hc =>
    unfold execute
    rw [runs_operation_bind_some_iff ho]
    rw [runs_bind_iff]
    left
    refine ⟨none, s, [], [], rfl, (runs_callee_of_stub hc).2 ⟨rfl, rfl, rfl⟩, ?_⟩
    exact runs_pure_iff.2 ⟨rfl, rfl, rfl⟩
  | unbound ho hc hb ht =>
    unfold execute
    rw [runs_operation_bind_some_iff ho]
    rw [runs_bind_iff]
    right
    exact ⟨_, rfl, hb⟩
  | unmatched ho hb ht hc hm =>
    rw [← List.append_nil t]
    apply runs_execute_of_callee ho hb
    rw [hm]
    exact runs_throw_bind_iff.2 ⟨rfl, rfl, rfl⟩
  | unmapped ho hb ht hc hm hp hk hw he hq =>
    apply runs_execute_of_callee ho hb
    rw [hm]
    apply runs_pure_bind_iff.2
    rw [runs_submission_iff]
    left
    refine ⟨_, rfl, ?_⟩
    rw [runs_calldata_error_iff (Contract.method_some_eq_ok hm).2]
    exact ⟨_, _, _, _, _, _, _, _, hp, hk, rfl, hw, he, rfl⟩
  | submitted x ho hb ht hc hm hw hq =>
    apply runs_execute_of_callee ho hb
    rw [hm]
    apply runs_pure_bind_iff.2
    rw [runs_submission_iff]
    right
    refine ⟨_, _, x, rfl, rfl, ?_⟩
    rw [runs_calldata_ok_iff (Contract.method_some_eq_ok hm).2]
    exact ⟨_, hw, rfl⟩

theorem execution_of_runs_execute {name : String}
    {r : Except OperationError (Outcome TransactionOutcome)} (hr : Runs (execute name) s t r s') :
    Execution name s t r s' := by
  unfold execute at hr
  cases ho : s.spec.functions.find? name with
  | none =>
    rw [runs_operation_bind_none_iff ho] at hr
    obtain ⟨rfl, rfl, rfl⟩ := hr
    exact .unknown ho
  | some o =>
    rw [runs_operation_bind_some_iff ho] at hr
    -- a stub ends here; of anything else the contract is bound, or binding it fails
    by_cases hstub : o.target = .stub
    . rw [runs_bind_iff] at hr
      cases hr with
      | inr hr =>
        obtain ⟨e, -, hb⟩ := hr
        obtain ⟨-, heq, -⟩ := (runs_callee_of_stub hstub).1 hb
        cases heq
      | inl hr =>
        obtain ⟨oc, s₁, t₁, t₂, rfl, hb, hr⟩ := hr
        obtain ⟨rfl, heq, rfl⟩ := (runs_callee_of_stub hstub).1 hb
        cases heq
        obtain ⟨rfl, rfl, rfl⟩ := runs_pure_iff.1 hr
        exact .stub ho hstub
    . rw [runs_bind_iff] at hr
      cases hr with
      | inr hr =>
        obtain ⟨e, rfl, hb⟩ := hr
        exact .unbound ho hstub hb (callee_quiet hb)
      | inl hr =>
        obtain ⟨oc, s₁, t₁, t₂, rfl, hb, hr⟩ := hr
        cases oc with
        | none => exact absurd hb (not_runs_callee_none hstub)
        | some c =>
          have hquiet := callee_quiet hb
          have hbound : s₁.bound? c.role = some c.contract :=
            (callee_moves (h := []) hb).2 _ rfl c rfl
          dsimp only at hr
          cases hm : c.contract.method c.method (some c.parameters.length) with
          | error e =>
            rw [hm] at hr
            obtain ⟨rfl, rfl, rfl⟩ := runs_throw_bind_iff.1 hr
            rw [List.append_nil]
            exact .unmatched ho hb hquiet hbound hm
          | ok m =>
            rw [hm] at hr
            have hlength := (Contract.method_some_eq_ok hm).2
            have hsubmission := runs_submission_iff.1 (runs_pure_bind_iff.1 hr)
            -- the arguments fail, or all of them go into one transaction
            cases hsubmission with
            | inl hfail =>
              obtain ⟨e, rfl, hdata⟩ := hfail
              have hq := calldata_quiet hdata
              rw [runs_calldata_error_iff hlength] at hdata
              obtain ⟨i, p, key, t₃, ws, s₂, t₄, e', hp, hk, rfl, hw, he, rfl⟩ := hdata
              exact .unmapped ho hb hquiet hbound hm hp hk hw he hq
            | inr hok =>
              obtain ⟨data, t₃, x, rfl, rfl, hdata⟩ := hok
              have hq := calldata_quiet hdata
              rw [runs_calldata_ok_iff hlength] at hdata
              obtain ⟨ws, hw, hdata⟩ := hdata
              rw [hdata]
              exact .submitted x ho hb hquiet hbound hm hw hq

theorem not_runs_callee_some {name : String} {o o' : Operation} {c : Callee} {s₁ : Session}
    (ho : s.spec.functions.find? name = some o) (hstub : o.target = .stub)
    (ho' : s.spec.functions.find? name = some o') :
    ¬ Runs (callee o' none) s t (.ok (some c)) s₁ := by
  rw [ho] at ho'
  cases ho'
  intro hb
  obtain ⟨-, heq, -⟩ := (runs_callee_of_stub hstub).1 hb
  cases heq

theorem execution_of_stub {name : String} {o : Operation}
    {r : Except OperationError (Outcome TransactionOutcome)}
    (ho : s.spec.functions.find? name = some o) (hstub : o.target = .stub)
    (he : Execution name s t r s') : t = [] ∧ r = .ok (.unsupported o.userMessage) ∧ s' = s := by
  cases he with
  | unknown ho' =>
    rw [ho] at ho'
    cases ho'
  | stub ho' hc =>
    rw [ho] at ho'
    cases ho'
    exact ⟨rfl, rfl, rfl⟩
  | unbound ho' hc hb ht =>
    rw [ho] at ho'
    cases ho'
    exact absurd hstub hc
  | unmatched ho' hb ht hc hm => exact absurd hb (not_runs_callee_some ho hstub ho')
  | unmapped ho' hb ht hc hm hp hk hw he hq => exact absurd hb (not_runs_callee_some ho hstub ho')
  | submitted x ho' hb ht hc hm hw hq => exact absurd hb (not_runs_callee_some ho hstub ho')

theorem quiet_of_not_execute {task : Task} {r : Except OperationError task.Result}
    (ht : ∀ name, task ≠ .execute name) (hr : Runs task.engine s t r s') : t.Quiet := by
  cases task with
  | load key kind required => exact quiet_of_follows_reading (load_follows_reading _ _ _) hr
  | execute name => exact absurd rfl (ht name)
  | call name given => exact quiet_of_follows_reading (call_follows _ _) hr
  | status => exact quiet_of_follows_reading status_follows hr

/-- Carrying out an operation is all or nothing, a stub is nothing, and no other task submits a
transaction. -/
theorem execute_all_or_nothing :
    (∀ name s t r s', Runs (execute name) s t r s' ↔ Execution name s t r s') ∧
    (∀ name s t r s' o, s.spec.functions.find? name = some o → o.target = .stub →
      Runs (execute name) s t r s' → t = [] ∧ r = .ok (.unsupported o.userMessage) ∧ s' = s) ∧
    ∀ task s t r s', (∀ name, task ≠ .execute name) → Runs (Task.engine task) s t r s' →
      t.Quiet := by
  refine ⟨?_, ?_, ?_⟩
  . intro name s t r s'
    constructor
    . exact execution_of_runs_execute
    . exact runs_execute_of_execution
  . intro name s t r s' o ho hstub hr
    exact execution_of_stub ho hstub (execution_of_runs_execute hr)
  . intro task s t r s' ht hr
    exact quiet_of_not_execute ht hr

def registering : Specification where
  name := "s"
  contractAddress := "0x00000000000000000000000000000000000000a1"
  abi := "primary"
  functions := .ofList [("register", { callee := "r", parameters := ["const:7"] })]

/-- The transaction is submitted after the contract has been bound and the parameter loaded. -/
theorem execute_all_or_nothing_registering :
    ∃ t r s', Execution "register" (start registering {}) t r s' ∧
      t.map Event.isSubmission = [false, false, false, true] := by
  let answer := compliant (fun _ => methodDocument "r" ["uint256"] []) []
  have hr := runs_transcript answer (execute "register") (start registering {})
  refine ⟨_, _, _, (execute_all_or_nothing.1 _ _ _ _ _).1 hr, ?_⟩
  decide +kernel

end Session

end Registrar
