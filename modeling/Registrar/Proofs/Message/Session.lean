import Registrar.Proofs.Execution
import Registrar.Proofs.Failure
import Registrar.Proofs.Message.Builtin

/-!
This module contains which failures show nothing to a user. As long as something is shown of every
error that a partner gives, a task that fails shows something, unless the error that is met first
ends with a text of the document, of an expression or of a value that leaves nothing to show.
-/

namespace Registrar.Session

open Engine Builtin
open OperationError (candid_of_not_mute)

variable {α : Type}

theorem candid_address {text : String} {fault : SpecError} (h : parseAddress text = .error fault) :
    (OperationError.spec fault).Candid := by
  unfold parseAddress at h
  apply of_mapError_eq_error _ h
  intro f _
  exact candid_of_not_mute (not_mute_append (not_mute_append f.not_mute _) _) id

theorem interface_candid (resource : String) : (interface resource).Candid := by
  unfold interface
  apply candid_get_bind
  intro s
  split
  . apply candid_pure
  . apply candid_get_bind
    intro s
    apply candid_answer (fun _ => rfl)
    . intro e he
      exact candid_of_not_mute (not_mute_append he _) id
    . intro text
      apply candid_bind
      . apply candid_ofExcept
        intro fault hfault
        exact candid_of_not_mute (not_mute_append (Interface.not_mute_of_read hfault) _) id
      . intro i
        apply candid_bind
        . apply candid_modify
        . intro _
          apply candid_pure

theorem bind_candid (role : Role) (name : String) (a : Address) (i : Interface) :
    (bind role name a i).Candid := by
  unfold bind
  apply candid_answer (fun _ => rfl)
  . intro e he
    exact candid_of_not_mute (not_mute_append he _) id
  . intro hasCode
    split
    . apply candid_pure
    . apply candid_throw
      exact candid_of_not_mute (not_mute_append (by decide) _) id

theorem establish_candid (role : Role) (name abi : String) (a : Address)
    (enter : Contract → Session → Session) :
    Candid (do
      let i ← interface abi
      let c ← bind role name a i
      modify (enter c)
      return c) := by
  apply candid_bind (interface_candid abi)
  intro i
  apply candid_bind (bind_candid role name a i)
  intro c
  apply candid_bind
  . apply candid_modify
  . intro _
    apply candid_pure

theorem bindPrimary_candid : bindPrimary.Candid := by
  unfold bindPrimary
  apply candid_get_bind
  intro s
  split
  . apply candid_pure
  . apply candid_get_bind
    intro s
    apply candid_bind
    . apply candid_ofExcept
      intro fault hfault
      exact candid_address hfault
    . intro address
      apply establish_candid

theorem delegateAddress_candid (d : Delegate) {getter : Engine Value} (hg : getter.Candid) :
    (delegateAddress d getter).Candid := by
  unfold delegateAddress
  split
  . apply candid_ofExcept
    intro fault hfault
    exact candid_address hfault
  . apply candid_bind hg
    intro v
    split
    . apply candid_pure
    . apply candid_throw
      exact ConversionError.candid_coercion (by decide) _

theorem bindDelegate_candid (name : String) {getter : Engine Value} (hg : getter.Candid) :
    (bindDelegate name getter).Candid := by
  unfold bindDelegate
  apply candid_get_bind
  intro s
  split
  . apply candid_pure
  . apply candid_get_bind
    intro s
    split
    . apply candid_throw
      exact candid_of_not_mute (not_mute_append (by decide) _) id
    . next d hd =>
      apply candid_bind
      . apply candid_within (delegateAddress_candid d hg)
        intro e he
        exact he.delegateResolution name
      . intro address
        apply establish_candid

section Arguments

variable {load : α → Option Kind → Engine Value}

theorem argument_candid (hl : ∀ a kind, (load a kind).Candid) (p : Param) (a : α) :
    (argument load p a).Candid := by
  unfold argument
  split
  . apply candid_throw
    exact candid_of_not_mute (not_mute_append (by decide) _) id
  . apply candid_bind
    . apply hl
    . intro v
      apply candid_ofExcept
      exact Value.candid_of_encodeAs _ _ v

theorem arguments_candid (hl : ∀ a kind, (load a kind).Candid) (method : String) (position : Nat)
    (ps : List Param) (as : List α) : (arguments load method position ps as).Candid := by
  induction ps generalizing position as with
  | nil =>
    unfold arguments
    apply candid_pure
  | cons p ps ih =>
    cases as with
    | nil =>
      unfold arguments
      apply candid_pure
    | cons a as =>
      unfold arguments
      apply candid_bind
      . apply candid_within (argument_candid hl p a)
        intro e he
        exact he.parameterMapping method position
      . intro v
        apply candid_bind
        . apply ih
        . intro vs
          apply candid_pure

theorem candid_parameterCount (method : String) (expected actual : Nat) :
    (OperationError.parameterCount method expected actual).Candid :=
  candid_of_not_mute (not_mute_append (Decimal.not_mute actual) _) id

theorem calldata_candid (hl : ∀ a kind, (load a kind).Candid) (m : Method) (as : List α) :
    (calldata load m as).Candid := by
  unfold calldata
  split
  . apply candid_bind
    . exact arguments_candid hl _ _ _ _
    . intro values
      apply candid_pure
  . apply candid_throw
    apply candid_parameterCount

theorem candid_of_method {c : Contract} {name : String} {arity : Option Nat} {e : OperationError}
    (he : c.method name arity = .error e) : e.Candid := by
  unfold Contract.method at he
  split at he
  . cases he
    exact mute_append_of_not_mute (not_mute_append (by decide) _)
  . split at he
    . cases he
    . split at he
      . cases he
      . cases he
        apply candid_parameterCount

theorem candid_of_firstOutput {m : Method} {output : Bytes} {e : OperationError}
    (he : firstOutput m output = .error e) : e.Candid := by
  unfold firstOutput at he
  split at he
  . cases he
    exact candid_of_not_mute (not_mute_append (by decide) _) id
  . split at he
    . cases he
      exact candid_of_not_mute (not_mute_append (by decide) _) id
    . cases he
      exact candid_of_not_mute (not_mute_append (by decide) _) id
    . cases he

theorem readMethod_candid (hl : ∀ a kind, (load a kind).Candid) (role : Role) (c : Contract)
    (name : String) (as : List α) : (readMethod load role c name as).Candid := by
  unfold readMethod
  apply candid_bind
  . apply candid_ofExcept
    intro e
    exact candid_of_method
  . intro m
    apply candid_bind
    . exact calldata_candid hl m as
    . intro data
      apply candid_answer (fun _ => rfl) candid_chain
      intro output
      apply candid_ofExcept
      intro e
      exact candid_of_firstOutput

end Arguments

section Load

variable {bound : Nat} {load : Loader bound} {payload : String}

theorem resolveCall_candid (hl : ∀ k hk kind required, (load k hk kind required).Candid)
    (h : KeySource.call.marker.length + payload.length ≤ bound) :
    (resolveCall load payload h).Candid := by
  unfold resolveCall
  dsimp only
  split
  . apply candid_bind
    . apply bindDelegate_candid
      apply hl
    . intro c
      apply readMethod_candid
      intro a kind
      apply hl
  . apply candid_bind bindPrimary_candid
    intro c
    apply readMethod_candid
    intro a kind
    apply hl

theorem candid_of_read {e : ResolutionError} (h : BuiltinCall.read payload = .error e) :
    (OperationError.key e).Candid := by
  have henter {made : List (String × String)} {texts : List String}
      (h : BuiltinCall.enter made texts = .error e) : (OperationError.key e).Candid := by
    induction texts generalizing made with
    | nil => cases h
    | cons text texts ih =>
      unfold BuiltinCall.enter at h
      split at h
      . cases h
        apply OperationError.candid_malformedFunctionParameter
      . exact ih h
  rw [BuiltinCall.read] at h
  split at h
  . cases h
    apply OperationError.candid_invalidFunction
  . cases hp : BuiltinCall.enter [] (Invocation.read payload).arguments with
    | ok parameters =>
      rw [hp] at h
      cases h
    | error e' =>
      rw [hp] at h
      cases h
      exact henter hp

theorem resolveBuiltin_candid (hl : ∀ k hk kind required, (load k hk kind required).Candid)
    (h : payload.length ≤ bound) : (resolveBuiltin load payload h).Candid := by
  unfold resolveBuiltin
  split
  . next e he =>
    apply candid_throw
    exact candid_of_read he
  . next c hc =>
    apply run_candid
    intro name f hf kind required
    dsimp only at hf
    split at hf
    . cases hf
    . cases hf
      apply hl

theorem prompt_candid (key : String) (required hidden : Bool) :
    (prompt key required hidden).Candid := by
  unfold prompt
  apply candid_answer (fun _ => rfl)
  . intro e he
    exact candid_of_not_mute (not_mute_append he _) id
  . intro text
    apply candid_pure

theorem setting_candid (name : String) (required : Bool) : (setting name required).Candid := by
  unfold setting
  apply candid_put_bind
  intro answer _
  split
  . apply candid_pure
  . apply prompt_candid

theorem resolveSource_candid (hl : ∀ k hk kind required, (load k hk kind required).Candid)
    {e : KeyExpression} (h : e.source.marker.length + e.payload.length ≤ bound) (required : Bool) :
    (resolveSource load e h required).Candid := by
  unfold resolveSource
  split
  . exact resolveCall_candid hl _
  . apply setting_candid
  . apply candid_pure
  . exact resolveBuiltin_candid hl _
  . apply prompt_candid
  . apply candid_throw
    apply OperationError.candid_invalidKeyFormat

theorem applyTransform_candid (transform : Option String) (v : Value) :
    (applyTransform transform v).Candid := by
  unfold applyTransform
  split
  . apply candid_pure
  . apply candid_ofExcept
    intro e _
    apply OperationError.candid_ofTransform

theorem resolve_candid {key : String} {load : Loader key.length}
    (hl : ∀ k hk kind required, (load k hk kind required).Candid) (required : Bool) :
    (resolve key load required).Candid := by
  unfold resolve
  split
  . apply candid_throw
    apply OperationError.candid_invalidKeyFormat
  . next e he =>
    apply candid_bind
    . exact resolveSource_candid hl _ _
    . intro v
      apply candid_bind (applyTransform_candid _ _)
      intro v
      apply candid_bind
      . unfold remember
        split
        . apply candid_modify
        . apply candid_pure
      . intro _
        apply candid_pure

theorem finish_candid (key : String) (kind : Option Kind) (required : Bool) (v : Value) :
    (finish key kind required v).Candid := by
  unfold finish
  split
  . split
    . apply candid_throw
      exact (OperationError.candid_requiredValueMissing key).resolution key
    . apply candid_pure
  . split
    . apply candid_pure
    . apply candid_ofExcept
      intro e he
      exact (OperationError.candid_ofConversion (Value.candid_of_convert he)).resolution key

theorem loadBy_candid {key : String} {load : Loader key.length}
    (hl : ∀ k hk kind required, (load k hk kind required).Candid) (kind : Option Kind)
    (required : Bool) : (loadBy key load kind required).Candid := by
  unfold loadBy
  apply candid_bind
  . unfold fetch
    apply candid_get_bind
    intro s
    split
    . apply candid_pure
    . apply candid_within (resolve_candid hl required)
      intro e he
      exact he.resolution key
  . intro v
    apply candid_bind (finish_candid key kind required v)
    intro v
    apply candid_put_bind
    intro _ _
    apply candid_pure

theorem loadWithin_candid {bound : Nat} {key : String} (h : key.length < bound)
    (kind : Option Kind) (required : Bool) : (loadWithin bound key h kind required).Candid := by
  induction bound generalizing key kind required with
  | zero => exact absurd h (Nat.not_lt_zero _)
  | succ bound ih =>
    unfold loadWithin
    apply loadBy_candid
    intro k hk kind required
    apply ih

theorem load_candid (key : String) (kind : Option Kind) (required : Bool) :
    (Session.load key kind required).Candid := by
  unfold Session.load
  apply loadWithin_candid

end Load

theorem operation_candid (name : String) : (operation name).Candid := by
  unfold operation
  apply candid_get_bind
  intro s
  split
  . apply candid_pure
  . apply candid_throw
    exact candid_of_not_mute (not_mute_append (by decide) _) id

theorem callee_candid (o : Operation) (given : Option (List String)) : (callee o given).Candid := by
  unfold callee
  split
  . apply candid_pure
  . apply candid_bind bindPrimary_candid
    intro c
    apply candid_pure
  . apply candid_bind bindPrimary_candid
    intro _
    apply candid_bind
    . apply bindDelegate_candid
      apply load_candid
    . intro c
      apply candid_get_bind
      intro s
      apply candid_pure

theorem loadParameter_candid (key : String) (kind : Option Kind) :
    (loadParameter key kind).Candid := by
  unfold loadParameter
  apply load_candid

theorem execute_candid (name : String) : (execute name).Candid := by
  unfold execute
  apply candid_bind (operation_candid name)
  intro o
  apply candid_bind (callee_candid o none)
  intro c
  split
  . apply candid_pure
  . apply candid_bind
    . apply candid_ofExcept
      intro e
      exact candid_of_method
    . intro m
      apply candid_bind (calldata_candid loadParameter_candid m _)
      intro data
      apply candid_answer (fun _ => rfl)
      . intro e he
        exact candid_of_not_mute (not_mute_append he _) id
      . intro outcome
        apply candid_pure

theorem call_candid (name : String) (given : Option (List String)) : (call name given).Candid := by
  unfold call
  apply candid_bind (operation_candid name)
  intro o
  apply candid_bind (callee_candid o given)
  intro c
  split
  . apply candid_pure
  . apply candid_bind (readMethod_candid loadParameter_candid _ _ _ _)
    intro v
    apply candid_bind (applyTransform_candid _ _)
    intro v
    apply candid_pure

theorem status_candid : status.Candid := by
  unfold status
  apply candid_bind (call_candid _ _)
  intro outcome
  split
  . apply candid_pure
  . apply candid_bind
    . apply candid_ofExcept
      intro e he
      exact Value.candid_of_toInt64 he
    . intro i
      apply candid_pure

theorem Task.candid (task : Task) : task.engine.Candid := by
  cases task with
  | load key kind required => exact load_candid key kind required
  | execute name => exact execute_candid name
  | call name given => exact call_candid name given
  | status => exact status_candid

/-- Whatever is done in whatever session, as long as something is shown of every error that is
answered: nothing is shown of a failure exactly if the innermost error that it wraps ends with a
text of the document, of an expression or of a value, and this text is blank or ends in a colon. -/
theorem shows_nothing_iff_silent (task : Task) {s s' : Session} {t : Trace} {e : OperationError}
    (hr : Runs task.engine s t (.error e) s') (ht : ∀ m ∈ t.failureTexts, ¬ Mute m) :
    userFacingMessage e.message = "" ↔ e.Silent := by
  rw [userFacingMessage_eq_empty_iff]
  exact task.candid s t e s' hr ht

/-- A partner who does not find out where there is code. -/
def unreachable (reason : String) : (q : Query) → q.Reply
  | .request _ (.hasCode _) => .error (.rpc reason)
  | q => compliant delegatingResource [] q

/-- The reason that is given shows behind what it is wrapped into. -/
theorem shows_nothing_iff_silent_refused :
    ∃ t e s', Runs (execute "op") (start commissioning {}) t (.error e) s' ∧
      t.failureTexts = ["Ethereum RPC error: connection refused"] ∧ ¬ e.Silent ∧
      userFacingMessage e.message ≠ "" := by
  let answer := unreachable "connection refused"
  have hfailure : failure? (transcript answer (execute "op") (start commissioning {})).2.1 =
      some (.bind "s" ⟨0xa1⟩ (.chain (.rpc "connection refused"))) := by
    decide +kernel
  have htexts : (transcript answer (execute "op") (start commissioning {})).1.failureTexts =
      ["Ethereum RPC error: connection refused"] := by
    decide +kernel
  have hr := runs_of_failure?_eq_some hfailure
  refine ⟨_, _, _, hr, htexts, id, ?_⟩
  have hshown := shows_nothing_iff_silent (.execute "op") hr (by rw [htexts]; decide)
  exact mt hshown.1 id

/-- Nothing is shown where a value is required of an expression that only names its source, and
nothing where white space follows the colon at the end of a reason that is given. -/
theorem shows_nothing_valueless :
    (∃ e s', Runs (load "const:" none true) (start commissioning {}) [] (.error e) s' ∧
      userFacingMessage e.message = "") ∧
    ∃ t e s', Runs (execute "op") (start commissioning {}) t (.error e) s' ∧
      (∀ m ∈ t.failureTexts, ¬ Text.isBlankText m.toList ∧ m.toList.getLast? ≠ some ':') ∧
      userFacingMessage e.message = "" := by
  constructor
  . let answer := unreachable ""
    have hfailure : failure? (transcript answer (load "const:" none true)
        (start commissioning {})).2.1 =
          some (.resolution "const:" (.key (.requiredValueMissing "const:"))) := by
      decide +kernel
    have htrace :
        (transcript answer (load "const:" none true) (start commissioning {})).1 = [] := by
      apply List.isEmpty_iff.1
      decide +kernel
    have hr := runs_of_failure?_eq_some hfailure
    rw [htrace] at hr
    exact ⟨_, _, hr, by decide +kernel⟩
  . let answer := unreachable "timeout: "
    have hfailure : failure? (transcript answer (execute "op") (start commissioning {})).2.1 =
        some (.bind "s" ⟨0xa1⟩ (.chain (.rpc "timeout: "))) := by
      decide +kernel
    have htexts : (transcript answer (execute "op") (start commissioning {})).1.failureTexts =
        ["Ethereum RPC error: timeout: "] := by
      decide +kernel
    refine ⟨_, _, _, runs_of_failure?_eq_some hfailure, by rw [htexts]; decide, ?_⟩
    exact userFacingMessage_eq_empty_iff.2 (mute_wrapped.2 (by decide))

end Registrar.Session
