import Registrar.Proofs.Conduct.Load
import Registrar.Session.Operation

/-!
This module contains the proof that the operations of a service consist of moves, and runs of a
session: whatever is loaded and carried out in it, in any order, with every task being begun in the
session that the one before it left, whether that failed or not.
-/

namespace Registrar

theorem Operation.splitCallee?_of_target {o : Operation} {delegate method : String}
    (ho : o.target = .delegate delegate method) :
    splitCallee? o.callee = some (delegate, method) := by
  unfold target at ho
  split at ho
  . cases ho
  . split at ho
    . next hs =>
      cases ho
      exact hs
    . cases ho

namespace Session

open Engine

variable {l : Permit} {h : Trace} {s s' : Session} {t : Trace}

/-- To bind any contract, but not to submit transactions. -/
def Licence.reading : Licence where
  binds _ := True
  submits := False

def Licence.all : Licence where
  binds _ := True
  submits := True

theorem Licence.le_all (l : Licence) : l.Le all where
  binds _ _ := trivial
  submits _ := trivial

def Permit.reading : Permit where
  toLicence := .reading
  remembers _ := True

def Permit.all : Permit where
  toLicence := .all
  remembers _ := True

theorem Permit.le_all (l : Permit) : l.Le all where
  toLe := l.toLicence.le_all
  remembers _ _ := trivial

theorem Permit.ofKey_le_reading (key : String) : (ofKey key).Le reading where
  binds _ _ := trivial
  submits h := h
  remembers _ _ := trivial

theorem load_follows_reading (key : String) (kind : Option Kind) (required : Bool) :
    Follows .reading (load key kind required) := by
  apply (load_follows key kind required).mono
  apply Permit.ofKey_le_reading

/-- What an operation calls is bound in the end. -/
theorem callee_moves {o : Operation} {given : Option (List String)}
    {r : Except OperationError (Option Callee)} (hr : Runs (callee o given) s t r s') :
    Moves .reading h s t s' ∧
      ∀ x, r = .ok x → ∀ c, x = some c → s'.bound? c.role = some c.contract := by
  unfold callee at hr
  split at hr
  . obtain ⟨rfl, rfl, rfl⟩ := runs_pure_iff.1 hr
    constructor
    . exact .refl
    . intro x hx c hc
      cases hx
      cases hc
  . next method ho =>
    apply moves_bind_ok _ _ hr
    . intro t r s₁ hc
      exact (bindPrimary_moves trivial hc).1
    . intro contract s₁ t₁ t₂ hc hpure
      obtain ⟨-, hbound⟩ := bindPrimary_moves (l := .reading) (h := h) trivial hc
      obtain ⟨rfl, rfl, rfl⟩ := runs_pure_iff.1 hpure
      constructor
      . exact .refl
      . intro x hx c hc
        cases hx
        cases hc
        exact hbound contract rfl
  . next delegate method ho =>
    obtain ⟨-, hdelegate⟩ := Operation.splitCallee?_eq_some (Operation.splitCallee?_of_target ho)
    have hdelegateMoves {h : Trace} {s : Session} {r : Except OperationError Contract} {t : Trace}
        {s' : Session}
        (hr : Runs (bindDelegate delegate (load (getterKey delegate) (some .address) true))
          s t r s') :
        Moves .reading h s t s' ∧ ∀ c, r = .ok c →
          s'.bound? (.delegate delegate) = some c := by
      apply bindDelegate_moves trivial (load_follows _ _ _) (Permit.ofKey_le_reading _)
        (not_binds_getterKey hdelegate) _ hr
      intro s t v s' hv
      exact loaded_mem_of_runs_load hv
    apply moves_bind_ok _ _ hr
    . intro t r s₁ hprimary
      exact (bindPrimary_moves trivial hprimary).1
    . intro primary s₁ t₁ t₂ hprimary hrest
      apply moves_bind_ok _ _ hrest
      . intro t r s₂ hc
        exact (hdelegateMoves hc).1
      . intro contract s₂ t₃ t₄ hc hpure
        obtain ⟨-, hbound⟩ := hdelegateMoves (h := h) hc
        rw [runs_get_bind_iff] at hpure
        obtain ⟨rfl, rfl, rfl⟩ := runs_pure_iff.1 hpure
        constructor
        . exact .refl
        . intro x hx c hc
          cases hx
          cases hc
          exact hbound contract rfl

theorem operation_follows (name : String) : Follows l (operation name) := by
  intro h s t r s' hr
  unfold operation at hr
  rw [runs_get_bind_iff] at hr
  split at hr
  . obtain ⟨rfl, -, rfl⟩ := runs_pure_iff.1 hr
    exact .refl
  . obtain ⟨rfl, -, rfl⟩ := runs_throw_iff.1 hr
    exact .refl

theorem follows_callee_bind {α : Type} {o : Operation} {given : Option (List String)}
    {f : Option Callee → Engine α} (hl : Permit.reading.Le l) (hnone : Follows l (f none))
    (hsome : ∀ c h s t r s', s.bound? c.role = some c.contract → Runs (f (some c)) s t r s' →
      Moves l h s t s') :
    Follows l (callee o given >>= f) := by
  intro h s t r s' hr
  apply moves_bind _ _ hr
  . intro t r s₁ hc
    exact (callee_moves hc).1.mono hl
  . intro c s₁ t₁ t₂ hc hrest
    cases c with
    | none => exact hnone _ _ _ _ _ hrest
    | some c => exact hsome c _ _ _ _ _ ((callee_moves (h := h) hc).2 _ rfl c rfl) hrest

theorem execute_follows (name : String) : Follows .all (execute name) := by
  unfold execute
  apply follows_bind
  . apply operation_follows
  . intro o
    apply follows_callee_bind (Permit.le_all _)
    . apply follows_pure
    . intro c h s t r s' hb hr
      dsimp only at hr
      cases hm : c.contract.method c.method (some c.parameters.length) with
      | error e =>
        rw [hm] at hr
        obtain ⟨rfl, -, rfl⟩ := runs_throw_bind_iff.1 hr
        exact .refl
      | ok m =>
        rw [hm] at hr
        have hr := runs_pure_bind_iff.1 hr
        have hdata : Follows .all (calldata loadParameter m c.parameters) := by
          apply calldata_follows
          intro key kind
          apply (load_follows_reading key kind true).mono
          apply Permit.le_all
        apply moves_bind _ _ hr
        . intro t r s₁ hd
          exact hdata _ _ _ _ _ hd
        . intro data s₁ t₁ t₂ hd hsubmit
          have hsteps : Steps .all h s t₁ s₁ := hdata.steps hd
          -- the submission is the only step that takes the licence to submit
          obtain ⟨x, t', rfl, hx⟩ := runs_askAbout_bind_iff.1 hsubmit
          have hsubmitted : Moves .all (h ++ t₁) s₁ [⟨.request (some c.role) (.submit _), x⟩] s₁ :=
            Moves.step (.submitted c.role c.contract _ x (hsteps.bound?_eq_some hb) rfl trivial) nofun
          apply hsubmitted.trans
          have hrest : Follows .all (do
              let outcome ← Engine.ofExcept .transaction x
              return Outcome.completed outcome) := by
            apply follows_bind
            . apply follows_ofExcept
            . intro outcome
              apply follows_pure
          exact hrest _ _ _ _ _ hx

theorem call_follows (name : String) (given : Option (List String)) :
    Follows .reading (call name given) := by
  unfold call
  apply follows_bind
  . apply operation_follows
  . intro o
    apply follows_callee_bind ⟨⟨fun _ => id, id⟩, fun _ => id⟩
    . apply follows_pure
    . intro c h s t r s' hb hr
      have hload (key : String) (kind : Option Kind) : Follows .reading (loadParameter key kind) :=
        load_follows_reading key kind true
      have hrest (v : Value) : Follows .reading (do
          let v ← applyTransform c.transform v
          return Outcome.completed v) := by
        apply follows_bind
        . apply applyTransform_follows
        . intro v
          apply follows_pure
      apply moves_bind _ _ hr
      . intro t r s₁ hv
        exact (readMethod_moves hload hb hv).1
      . intro v s₁ t₁ t₂ hv hpure
        exact hrest v _ _ _ _ _ hpure

theorem status_follows : Follows .reading status := by
  unfold status
  apply follows_bind
  . apply call_follows
  . intro outcome
    split
    . apply follows_pure
    . apply follows_bind
      . apply follows_ofExcept
      . intro i
        apply follows_pure

inductive Task where
  | load (key : String) (kind : Option Kind) (required : Bool)
  | execute (operation : String)
  | call (operation : String) (given : Option (List String))
  | status

namespace Task

/-- What comes of a task that succeeds. -/
def Result : Task → Type
  | load _ _ _ => Value
  | execute _ => Outcome TransactionOutcome
  | call _ _ => Outcome Value
  | status => Outcome Int

def engine : (task : Task) → Engine task.Result
  | load key kind required => Session.load key kind required
  | execute name => Session.execute name
  | call name given => Session.call name given
  | status => Session.status

theorem engine_follows (task : Task) : Follows .all task.engine := by
  cases task with
  | load key kind required => exact (load_follows_reading key kind required).mono (Permit.le_all _)
  | execute name => exact execute_follows name
  | call name given => exact (call_follows name given).mono (Permit.le_all _)
  | status => exact status_follows.mono (Permit.le_all _)

end Task

/-- From the session `s` on, the tasks can be done one after the other, with `t` being put to the
outside. -/
inductive Run (s : Session) : List Task → Trace → Session → Prop where
  | nil : Run s [] [] s
  | snoc {tasks : List Task} {t u : Trace} {s₁ s₂ : Session} {task : Task}
      {r : Except OperationError task.Result} (hr : Run s tasks t s₁)
      (hu : Runs task.engine s₁ u r s₂) : Run s (tasks ++ [task]) (t ++ u) s₂

theorem Run.moves {tasks : List Task} (hr : Run s tasks t s') : Moves .all [] s t s' := by
  induction hr with
  | nil => exact .refl
  | snoc _ hu ih =>
    apply ih.trans
    exact Task.engine_follows _ _ _ _ _ _ hu

theorem Run.steps {tasks : List Task} (hr : Run s tasks t s') : Steps .all [] s t s' :=
  hr.moves.steps

theorem run_transcript (answer : (q : Query) → q.Reply) (s : Session) (task : Task) :
    Run s [task] (transcript answer task.engine s).1 (transcript answer task.engine s).2.2 := by
  exact Run.nil.snoc (runs_transcript answer task.engine s)

/-- The document of an interface with one method of the given name and types. -/
def methodDocument (name : String) (inputs outputs : List String) : String :=
  let params (types : List String) : String :=
    "[" ++ ",".intercalate (types.map fun t => "\x7b\"type\":\"" ++ t ++ "\"\x7d") ++ "]"
  "[\x7b\"type\":\"function\",\"name\":\"" ++ name ++ "\",\"inputs\":" ++ params inputs ++
    ",\"outputs\":" ++ params outputs ++ "\x7d]"

/-- The document of a service of the given name with the members of its functions and the items of its
delegates. -/
def serviceDocument (name functions delegates : String) : String :=
  "\x7b\"name\":\"" ++ name ++ "\",\"abi\":\"primary\"," ++
    "\"contractAddress\":\"0x00000000000000000000000000000000000000a1\"," ++
    "\"functions\":\x7b" ++ functions ++ "\x7d,\"delegates\":[" ++ delegates ++ "]\x7d"

/-- A partner who has the given resources, finds code everywhere, and answers every read with the
same bytes. -/
def compliant (resource : String → String) (output : Bytes) : (q : Query) → q.Reply
  | .request _ (.resource _ name) => .ok (resource name)
  | .request _ (.setting _) => none
  | .request _ (.prompt _ _ _) => .ok ""
  | .request _ .chainId => .ok 1
  | .request _ .blockTimestamp => .ok 1000
  | .request _ (.hasCode _) => .ok true
  | .request _ (.call _ _) => .ok output
  | .request _ (.submit t) => .error (.unsigned t.method)
  | .request _ (.publicKey _) => .ok (.ecdsa ⟨0⟩)
  | .request _ (.sign _ _) => .ok (.ecdsa [])
  | .request _ .clock => (0 : UInt64)
  | .remark _ => ()

end Session

end Registrar
