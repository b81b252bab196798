import Registrar.Builtin.Chain
import Registrar.Builtin.Keys
import Registrar.Session.Call

/-!
This module contains the loading of key expressions. An expression is resolved once and its value
remembered under the exact text of the expression; only functions are called anew each time.
Expressions inside an expression are shorter than it, and so is the one that gets the address of a
delegate, so that loading comes to an end.
-/

namespace Registrar

namespace Builtin

def run (b : Builtin) (args : Arguments) : Engine Value :=
  match b with
  | .arrayUint8 => runArrayUint8 args
  | .chainId => runChainId
  | .expiry => runExpiry args
  | .salt => runSalt args
  | .ecdsaPublicKey => runEcdsaPublicKey args
  | .blsPublicKey => runBlsPublicKey args
  | .ecdsaSign => runEcdsaSign args
  | .blsSign => runBlsSign args
  | .blsCurveSign => runBlsCurveSign args
  | .g1Zero => return .g1 zeroG1
  | .g2Zero => return .g2 zeroG2

end Builtin

namespace Session

/-- How expressions shorter than `bound` are loaded. -/
abbrev Loader (bound : Nat) :=
  (key : String) → key.length < bound → Option Kind → (required : Bool) → Engine Value

def prompt (key : String) (required hidden : Bool) : Engine Value := do
  let answer ← Engine.ask (.prompt key required hidden)
  let text ← Engine.ofExcept .config answer
  return .string text

/-- The value of a setting, or what the operator answers. -/
def setting (name : String) (required : Bool) : Engine Value := do
  let answer : Option Json ← Engine.ask (.setting name)
  match answer with
  | some j => return .ofJson j
  | none => prompt name required false

theorem length_getterKey {callee delegate method : String}
    (h : Operation.splitCallee? callee = some (delegate, method)) :
    (getterKey delegate).length < KeySource.call.marker.length + callee.length := by
  obtain ⟨⟨a, b⟩, hcut, heq⟩ := Option.map_eq_some_iff.1 h
  obtain ⟨rfl, -⟩ : String.ofList a = delegate ∧ String.ofList b = method := by simpa using heq
  have := Text.length_of_cut? hcut
  rw [getterKey, String.length_append, String.length_ofList, String.length_ofList,
    ← String.length_toList (s := callee)]
  omega

/-- Call the method that a payload names, on the primary contract or on a delegate. -/
def resolveCall {bound : Nat} (load : Loader bound) (payload : String)
    (h : KeySource.call.marker.length + payload.length ≤ bound) : Engine Value :=
  let i := Invocation.read payload
  let args := i.arguments.attach
  let loadArgument (a : { a // a ∈ i.arguments }) (kind : Option Kind) : Engine Value :=
    load a.1 (by have := Invocation.length_lt_of_mem_arguments a.2; omega) kind true
  match hs : Operation.splitCallee? i.callee with
  | some (delegate, method) => do
    let getter := load (getterKey delegate)
      (by
        have := length_getterKey hs
        have := Invocation.length_callee_le payload
        simp only [i] at *
        omega)
      (some .address) true
    let c ← bindDelegate delegate getter
    readMethod loadArgument (.delegate delegate) c method args
  | none => do
    let c ← bindPrimary
    readMethod loadArgument .primary c i.callee args

def resolveBuiltin {bound : Nat} (load : Loader bound) (payload : String)
    (h : payload.length ≤ bound) : Engine Value :=
  match hc : BuiltinCall.read payload with
  | .error e => throw (.key e)
  | .ok c =>
    c.builtin.run fun name =>
      match hp : c.parameter name with
      | none => none
      | some key =>
        some (load key (Nat.lt_of_lt_of_le (BuiltinCall.length_lt_of_parameter hc hp) h))

def resolveSource {bound : Nat} (load : Loader bound) (e : KeyExpression)
    (h : e.source.marker.length + e.payload.length ≤ bound) (required : Bool) : Engine Value :=
  match hs : e.source with
  | .call => resolveCall load e.payload (by rw [hs] at h; exact h)
  | .config => setting e.payload required
  | .const => return .string e.payload
  | .func => resolveBuiltin load e.payload (by omega)
  | .passwd => prompt e.payload required true
  | .bare => throw (.key (.invalidKeyFormat e.payload))

/-- Apply the transform of an expression, if it has one. -/
def applyTransform (transform : Option String) (v : Value) : Engine Value :=
  match transform with
  | none => return v
  | some t => Engine.ofExcept .ofTransform (Transform.apply t v)

/-- Remember the value of an expression, unless it calls a function. -/
def remember (key : String) (e : KeyExpression) (v : Value) : Engine Unit :=
  if e.isCacheable then Engine.memoize key v else return ()

def resolve (key : String) (load : Loader key.length) (required : Bool) : Engine Value :=
  match he : KeyExpression.read? key with
  | none => throw (.key (.invalidKeyFormat key))
  | some e => do
    let v ← resolveSource load e (KeyExpression.length_of_read? he) required
    let v ← applyTransform e.transform v
    remember key e v
    return v

/-- Convert what an expression resolved to, unless it is empty. -/
def finish (key : String) (kind : Option Kind) (required : Bool) (v : Value) : Engine Value :=
  if v.isEmpty then
    if required then throw (.resolution key (.key (.requiredValueMissing key))) else return v
  else
    match kind with
    | none => return v
    | some kind => Engine.ofExcept (fun e => .resolution key (.ofConversion e)) (v.convert kind)

/-- The value that is remembered for an expression, or else the one that it resolves to. -/
def fetch (key : String) (load : Loader key.length) (required : Bool) : Engine Value := do
  match (← get).cache.find? key with
  | some v => return v
  | none => Engine.within (.resolution key) (resolve key load required)

/-- Load an expression, whose parts are loaded by `load`. -/
def loadBy (key : String) (load : Loader key.length) (kind : Option Kind) (required : Bool) :
    Engine Value := do
  let v ← fetch key load required
  let v ← finish key kind required v
  Engine.say (.loaded key v)
  return v

def loadWithin : (bound : Nat) → Loader bound
  | 0, _, h => absurd h (Nat.not_lt_zero _)
  | bound + 1, key, h =>
    loadBy key fun k hk => loadWithin bound k (Nat.lt_of_lt_of_le hk (Nat.le_of_lt_succ h))

/-- The value of a key expression, converted to a kind. An empty value is not converted, and is an
error where one is required. -/
def load (key : String) (kind : Option Kind) (required : Bool) : Engine Value :=
  loadWithin (key.length + 1) key (Nat.lt_succ_self _) kind required

theorem loadWithin_eq_loadWithin {b₁ b₂ : Nat} {key : String} (h₁ : key.length < b₁)
    (h₂ : key.length < b₂) : loadWithin b₁ key h₁ = loadWithin b₂ key h₂ := by
  induction b₁ generalizing b₂ key with
  | zero => exact absurd h₁ (Nat.not_lt_zero _)
  | succ b₁ ih =>
    cases b₂ with
    | zero => exact absurd h₂ (Nat.not_lt_zero _)
    | succ b₂ =>
      rw [loadWithin, loadWithin]
      congr
      funext k hk
      apply ih

theorem load_eq_loadBy (key : String) : load key = loadBy key fun k _ => load k := by
  funext kind required
  unfold load
  rw [loadWithin]
  congr
  funext k hk
  apply loadWithin_eq_loadWithin

end Session

end Registrar
