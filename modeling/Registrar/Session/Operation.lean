import Registrar.Session.Load

/-!
This module contains the operations of a service. An operation that calls nothing is no failure: it
ends with its message.
-/

namespace Registrar

inductive Outcome (α : Type) where
  /-- Nothing is called; the message says why. -/
  | unsupported (message : String)
  | completed (result : α)
deriving Repr, BEq

inductive StandardOperation where
  | register
  | optIn
  | optOut
  | deregister
  | status
deriving Repr, DecidableEq, Inhabited

def StandardOperation.name : StandardOperation → String
  | .register => "register"
  | .optIn => "opt-in"
  | .optOut => "opt-out"
  | .deregister => "deregister"
  | .status => "status"

namespace Session

/-- What an operation calls, with the contract bound. -/
structure Callee where
  role : Role
  contract : Contract
  method : String
  parameters : List String
  transform : Option String

def loadParameter (key : String) (kind : Option Kind) : Engine Value :=
  load key kind true

def operation (name : String) : Engine Operation := do
  match (← get).spec.functions.find? name with
  | some o => return o
  | none => throw (.notSupported name)

/-- Bind what an operation calls. The arguments may be given; for a method of a delegate, the
delegate's own declaration of the method goes before the operation's. -/
def callee (o : Operation) (given : Option (List String)) : Engine (Option Callee) := do
  match o.target with
  | .stub => return none
  | .direct method =>
    let contract ← bindPrimary
    return some
      { role := .primary, contract, method
        parameters := given.getD o.parameters
        transform := none }
  | .delegate delegate method =>
    let _ ← bindPrimary
    let contract ← bindDelegate delegate (load (getterKey delegate) (some .address) true)
    let declared := ((← get).spec.delegate? delegate).bind fun d => d.function? method
    let declared := declared.getD o
    return some
      { role := .delegate delegate, contract, method
        parameters := given.getD declared.parameters
        transform := declared.transform?.or o.transform? }

def execute (name : String) : Engine (Outcome TransactionOutcome) := do
  let o ← operation name
  match ← callee o none with
  | none => return .unsupported o.userMessage
  | some c =>
    let m ← Engine.ofExcept id (c.contract.method c.method (some c.parameters.length))
    let data ← calldata loadParameter m c.parameters
    let answer ← Engine.askAbout c.role
      (.submit { target := c.contract.address, method := m.signature, calldata := data })
    let outcome ← Engine.ofExcept .transaction answer
    return .completed outcome

def call (name : String) (given : Option (List String)) : Engine (Outcome Value) := do
  let o ← operation name
  match ← callee o given with
  | none => return .unsupported o.userMessage
  | some c =>
    let v ← readMethod loadParameter c.role c.contract c.method c.parameters
    let v ← applyTransform c.transform v
    return .completed v

def executeStandard (o : StandardOperation) : Engine (Outcome TransactionOutcome) :=
  execute o.name

/-- The status of the operator, as a number. -/
def status : Engine (Outcome Int) := do
  match ← call StandardOperation.status.name none with
  | .unsupported message => return .unsupported message
  | .completed v =>
    let i ← Engine.ofExcept .ofConversion v.toInt64
    return .completed i

end Session

end Registrar
