import Registrar.Address
import Registrar.SortedMap
import Registrar.Spec.Error
import Registrar.Text.Cut

/-!
This module contains specifications. A specification describes the contracts of a service: the
primary contract, its delegates, and what the operations of the service call on them.
-/

namespace Registrar

/-- What an operation calls, or the message it shows instead. -/
structure Operation where
  /-- A method of the primary contract, `delegate.method`, or nothing. -/
  callee : String := ""
  /-- The key expressions of the arguments. -/
  parameters : List String := []
  message : String := ""
  /-- Applied to what a delegate's method returns. -/
  transform : String := ""
deriving Repr, DecidableEq, Inhabited

structure Delegate where
  name : String
  /-- The resource with its interface. -/
  abi : String
  /-- If there is none, a method of the primary contract with the name of the delegate returns
  it. -/
  contractAddress : Option String := none
  functions : List Operation := []
deriving Repr, DecidableEq, Inhabited

structure Specification where
  name : String
  description : String := ""
  network : String := ""
  contractAddress : String
  coordinatorKind : String := ""
  remoteSigning : Bool := false
  /-- The resource with the interface of the primary contract. -/
  abi : String
  functions : SortedMap Operation := {}
  delegates : List Delegate := []
deriving DecidableEq, Inhabited

inductive Target where
  /-- Nothing; the operation shows its message. -/
  | stub
  | direct (method : String)
  | delegate (delegate : String) (method : String)
deriving Repr, DecidableEq, Inhabited

namespace Operation

def splitCallee? (callee : String) : Option (String × String) :=
  (Text.cut? '.' callee.toList).map fun (a, b) => (String.ofList a, String.ofList b)

def target (o : Operation) : Target :=
  if o.callee.isEmpty then .stub
  else
    match splitCallee? o.callee with
    | some (delegate, method) => .delegate delegate method
    | none => .direct o.callee

def defaultMessage : String := "not supported"

def userMessage (o : Operation) : String :=
  if o.message.isEmpty then defaultMessage else o.message

/-- The transform of an operation, if it has one that is not blank. -/
def transform? (o : Operation) : Option String :=
  let t := Text.trim o.transform.toList
  if t.isEmpty then none else some (String.ofList t)

end Operation

def Delegate.function? (d : Delegate) (method : String) : Option Operation :=
  d.functions.find? fun o => o.callee = method

def parseAddress (text : String) : Except SpecError Address :=
  (Address.read text.toList).mapError (.invalidAddress text)

namespace Specification

def delegate? (s : Specification) (name : String) : Option Delegate :=
  s.delegates.find? fun d => d.name = name

def address (s : Specification) : Except SpecError Address :=
  parseAddress s.contractAddress

end Specification

end Registrar
