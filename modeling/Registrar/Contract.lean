import Registrar.Abi.Interface
import Registrar.Error

/-!
This module contains contracts: interfaces bound to addresses at which code is deployed.
-/

namespace Registrar

structure Contract where
  name : String
  address : Address
  interface : Interface
deriving Repr, BEq, Inhabited

namespace Contract

/-- The method of the given name; of several, the first with the given number of inputs if one is
asked for. -/
def method (c : Contract) (name : String) (arity : Option Nat) : Except OperationError Method :=
  match c.interface.overloads name with
  | [] => .error (.methodNotFound c.name name)
  | first :: others =>
    match arity with
    | none => .ok first
    | some n =>
      match (first :: others).find? fun m => m.inputs.length = n with
      | some m => .ok m
      | none => .error (.parameterCount first.signature first.inputs.length n)

end Contract

end Registrar
