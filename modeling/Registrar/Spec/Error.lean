import Registrar.Decimal
import Registrar.Hex
import Registrar.Repository

/-!
This module contains the reasons why a specification is not accepted.
-/

namespace Registrar

inductive SpecError where
  | load (name : String) (reason : RepositoryError)
  | decode (name : String) (reason : String)
  | missingTarget (function : String)
  | ambiguousTarget (function : String)
  | parametersWithoutTarget (function : String)
  | invalidFunctionName (function : String) (name : String)
  | unknownDelegate (function : String) (delegate : String)
  | unnamedDelegate (position : Nat)
  | duplicateDelegate (name : String)
  | invalidAddress (address : String) (reason : Hex.Fault)
deriving Repr, DecidableEq

def SpecError.message : SpecError → String
  | .load name reason => "Failed to load specification " ++ name ++ ": " ++ reason.message
  | .decode name reason => "Failed to decode specification " ++ name ++ ": " ++ reason
  | .missingTarget function =>
    "Function " ++ function ++ " must declare either a contract function or a message"
  | .ambiguousTarget function =>
    "Function " ++ function ++ " declares a contract function and a message"
  | .parametersWithoutTarget function =>
    "Function " ++ function ++ " declares parameters without a contract function"
  | .invalidFunctionName function name =>
    "Function " ++ function ++ " has an invalid contract function name: " ++ name
  | .unknownDelegate function delegate =>
    "Function " ++ function ++ " targets unknown delegate " ++ delegate
  | .unnamedDelegate position =>
    "Delegate at position " ++ Decimal.text position ++ " has no name"
  | .duplicateDelegate name => "Delegate " ++ name ++ " is declared more than once"
  | .invalidAddress address reason =>
    "Invalid contract address " ++ address ++ ": " ++ reason.message

end Registrar
