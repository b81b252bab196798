import Registrar.Address
import Registrar.Hex

/-!
This module contains transactions, which call a method of a contract and change its state, and what
becomes of them.
-/

namespace Registrar

structure Transaction where
  target : Address
  /-- The signature of the method. -/
  method : String
  calldata : Bytes
deriving Repr, DecidableEq, Inhabited

structure TransactionOutcome where
  hash : Bytes
  /-- Whether the transaction was included in a block. In a dry run it is signed only. -/
  included : Bool
deriving Repr, DecidableEq, Inhabited

def TransactionOutcome.isDryRun (o : TransactionOutcome) : Bool :=
  !o.included

inductive TransactionError where
  | build (method : String) (reason : String)
  | unsigned (method : String)
  | broadcast (hash : Bytes) (reason : String)
  | receipt (hash : Bytes) (reason : String)
  | reverted (hash : Bytes)
deriving Repr, DecidableEq

def TransactionError.message : TransactionError → String
  | .build method reason => "Failed to build transaction for " ++ method ++ ": " ++ reason
  | .unsigned method => "No wallet configured to sign the transaction for " ++ method
  | .broadcast hash reason =>
    "Failed to broadcast transaction " ++ Hex.encodeMarked hash ++ ": " ++ reason
  | .receipt hash reason =>
    "Failed waiting for receipt of " ++ Hex.encodeMarked hash ++ ": " ++ reason
  | .reverted hash => "Transaction " ++ Hex.encodeMarked hash ++ " reverted"

end Registrar
