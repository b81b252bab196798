import Registrar.Address

/-!
This module contains the failures of the chain a session is connected to.
-/

namespace Registrar

inductive ChainError where
  | rpc (reason : String)
  | call (target : Address) (reason : String)
  | missingBlock
deriving Repr, DecidableEq

def ChainError.message : ChainError → String
  | .rpc reason => "Ethereum RPC error: " ++ reason
  | .call target reason => "Read call to " ++ target.text ++ " failed: " ++ reason
  | .missingBlock => "Latest block is unavailable"

end Registrar
