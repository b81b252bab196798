import Registrar.Chain
import Registrar.Power
import Registrar.Rpc.Reading

/-!
This module contains what a node is asked for while a session reads from the chain.
-/

namespace Registrar.Rpc

def chainId : Exchange Nat := do
  expect "a quantity" (quantity? (2 ^ 64) (← ask .chainId))

/-- The latest block, if there is one. -/
def latestBlock : Exchange (Option Block) := do
  match ← ask .latestBlock with
  | .null => return none
  | j => return some (← expect "a block" (block? j))

def code (address : Address) : Exchange Bytes := do
  expect "a byte string" (bytes? (← ask (.code address)))

def call (target : Address) (calldata : Bytes) : Exchange Bytes := do
  expect "a byte string" (bytes? (← ask (.call { target, calldata })))

namespace Client

def chainId : Interaction Request Reply (Except ChainError UInt64) := do
  let id ← Rpc.chainId
  return (id.map UInt64.ofNat).mapError fun f => .rpc f.message

def timestamp : Interaction Request Reply (Except ChainError UInt64) := do
  let block ← latestBlock
  match block with
  | .error f => return .error (.rpc f.message)
  | .ok none => return .error .missingBlock
  | .ok (some b) => return .ok (UInt64.ofNat b.timestamp)

def hasCode (address : Address) : Interaction Request Reply (Except ChainError Bool) := do
  let code ← Rpc.code address
  return (code.map fun b => !b.isEmpty).mapError fun f => .rpc f.message

def call (target : Address) (calldata : Bytes) :
    Interaction Request Reply (Except ChainError Bytes) := do
  let output ← Rpc.call target calldata
  return output.mapError fun f => .call target f.message

end Client

end Registrar.Rpc
