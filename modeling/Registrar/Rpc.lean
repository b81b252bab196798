import Registrar.Address
import Registrar.Hex
import Registrar.Interaction
import Registrar.Json.Basic

/-!
This module contains the requests to a node of the chain, and the ways in which they fail.
-/

namespace Registrar

namespace Rpc

/-- A call of a contract, as a node is asked to carry it out. -/
structure CallRequest where
  sender : Option Address := none
  target : Address
  calldata : Bytes
deriving Repr, DecidableEq

inductive Request where
  | chainId
  | latestBlock
  | code (address : Address)
  | call (c : CallRequest)
  | transactionCount (address : Address)
  | estimateGas (c : CallRequest)
  | feeHistory
  | sendTransaction (envelope : Bytes)
  | receipt (hash : Bytes)
deriving Repr, DecidableEq

inductive Failure where
  /-- The node answers with an error. -/
  | response (code : Int) (message : String)
  /-- The node answers with nothing where something is needed. -/
  | null
  | unsupported (feature : String)
  /-- The answer is not of the form that it has to have. -/
  | malformed (detail : String)
  /-- There is no answer. -/
  | transport (detail : String)
deriving Repr, DecidableEq

def Failure.message : Failure → String
  | .response code message =>
    "server returned an error response: error code " ++ Decimal.intText code ++ ": " ++ message
  | .null => "server returned a null response when a non-null response was expected"
  | .unsupported feature => "unsupported feature: " ++ feature
  | .malformed detail => "deserialization error: " ++ detail
  | .transport detail => detail

abbrev Reply (_ : Request) := Except Failure Json

abbrev Exchange := ExceptT Failure (Interaction Request Reply)

def ask (r : Request) : Exchange Json :=
  ExceptT.mk (Interaction.request r)

namespace Request

def method : Request → String
  | .chainId => "eth_chainId"
  | .latestBlock => "eth_getBlockByNumber"
  | .code _ => "eth_getCode"
  | .call _ => "eth_call"
  | .transactionCount _ => "eth_getTransactionCount"
  | .estimateGas _ => "eth_estimateGas"
  | .feeHistory => "eth_feeHistory"
  | .sendTransaction _ => "eth_sendRawTransaction"
  | .receipt _ => "eth_getTransactionReceipt"

def hex (b : Bytes) : Json :=
  .string (Hex.encodeMarked b)

def ofCall (c : CallRequest) : Json :=
  .object ((c.sender.map fun a => ("from", hex a.bytes)).toList ++
    [("to", hex c.target.bytes), ("input", hex c.calldata)])

/-- The number of blocks that fees are estimated from, and the share of the transactions that pay
less than the wanted reward. -/
def feeParameters : List Json :=
  [.string "0xa", .string "latest", .array [.number (.unsigned 20)]]

def parameters : Request → List Json
  | .chainId => []
  | .latestBlock => [.string "latest", .bool false]
  | .code address => [hex address.bytes, .string "latest"]
  | .call c => [ofCall c, .string "latest"]
  | .transactionCount address => [hex address.bytes, .string "pending"]
  | .estimateGas c => [ofCall c]
  | .feeHistory => feeParameters
  | .sendTransaction envelope => [hex envelope]
  | .receipt hash => [hex hash]

def toJson (r : Request) : Json :=
  .object
    [("jsonrpc", .string "2.0"), ("id", .number (.unsigned 0)), ("method", .string r.method),
     ("params", .array r.parameters)]

end Request

def errorCode (j : Json) : Int :=
  match j with
  | .number (.unsigned n) => n.toNat
  | .number (.negative i) => i.toInt
  | _ => 0

def replyOf (j : Json) : Except Failure Json :=
  match j.member? "error" with
  | some (.object members) =>
    let code := ((Assoc.find? "code" members).map errorCode).getD 0
    let message := ((Assoc.find? "message" members) >>= Json.asString?).getD ""
    .error (.response code message)
  | _ =>
    match j.member? "result" with
    | some result => .ok result
    | none => .error (.malformed "the document is no answer")

end Rpc

end Registrar
