import Registrar.Power
import Registrar.Rpc

/-!
This module contains the reading of what nodes answer: quantities, byte strings, blocks, receipts
and histories of fees.
-/

namespace Registrar.Rpc

def radixOf : List Char → Nat × List Char
  | '0' :: 'x' :: r => (16, r)
  | '0' :: 'X' :: r => (16, r)
  | '0' :: 'o' :: r => (8, r)
  | '0' :: 'O' :: r => (8, r)
  | '0' :: 'b' :: r => (2, r)
  | '0' :: 'B' :: r => (2, r)
  | s => (10, s)

def digit? (c : Char) : Option Nat :=
  if c.toNat < 128 then Hex.digitValue? (UInt8.ofNat c.toNat) else none

/-- Read digits below `bound` behind a number; underscores may stand among them. -/
def readDigits (radix bound : Nat) (n : Nat) : List Char → Option Nat
  | [] => some n
  | c :: r =>
    if c = '_' then readDigits radix bound n r
    else
      match (digit? c).filter (· < radix) with
      | none => none
      | some d =>
        let m := radix * n + d
        if m < bound then readDigits radix bound m r else none

def quantity? (bound : Nat) : Json → Option Nat
  | .number (.unsigned n) => if n.toNat < bound then some n.toNat else none
  | .string s =>
    let (radix, digits) := radixOf s.toList
    readDigits radix bound 0 digits
  | _ => none

def byte? (j : Json) : Option UInt8 :=
  (j.asNat?.filter (· < 256)).map UInt8.ofNat

def bytes? : Json → Option Bytes
  | .string s => (Hex.decode (Bytes.ofString s)).toOption
  | .array items => items.mapM byte?
  | _ => none

def bytesOf? (n : Nat) (j : Json) : Option Bytes :=
  (bytes? j).filter fun b => b.length = n

def expect {α : Type} (what : String) : Option α → Exchange α
  | some a => return a
  | none => throw (.malformed ("expected " ++ what))

def member? {α : Type} (name : String) (read : Json → Option α) (j : Json) : Option α :=
  j.member? name >>= read

def optional? {α : Type} (name : String) (read : Json → Option α) (j : Json) :
    Option (Option α) :=
  match j.member? name with
  | none => some none
  | some .null => some none
  | some m => (read m).map some

/-- A block, as far as it matters here. -/
structure Block where
  timestamp : Nat
  baseFee : Option Nat
deriving Repr, DecidableEq, Inhabited

def blockStrings : List (String × Nat) :=
  [("hash", 32), ("parentHash", 32), ("sha3Uncles", 32), ("miner", 20), ("stateRoot", 32),
   ("transactionsRoot", 32), ("receiptsRoot", 32), ("logsBloom", 256)]

def block? (j : Json) : Option Block := do
  if !(blockStrings.all fun (name, n) => (member? name (bytesOf? n) j).isSome) then none
  let _ ← member? "difficulty" (quantity? (2 ^ 256)) j
  let _ ← member? "number" (quantity? (2 ^ 64)) j
  let _ ← member? "gasLimit" (quantity? (2 ^ 64)) j
  let _ ← member? "gasUsed" (quantity? (2 ^ 64)) j
  let _ ← member? "extraData" bytes? j
  let timestamp ← member? "timestamp" (quantity? (2 ^ 64)) j
  let baseFee ← optional? "baseFeePerGas" (quantity? (2 ^ 64)) j
  return { timestamp, baseFee }

/-- A history of fees, as far as it matters here. -/
structure FeeHistory where
  baseFees : List Nat
  rewards : List (List Nat)
deriving Repr, DecidableEq, Inhabited

def amounts? (j : Json) : Option (List Nat) :=
  j.asArray? >>= List.mapM (quantity? (2 ^ 128))

def isNumber : Json → Bool
  | .number _ => true
  | _ => false

def feeHistory? (j : Json) : Option FeeHistory := do
  let _ ← member? "oldestBlock" (quantity? (2 ^ 64)) j
  let ratios ← optional? "gasUsedRatio" Json.asArray? j
  if !((ratios.getD []).all isNumber) then none
  let baseFees ← if (j.member? "baseFeePerGas").isNone then some [] else member? "baseFeePerGas" amounts? j
  let rewards ← optional? "reward" (fun r => r.asArray? >>= List.mapM amounts?) j
  return { baseFees, rewards := rewards.getD [] }

def receiptSorts : List String :=
  ["0x0", "0x00", "0x1", "0x01", "0x2", "0x02", "0x3", "0x03", "0x4", "0x04"]

/-- Read a receipt: whether the transaction succeeded. -/
def receipt? (j : Json) : Option Bool := do
  let sort ← member? "type" Json.asString? j
  if !receiptSorts.contains sort then none
  let _ ← member? "transactionHash" (bytesOf? 32) j
  let _ ← member? "from" (bytesOf? 20) j
  let _ ← member? "gasUsed" (quantity? (2 ^ 64)) j
  let _ ← member? "cumulativeGasUsed" (quantity? (2 ^ 64)) j
  let _ ← member? "effectiveGasPrice" (quantity? (2 ^ 128)) j
  let _ ← member? "logsBloom" (bytesOf? 256) j
  let _ ← member? "logs" Json.asArray? j
  let status ← member? "status" (quantity? 2) j
  return status = 1

end Registrar.Rpc
