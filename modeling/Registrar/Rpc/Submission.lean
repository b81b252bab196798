import Registrar.Power
import Registrar.Rpc.Client
import Registrar.Transaction.Envelope

/-!
This module contains the submission of transactions: a transaction is completed with what the node
says about nonce, chain, gas and fees, signed, sent, and waited for until it is in a block.
-/

namespace Registrar.Rpc

def minPriorityFee : Nat := 1

/-- The middle one of ordered numbers, or the mean of the two in the middle. -/
def median (ordered : List Nat) : Nat :=
  let n := ordered.length
  if n % 2 = 1 then ordered.getD (n / 2) 0
  else (ordered.getD (n / 2 - 1) 0 + ordered.getD (n / 2) 0) / 2

/-- What is paid to the producer of a block, given the rewards in former blocks. -/
def priorityFee (rewards : List (List Nat)) : Nat :=
  let paid := (rewards.filterMap List.head?).filter (0 < ·)
  if paid.isEmpty then minPriorityFee else max (median (paid.mergeSort (· ≤ ·))) minPriorityFee

/-- The base fee of the latest block in a history, the last entry being that of the next one. -/
def FeeHistory.latestBaseFee (h : FeeHistory) : Option Nat :=
  (h.baseFees.reverse[1]?).filter (· ≠ 0)

def baseFee (h : FeeHistory) : Exchange Nat := do
  match h.latestBaseFee with
  | some fee => return fee
  | none =>
    match ← latestBlock with
    | none => throw .null
    | some b =>
      match b.baseFee with
      | some fee => return fee
      | none => throw (.unsupported "eip1559")

def complete (sender : Address) (t : Transaction) : Exchange FilledTransaction := do
  let c : CallRequest := { sender := some sender, target := t.target, calldata := t.calldata }
  let nonce ← expect "a quantity" (quantity? (2 ^ 64) (← ask (.transactionCount sender)))
  let chainId ← chainId
  let gasLimit ← expect "a quantity" (quantity? (2 ^ 64) (← ask (.estimateGas c)))
  let history ← expect "a history of fees" (feeHistory? (← ask .feeHistory))
  let base ← baseFee history
  let priorityFee := priorityFee history.rewards
  return { chainId, nonce, priorityFee, maxFee := 2 * base + priorityFee, gasLimit, target := t.target,
           calldata := t.calldata }

/-- Ask for a receipt: whether the transaction succeeded, if it is in a block. -/
def receipt (hash : Bytes) : Exchange (Option Bool) := do
  match ← ask (.receipt hash) with
  | .null => return none
  | j => return some (← expect "a receipt" (receipt? j))

/-- Ask for a receipt up to `n` times. -/
def awaitReceipt (hash : Bytes) : (n : Nat) → Exchange Bool
  | 0 => throw (.transport "transaction was not confirmed within the timeout")
  | n + 1 => do
    match ← receipt hash with
    | some success => return success
    | none => awaitReceipt hash n

structure Submitter where
  /-- The key of the account that pays, if there is one. -/
  key : Option Secp256k1.SecretKey
  /-- Whether transactions are signed only. -/
  dryRun : Bool
  /-- How often a receipt is asked for. -/
  patience : Nat

namespace Submitter

/-- Send an envelope. Receipts are asked for under the hash that the node gives; what is reported is
the hash of the envelope. -/
def send (s : Submitter) (envelope : Bytes) :
    Interaction Request Reply (Except TransactionError TransactionOutcome) := do
  let hash := envelopeHash envelope
  let sent ← (do expect "a hash" (bytesOf? 32 (← ask (.sendTransaction envelope))) : Exchange Bytes)
  match sent with
  | .error f => return .error (.broadcast hash f.message)
  | .ok given =>
    -- a transaction counts as included once its receipt has been handed out twice
    let success ← (do let _ ← receipt given; awaitReceipt given s.patience : Exchange Bool)
    match success with
    | .error f => return .error (.receipt hash f.message)
    | .ok false => return .error (.reverted hash)
    | .ok true => return .ok { hash, included := true }

/-- Submit a transaction. Without a key nothing is asked; in a dry run nothing is sent. -/
def submit (s : Submitter) (t : Transaction) :
    Interaction Request Reply (Except TransactionError TransactionOutcome) := do
  match s.key with
  | none => return .error (.unsigned t.method)
  | some key =>
    let filled ← complete key.address t
    match filled with
    | .error f => return .error (.build t.method f.message)
    | .ok filled =>
      let envelope := filled.envelope key
      if s.dryRun then return .ok { hash := envelopeHash envelope, included := false }
      else s.send envelope

end Submitter

end Registrar.Rpc
