import Registrar.Builtin.Arguments
import Registrar.Power

/-!
This module contains the built-in functions that give numbers: lists of bytes, the number of the
chain, the time until which a signature is valid, and salts. The latest salt and the latest time are
remembered under keys of their own, so that a digest can refer to them.
-/

namespace Registrar.Builtin

def lastSaltKey : String := "last:salt"

def lastExpiryKey : String := "last:expiry"

/-- The seconds that a signature is valid beyond the wanted time, for the way of the transaction
into a block. -/
def expiryMargin : Nat := 60

/-- The sum of a time and some seconds, or the last time there is. -/
def saturatingAdd (time seconds : Nat) : Nat :=
  min (time + seconds) (2 ^ 64 - 1)

/-- The time of expiry of a signature that is to be valid for `timeout` seconds. -/
def expiryTime (timestamp timeout : Nat) : Nat :=
  saturatingAdd (saturatingAdd timestamp timeout) expiryMargin

/-- Remember what a function has made as the latest of its kind. -/
def makeLatest (b : Builtin) (key : String) (v : Value) : Engine Value := do
  Engine.store key v
  Engine.say (.made b v)
  return v

/-- The numbers of a list, each converted to a byte. -/
def bytesOfList : List (List Char) → Except ConversionError (List Value)
  | [] => .ok []
  | item :: r => do
    let v ← (Value.string (String.ofList (Text.trim item))).convert (.uint 8)
    let vs ← bytesOfList r
    return v :: vs

/-- The items of a text with commas between them, as bytes. -/
def runArrayUint8 (args : Arguments) : Engine Value := do
  let list ← requiredText .arrayUint8 args "list"
  let items ← Engine.ofExcept .ofConversion (bytesOfList (Text.fields ',' list.toList))
  return .array items

def runChainId : Engine Value := do
  let answer ← Engine.ask .chainId
  let id ← Engine.ofExcept .chain answer
  return .uint (BitVec.ofNat 256 id.toNat)

/-- The time of expiry of a signature that is to be valid for `timeout` seconds from the latest block
on. -/
def expiryAfter (timeout : Nat) : Engine Value := do
  let answer ← Engine.ask .blockTimestamp
  let timestamp ← Engine.ofExcept .chain answer
  makeLatest .expiry lastExpiryKey (.uint (BitVec.ofNat 256 (expiryTime timestamp.toNat timeout)))

def runExpiry (args : Arguments) : Engine Value := do
  match ← required .expiry args "timeout" (some (.uint 64)) with
  | .uint timeout =>
    if timeout.toNat ≥ 2 ^ 64 then
      invalid .expiry "timeout" ReadFault.beyondUnsignedWord.message
    else expiryAfter timeout.toNat
  | _ => mismatch .expiry "timeout" "an unsigned integer"

/-- A salt: the hash of a seed and the time. -/
def saltOf (seed : Bytes) (time : UInt64) : Bytes :=
  Keccak.hash (seed ++ Bytes.ofNat 8 time.toNat)

def seed (args : Arguments) : Engine Bytes := do
  match ← optional args "seed" none with
  | some v => Engine.ofExcept .ofConversion v.toBytes
  | none => return []

/-- The salt of a seed at the present time. -/
def saltFrom (seed : Bytes) : Engine Value := do
  let time : UInt64 ← Engine.ask .clock
  makeLatest .salt lastSaltKey (.bytes (saltOf seed time))

def runSalt (args : Arguments) : Engine Value := do
  let seed ← seed args
  saltFrom seed

end Registrar.Builtin
