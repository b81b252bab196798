import Registrar.Crypto.Secp256k1
import Registrar.Rlp
import Registrar.Transaction

/-!
This module contains the envelopes in which transactions are sent: the fields that a transaction is
completed with, its signature, and the hash that identifies it.
-/

namespace Registrar

/-- A transaction with everything that is signed. It transfers nothing and has no access list. -/
structure FilledTransaction where
  chainId : Nat
  nonce : Nat
  /-- The most that is paid to the producer of the block, for each unit of gas. -/
  priorityFee : Nat
  /-- The most that is paid in all, for each unit of gas. -/
  maxFee : Nat
  gasLimit : Nat
  target : Address
  calldata : Bytes
deriving Repr, DecidableEq, Inhabited

namespace FilledTransaction

def sort : UInt8 := 0x02

def fields (t : FilledTransaction) : List Rlp :=
  [.ofNat t.chainId, .ofNat t.nonce, .ofNat t.priorityFee, .ofNat t.maxFee, .ofNat t.gasLimit,
   .bytes t.target.bytes, .ofNat 0, .bytes t.calldata, .list []]

def digest (t : FilledTransaction) : Bytes :=
  Keccak.hash (sort :: (Rlp.list t.fields).encode)

def envelope (t : FilledTransaction) (key : Secp256k1.SecretKey) : Bytes :=
  let s := Secp256k1.sign key t.digest
  sort :: (Rlp.list (t.fields ++
    [.ofNat (if s.isOdd then 1 else 0), .ofNat s.r, .ofNat s.s])).encode

end FilledTransaction

def envelopeHash (envelope : Bytes) : Bytes :=
  Keccak.hash envelope

end Registrar
