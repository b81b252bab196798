import Registrar.Value

/-!
This module contains the keys of an operator and what a signer does with them.
-/

namespace Registrar

inductive KeyScheme where
  | ecdsa
  | bls
deriving Repr, DecidableEq, Inhabited

def KeyScheme.name : KeyScheme → String
  | .ecdsa => "ecdsa"
  | .bls => "bls"

def KeyScheme.ofName? (name : String) : Option KeyScheme :=
  if name = "ecdsa" then some .ecdsa else if name = "bls" then some .bls else none

inductive KeyStorage where
  /-- In an encrypted file on the local disk. -/
  | keystore
deriving Repr, DecidableEq, Inhabited

def KeyStorage.name : KeyStorage → String
  | .keystore => "keystore"

def KeyStorage.ofName? (name : String) : Option KeyStorage :=
  if name = "local" ∨ name = "keystore" then some .keystore else none

structure KeyDescriptor where
  scheme : KeyScheme
  storage : KeyStorage
  file : String
  password : String
deriving Repr, DecidableEq, Inhabited

inductive PublicKey where
  | ecdsa (address : Address)
  | bls (g1 : G1Point) (g2 : G2Point)
deriving Repr, DecidableEq, Inhabited

/-- What is signed: a hash of 32 bytes, or a message already mapped to a curve point. -/
inductive SigningDigest where
  | hash (digest : Bytes)
  | point (p : G1Point)
deriving Repr, DecidableEq, Inhabited

inductive Signature where
  | ecdsa (b : Bytes)
  | bls (p : G1Point)
deriving Repr, DecidableEq, Inhabited

inductive SignerError where
  | unsupportedSource (name : String)
  | unsupportedScheme (scheme : KeyScheme)
  | keyLoad (path : String) (reason : String)
  | invalidDigest (scheme : KeyScheme)
  | signing (reason : String)
deriving Repr, DecidableEq

def SignerError.message : SignerError → String
  | .unsupportedSource name => "Unsupported key source type " ++ name
  | .unsupportedScheme scheme => scheme.name ++ " keys are not supported by this signer"
  | .keyLoad path reason => "Failed to load key " ++ path ++ ": " ++ reason
  | .invalidDigest scheme => "Digest is not valid for " ++ scheme.name ++ " signing"
  | .signing reason => "Signing failed: " ++ reason

end Registrar
