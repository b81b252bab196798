import Registrar.Builtin.Arguments

/-!
This module contains the built-in functions that use the keys of the operator. Signing loads salt
and expiry before the digest, so that the digest can refer to both, and gives a record of the
signature with the salt and the expiry it was made for.
-/

namespace Registrar.Builtin

def zeroG1 : G1Point := ⟨0, 0⟩

def zeroG2 : G2Point := ⟨(0, 0), (0, 0)⟩

def keyStorage (b : Builtin) (args : Arguments) : Engine KeyStorage := do
  match ← b.optionalText args "type" with
  | none => return .keystore
  | some name =>
    match KeyStorage.ofName? name with
    | some storage => return storage
    | none => b.invalid "type" name

def keyDescriptor (b : Builtin) (args : Arguments) (scheme : KeyScheme) :
    Engine KeyDescriptor := do
  let storage ← b.keyStorage args
  let file ← b.requiredText args "file"
  let password ← b.optionalText args "password"
  return { scheme, storage, file, password := password.getD "" }

def foreignKey {α : Type} (scheme : KeyScheme) : Engine α :=
  throw (.signer (.signing ("signer returned a public key that is not " ++ scheme.name)))

def foreignSignature {α : Type} (scheme : KeyScheme) : Engine α :=
  throw (.signer (.signing ("signer returned a signature that is not " ++ scheme.name)))

def ecdsaKey (key : KeyDescriptor) : Engine Address := do
  let answer ← Engine.ask (.publicKey key)
  match ← Engine.ofExcept .signer answer with
  | .ecdsa address => return address
  | .bls _ _ => foreignKey .ecdsa

def blsKey (key : KeyDescriptor) : Engine (G1Point × G2Point) := do
  let answer ← Engine.ask (.publicKey key)
  match ← Engine.ofExcept .signer answer with
  | .bls g1 g2 => return (g1, g2)
  | .ecdsa _ => foreignKey .bls

def ecdsaSignature (key : KeyDescriptor) (digest : SigningDigest) : Engine Bytes := do
  let answer ← Engine.ask (.sign key digest)
  match ← Engine.ofExcept .signer answer with
  | .ecdsa b => return b
  | .bls _ => foreignSignature .ecdsa

def blsSignature (key : KeyDescriptor) (digest : SigningDigest) : Engine G1Point := do
  let answer ← Engine.ask (.sign key digest)
  match ← Engine.ofExcept .signer answer with
  | .bls p => return p
  | .ecdsa _ => foreignSignature .bls

def runEcdsaPublicKey (args : Arguments) : Engine Value := do
  let key ← keyDescriptor .ecdsaPublicKey args .ecdsa
  let format ← optionalText .ecdsaPublicKey args "format"
  let address ← ecdsaKey key
  match format.getD "address" with
  | "address" => return .address address
  | "hex" => return .string address.text
  | "bytes" => return .bytes address.bytes
  | other => invalid .ecdsaPublicKey "format" ("unknown ecdsa key format " ++ other)

def runBlsPublicKey (args : Arguments) : Engine Value := do
  let key ← keyDescriptor .blsPublicKey args .bls
  let format ← optionalText .blsPublicKey args "format"
  let (g1, g2) ← blsKey key
  match format.getD "g1" with
  | "g1" => return .g1 g1
  | "g2" => return .g2 g2
  | "bytes" => return .bytes g1.bytes
  | other => invalid .blsPublicKey "format" ("unknown bls key format " ++ other)

structure Validity where
  salt : Option Value
  expiry : Option Value

/-- Load the salt, and then the expiry. -/
def validity (args : Arguments) : Engine Validity := do
  let salt ← optional args "salt" none
  let expiry ← optional args "expiry" (some (.uint 256))
  return { salt, expiry }

def signatureRecord (signature : Value) (v : Validity) : Record :=
  ("signature", signature) ::
    ((v.salt.map fun salt => ("salt", salt)).toList ++
      (v.expiry.map fun expiry => ("expiry", expiry)).toList)

/-- What an ECDSA key signs of a value: 32 bytes. -/
def ecdsaDigest (v : Value) : Except OperationError SigningDigest :=
  (v.toDigest.map .hash).mapError .ofConversion

/-- What a BLS key signs of a value: a point, or 32 bytes. -/
def blsDigest (b : Builtin) : Value → Except OperationError SigningDigest
  | .g1 p => .ok (.point p)
  | .record fields =>
    match Assoc.find? "X" fields, Assoc.find? "Y" fields with
    | some (.uint x), some (.uint y) => .ok (.point ⟨x, y⟩)
    | _, _ => .error (.key (.parameterType b.name "digest" "a G1 point or a 32-byte hash"))
  | v => (v.toDigest.map .hash).mapError .ofConversion

/-- The digest to be signed, which is taken from a value by `take`. -/
def digest (b : Builtin) (args : Arguments) (take : Value → Except OperationError SigningDigest) :
    Engine SigningDigest := do
  let v ← b.required args "digest" none
  Engine.ofExcept id (take v)

def runEcdsaSign (args : Arguments) : Engine Value := do
  let v ← validity args
  let digest ← digest .ecdsaSign args ecdsaDigest
  let key ← keyDescriptor .ecdsaSign args .ecdsa
  let signature ← ecdsaSignature key digest
  return .record (signatureRecord (.bytes signature) v)

/-- Sign with a BLS key; the signature is given as bytes. -/
def runBlsSign (args : Arguments) : Engine Value := do
  let v ← validity args
  let digest ← digest .blsSign args (blsDigest .blsSign)
  let key ← keyDescriptor .blsSign args .bls
  let signature ← blsSignature key digest
  return .record (signatureRecord (.bytes signature.bytes) v)

/-- Sign with a BLS key; the signature is given as a point, together with the public key. -/
def runBlsCurveSign (args : Arguments) : Engine Value := do
  let v ← validity args
  let digest ← digest .blsCurveSign args (blsDigest .blsCurveSign)
  let key ← keyDescriptor .blsCurveSign args .bls
  let signature ← blsSignature key digest
  let (g1, g2) ← blsKey key
  return .record (signatureRecord (.g1 signature) v ++ [("pubkeyG1", .g1 g1), ("pubkeyG2", .g2 g2)])

end Registrar.Builtin
