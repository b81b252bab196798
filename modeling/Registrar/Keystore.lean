import Registrar.Crypto.Aes
import Registrar.Crypto.KeyDerivation
import Registrar.Crypto.Secp256k1
import Registrar.Files
import Registrar.Json.Members
import Registrar.Json.Reader
import Registrar.Power
import Registrar.Signing

/-!
This module contains encrypted key files. A file holds a secret key encrypted with a key that is
derived from a password, and a hash by which a wrong password is noticed. With such a file a signer
makes ECDSA signatures.
-/

namespace Registrar

inductive KeyDerivation where
  | pbkdf2 (count length : Nat) (salt : Bytes)
  | scrypt (n r p length : Nat) (salt : Bytes)
deriving Repr, DecidableEq

structure Keystore where
  iv : Bytes
  ciphertext : Bytes
  derivation : KeyDerivation
  mac : Bytes
deriving Repr, DecidableEq

inductive KeystoreFault where
  | file (fault : FileFault)
  | malformed (detail : String)
  | derivation
  | mac
  | key
deriving Repr, DecidableEq

def KeystoreFault.message : KeystoreFault → String
  | .file fault => "IO error: " ++ fault.message
  | .malformed detail => detail
  | .derivation => "Invalid parameters for the derivation of the key"
  | .mac => "Mac Mismatch"
  | .key => "signature error"

namespace Keystore

open Json

def hexBytes? (j : Json) : Option Bytes := do
  let s ← j.asString?
  match Hex.decodePairs 0 (Bytes.ofString s) with
  | .ok b => some b
  | .error _ => none

/-- Whether a text is an identifier: 32 digits in one group, or in five groups, which a marker may
stand before. -/
def isIdentifier (text : String) : Bool :=
  let marked := Text.stripStart? "urn:uuid:".toList text.toList
  let groups := Text.fields '-' (marked.getD text.toList)
  let lengths := groups.map List.length
  let isDigit (c : Char) : Bool :=
    c.isDigit || ('a' ≤ c && c ≤ 'f') || ('A' ≤ c && c ≤ 'F')
  (lengths = [8, 4, 4, 4, 12] || (lengths = [32] && marked.isNone)) &&
    groups.all fun g => g.all isDigit

/-- Read the parameters of a derivation, of one kind or the other. -/
def derivation? (j : Json) : Option KeyDerivation :=
  let pbkdf2 : Option KeyDerivation := do
    match ← members? ["c", "dklen", "prf", "salt"] j with
    | [count, length, prf, salt] =>
      let count ← required (below? (2 ^ 32)) count
      let length ← required (below? 256) length
      let _ ← required Json.asString? prf
      let salt ← required hexBytes? salt
      return .pbkdf2 count length salt
    | _ => none
  let scrypt : Option KeyDerivation := do
    match ← members? ["dklen", "n", "p", "r", "salt"] j with
    | [length, n, p, r, salt] =>
      let length ← required (below? 256) length
      let n ← required (below? (2 ^ 32)) n
      let p ← required (below? (2 ^ 32)) p
      let r ← required (below? (2 ^ 32)) r
      let salt ← required hexBytes? salt
      return .scrypt n r p length salt
    | _ => none
  pbkdf2.or scrypt

def iv? (j : Json) : Option Bytes := do
  match ← members? ["iv"] j with
  | [iv] => required hexBytes? iv
  | _ => none

def ofCrypto? (j : Json) : Option Keystore := do
  match ← members? ["cipher", "cipherparams", "ciphertext", "kdf", "kdfparams", "mac"] j with
  | [cipher, parameters, ciphertext, kdf, derivation, mac] =>
    let _ ← required Json.asString? cipher
    let iv ← required iv? parameters
    let ciphertext ← required hexBytes? ciphertext
    let kdf ← required (choice? (· == .null)) kdf
    if kdf ≠ "pbkdf2" ∧ kdf ≠ "scrypt" then none
    let derivation ← required derivation? derivation
    let mac ← required hexBytes? mac
    return { iv, ciphertext, derivation, mac }
  | _ => none

def ofJson? (j : Json) : Option Keystore := do
  match ← members? ["crypto", "id", "version"] j with
  | [crypto, id, version] =>
    let keystore ← required ofCrypto? crypto
    let id ← required Json.asString? id
    if !isIdentifier id then none
    let _ ← required (below? 256) version
    return keystore
  | _ => none

/-- The key that a password gives, if the parameters are within the limits. -/
def derive? (d : KeyDerivation) (password : Bytes) : Option Bytes :=
  match d with
  | .pbkdf2 count length salt => some (Pbkdf2.derive password salt count length)
  | .scrypt n r p length salt =>
    if Scrypt.isValid n.log2 r p && 0 < length then
      some (Scrypt.derive password salt n.log2 r p length)
    else none

def decrypt (k : Keystore) (password : String) : Except KeystoreFault Bytes :=
  match derive? k.derivation (Bytes.ofString password) with
  | none => .error .derivation
  | some key =>
    if Keccak.hash ((key.drop 16).take 16 ++ k.ciphertext) = k.mac then
      .ok (Aes.applyCounter (key.take 16) (k.iv.take 16) k.ciphertext)
    else .error .mac

def unlock (content : Except FileFault String) (password : String) :
    Except KeystoreFault Secp256k1.SecretKey := do
  let text ← content.mapError .file
  let j ← (Json.read text).mapError fun fault => .malformed fault.message
  match ofJson? j with
  | none => throw (.malformed "the document does not describe an encrypted key")
  | some keystore =>
    let secret ← keystore.decrypt password
    match Secp256k1.SecretKey.ofBytes? secret with
    | some key => return key
    | none => throw .key

end Keystore

namespace KeyDescriptor

/-- The secret key that a descriptor names, if the content of its file is as given. Only ECDSA keys
are kept in files. -/
def unlock (d : KeyDescriptor) (content : Except FileFault String) :
    Except SignerError Secp256k1.SecretKey :=
  if d.scheme ≠ .ecdsa then .error (.unsupportedScheme d.scheme)
  else (Keystore.unlock content d.password).mapError fun fault => .keyLoad d.file fault.message

def publicKey (d : KeyDescriptor) (content : Except FileFault String) :
    Except SignerError PublicKey :=
  (d.unlock content).map fun key => .ecdsa key.address

/-- Sign a digest, which has to be a hash. -/
def sign (d : KeyDescriptor) (content : Except FileFault String) (digest : SigningDigest) :
    Except SignerError Signature := do
  let key ← d.unlock content
  match digest with
  | .hash h => return .ecdsa (Secp256k1.sign key h).bytes
  | .point _ => throw (.invalidDigest .ecdsa)

end KeyDescriptor

end Registrar
