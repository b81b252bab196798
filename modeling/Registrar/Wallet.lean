import Registrar.World

/-!
This module contains the wallet, the key of the account that pays for transactions: it is given in
digits, or kept in an encrypted file with a password.
-/

namespace Registrar

inductive WalletError where
  | digits (fault : Hex.Fault)
  /-- The number is zero or not below the order of the curve. -/
  | range
  | password (reason : String)
  | keystore (path : String) (fault : KeystoreFault)
deriving Repr, DecidableEq

def WalletError.message : WalletError → String
  | .digits fault => "Invalid private key: " ++ fault.message
  | .range => "Invalid private key: signature error"
  | .password reason => reason
  | .keystore path fault => "Failed to decrypt keystore " ++ path ++ ": " ++ fault.message

namespace Wallet

def ofDigits (text : String) : Except WalletError Secp256k1.SecretKey := do
  let b ← (Hex.decodeExact 32 (Bytes.ofString text)).mapError .digits
  match Secp256k1.SecretKey.ofBytes? b with
  | some key => return key
  | none => throw .range

/-- The key in a file. The operator is asked for the password if none is known. -/
def ofKeystore (path : String) (password : Option String) :
    World (Except WalletError Secp256k1.SecretKey) := do
  let password ←
    match password with
    | some password => pure (Except.ok password)
    | none => World.ask (.question "Keystore password" true)
  match password with
  | .error reason => return .error (.password reason)
  | .ok password =>
    let content ← World.ask (.file path)
    return (Keystore.unlock content password).mapError (.keystore path)

end Wallet

end Registrar
