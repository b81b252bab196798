import Registrar.Crypto.Keccak
import Registrar.Hex
import Registrar.Text.Blank

/-!
This module contains the addresses of accounts and contracts and their text: forty hexadecimal
digits whose letters are upper-case where a hash of the digits says so.
-/

namespace Registrar

structure Address where
  value : BitVec 160
deriving Repr, DecidableEq, Inhabited

namespace Address

def bytes (a : Address) : Bytes :=
  Bytes.ofNat 20 a.value.toNat

def ofBytes (b : Bytes) : Address :=
  ⟨BitVec.ofNat 160 (Bytes.toNat b)⟩

def word (a : Address) : Word :=
  a.value.setWidth 256

def ofWord (w : Word) : Address :=
  ⟨w.setWidth 160⟩

/-- Turn the letters among `digits` to upper case where the corresponding nibble of the hash is
eight or more. -/
def checksum : (digits : List Char) → (nibbles : List Nat) → List Char
  | c :: cs, n :: ns => (if n ≥ 8 then c.toUpper else c) :: checksum cs ns
  | cs, _ => cs

def text (a : Address) : String :=
  let digits := Hex.digits a.bytes
  let nibbles := (Keccak.hash (Bytes.ofText digits)).flatMap fun b =>
    [b.toNat / 16, b.toNat % 16]
  String.ofList ('0' :: 'x' :: checksum digits nibbles)

/-- Read an address, with blanks around it and digits of either case. -/
def read (text : List Char) : Except Hex.Fault Address :=
  (Hex.decodeExact 20 (Bytes.ofText (Text.trim text))).map ofBytes

end Address

end Registrar
