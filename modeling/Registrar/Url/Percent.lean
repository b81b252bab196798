import Registrar.Hex
import Registrar.Text.Cut

/-!
This module contains the escaping of bytes as a percent sign and two digits, and the characters that
have to be escaped in the parts of a URL.
-/

namespace Registrar.Percent

def digit (n : Nat) : Char :=
  (Hex.digit n).toUpper

def escape (b : UInt8) : List Char :=
  ['%', digit (b.toNat / 16), digit (b.toNat % 16)]

def encode (set : Char → Bool) (s : List Char) : List Char :=
  s.flatMap fun c => if set c then (String.utf8EncodeChar c).flatMap escape else [c]

def decode : Bytes → Bytes
  | 0x25 :: a :: b :: r =>
    match Hex.digitValue? a, Hex.digitValue? b with
    | some x, some y => UInt8.ofNat (16 * x + y) :: decode r
    | _, _ => 0x25 :: decode (a :: b :: r)
  | b :: r => b :: decode r
  | [] => []

def control (c : Char) : Bool :=
  c.toNat < 0x20 || c.toNat > 0x7e

def fragment (c : Char) : Bool :=
  control c || " \"<>`".toList.contains c

def path (c : Char) : Bool :=
  fragment c || c = '#' || c = '?' || c = '\x7b' || c = '\x7d'

def userinfo (c : Char) : Bool :=
  path c || "/:;=@[\\]^|".toList.contains c

def query (c : Char) : Bool :=
  control c || " \"#<>".toList.contains c

def specialQuery (c : Char) : Bool :=
  query c || c = '\''

end Registrar.Percent
