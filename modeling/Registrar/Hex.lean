import Registrar.Bytes

/-!
This module contains the hexadecimal notation of byte strings. Writing uses lower-case digits;
reading accepts digits of either case behind an optional marker, and works on the UTF-8 form of the
text, so that a fault names one byte of it.
-/

namespace Registrar.Hex

def digit (n : Nat) : Char :=
  if n < 10 then Char.ofNat ('0'.toNat + n) else Char.ofNat ('a'.toNat + (n - 10))

def isPrintable (c : Char) : Bool :=
  (0x20 ≤ c.toNat && c.toNat ≤ 0x7e) || (0xa1 ≤ c.toNat && c.toNat ≠ 0xad)

def shown (c : Char) : List Char :=
  if c = '\x00' then ['\\', '0']
  else if c = '\t' then ['\\', 't']
  else if c = '\n' then ['\\', 'n']
  else if c = '\r' then ['\\', 'r']
  else if c = '\'' || c = '\\' then ['\\', c]
  else if isPrintable c then [c]
  else
    let number :=
      if c.toNat < 16 then [digit c.toNat] else [digit (c.toNat / 16), digit (c.toNat % 16)]
    ['\\', 'u', '\x7b'] ++ number ++ ['\x7d']

inductive Fault where
  | oddLength
  | wrongLength
  /-- The first byte that is no digit, shown as the character with its number, and the number of
  digits before it. -/
  | badCharacter (c : Char) (position : Nat)
deriving Repr, DecidableEq

def Fault.message : Fault → String
  | .oddLength => "odd number of digits"
  | .wrongLength => "invalid string length"
  | .badCharacter c position =>
    "invalid character '" ++ String.ofList (shown c) ++ "' at position " ++ toString position

def digitValue? (b : UInt8) : Option Nat :=
  let n := b.toNat
  if 0x30 ≤ n ∧ n ≤ 0x39 then some (n - 0x30)
  else if 0x61 ≤ n ∧ n ≤ 0x66 then some (n - 0x61 + 10)
  else if 0x41 ≤ n ∧ n ≤ 0x46 then some (n - 0x41 + 10)
  else none

def valueOf? (c : Char) : Option Nat :=
  if c.toNat < 128 then digitValue? (UInt8.ofNat c.toNat) else none

def digits (b : Bytes) : List Char :=
  b.flatMap fun x => [digit (x.toNat / 16), digit (x.toNat % 16)]

def encode (b : Bytes) : String :=
  String.ofList (digits b)

def encodeMarked (b : Bytes) : String :=
  String.ofList ('0' :: 'x' :: digits b)

/-- Drop the marker `0x` or `0X` in front of a text. -/
def dropMarker : Bytes → Bytes
  | 0x30 :: 0x78 :: r => r
  | 0x30 :: 0x58 :: r => r
  | s => s

/-- The bytes of an even number of digits, of which `position` have been read before. -/
def decodePairs (position : Nat) : Bytes → Except Fault Bytes
  | [] => .ok []
  | [_] => .error .oddLength
  | a :: b :: r =>
    match digitValue? a, digitValue? b with
    | some x, some y => (decodePairs (position + 2) r).map (UInt8.ofNat (16 * x + y) :: ·)
    | none, _ => .error (.badCharacter (Char.ofNat a.toNat) position)
    | some _, none => .error (.badCharacter (Char.ofNat b.toNat) (position + 1))

def decode (text : Bytes) : Except Fault Bytes :=
  let s := dropMarker text
  if s.length % 2 = 1 then .error .oddLength else decodePairs 0 s

/-- Read a byte string of length `n`. -/
def decodeExact (n : Nat) (text : Bytes) : Except Fault Bytes :=
  let s := dropMarker text
  if s.length % 2 = 1 then .error .oddLength
  else if s.length ≠ 2 * n then .error .wrongLength
  else decodePairs 0 s

end Registrar.Hex
