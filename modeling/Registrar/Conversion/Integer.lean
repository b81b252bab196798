import Registrar.Bytes
import Registrar.Conversion.Error
import Registrar.Power

/-!
This module contains the reading of integers of a given width. The widths 8, 16, 32 and 64 have a
strict notation, digits behind at most one sign. All other widths share a loose notation for signed
integers: underscores may stand anywhere among the digits, and no digits at all denote zero.
Reading goes from left to right.
-/

namespace Registrar.Integer

def isNarrow (bits : Nat) : Bool :=
  bits = 8 || bits = 16 || bits = 32 || bits = 64

/-- Read digits after a number `n`, as long as the number does not exceed `limit`. -/
def readDigits (limit : Nat) (excess : ReadFault) (n : Nat) :
    List Char → Except ReadFault Nat
  | [] => .ok n
  | c :: r =>
    if c.isDigit then
      let n := 10 * n + Decimal.digitValue c
      if n ≤ limit then readDigits limit excess n r else .error excess
    else .error .badDigit

def readNarrow (bits : Nat) : List Char → Except ReadFault Int
  | [] => .error .noDigits
  | ['+'] => .error .badDigit
  | ['-'] => .error .badDigit
  | '+' :: r => (readDigits (2 ^ (bits - 1) - 1) .tooLarge 0 r).map Int.ofNat
  | '-' :: r => (readDigits (2 ^ (bits - 1)) .tooSmall 0 r).map fun n => -Int.ofNat n
  | s => (readDigits (2 ^ (bits - 1) - 1) .tooLarge 0 s).map Int.ofNat

/-- The first byte of the UTF-8 form of a character, as the character with its number. -/
def leadingByte (c : Char) : Char :=
  match String.utf8EncodeChar c with
  | b :: _ => Char.ofNat b.toNat
  | [] => c

def stride : Nat := 19

/-- Read digits and underscores after a number `n`, of which `count` digits have been read since it
was compared with the words. It is compared after every nineteen digits and at the end, so that a
strange byte that comes earlier is what is reported. -/
def readLoose (n count : Nat) : List Char → Except ReadFault Nat
  | [] => if n < 2 ^ 256 then .ok n else .error .beyondSignedWord
  | c :: r =>
    if c = '_' then readLoose n count r
    else if c.isDigit then
      let n := 10 * n + Decimal.digitValue c
      if count + 1 < stride then readLoose n (count + 1) r
      else if n < 2 ^ 256 then readLoose n 0 r
      else .error .beyondSignedWord
    else .error (.strangeDigit (leadingByte c))

/-- The integer with the given sign and magnitude, if it is that of a word. -/
def withSign (negative : Bool) (n : Nat) : Except ReadFault Int :=
  if negative then
    if n ≤ 2 ^ 255 then .ok (-Int.ofNat n) else .error .beyondSignedWord
  else
    if n < 2 ^ 255 then .ok (Int.ofNat n) else .error .beyondSignedWord

def readWide : List Char → Except ReadFault Int
  | '+' :: r => readLoose 0 0 r >>= withSign false
  | '-' :: r => readLoose 0 0 r >>= withSign true
  | s => readLoose 0 0 s >>= withSign false

def fitsSigned (bits : Nat) (i : Int) : Bool :=
  -(2 ^ (bits - 1) : Int) ≤ i && i < (2 ^ (bits - 1) : Int)

def readSigned (bits : Nat) (text : List Char) : Except ReadFault Int := do
  let i ← if isNarrow bits then readNarrow bits text else readWide text
  if fitsSigned bits i then .ok i else .error (.outOfRange (.int bits))

/-- Read an unsigned integer of the given width: digits only, of which there may be any number. -/
def readUnsigned (bits : Nat) (text : List Char) : Except ReadFault Nat := do
  if text.isEmpty || !text.all Char.isDigit then
    .error .notUnsigned
  else
    let n ←
      if isNarrow bits then readDigits (2 ^ bits - 1) .tooLarge 0 text
      else readDigits (2 ^ 256 - 1) .beyondUnsignedWord 0 text
    if n < 2 ^ bits then .ok n else .error (.outOfRange (.uint bits))

end Registrar.Integer
