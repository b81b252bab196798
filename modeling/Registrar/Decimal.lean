/-!
This module contains the decimal notation of integers: the digits of a number, and the number that
a run of digits denotes.
-/

namespace Registrar.Decimal

/-- The decimal digits of a number, without leading zeroes. -/
def ofNat (n : Nat) : List Char :=
  Nat.toDigits 10 n

/-- The decimal notation of an integer: a minus sign if it is negative, and its digits. -/
def ofInt : Int → List Char
  | .ofNat n => ofNat n
  | .negSucc n => '-' :: ofNat (n + 1)

def text (n : Nat) : String :=
  String.ofList (ofNat n)

def intText (i : Int) : String :=
  String.ofList (ofInt i)

def digitValue (c : Char) : Nat :=
  c.toNat - '0'.toNat

/-- The number that digits denote after a number `n` has been read. -/
def valueFrom (n : Nat) (digits : List Char) : Nat :=
  digits.foldl (fun n c => 10 * n + digitValue c) n

def value (digits : List Char) : Nat :=
  valueFrom 0 digits

def read? (text : List Char) : Option Nat :=
  if text ≠ [] ∧ text.all Char.isDigit then some (value text) else none

/-- As `read?`, with a plus sign allowed in front. -/
def readPlus? : List Char → Option Nat
  | '+' :: r => read? r
  | s => read? s

end Registrar.Decimal
