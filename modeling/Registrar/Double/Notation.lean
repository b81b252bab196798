import Registrar.Double
import Registrar.Power

/-!
This module contains the reading of floating point numbers from their decimal notation, rounded to
the nearest number.
-/

namespace Registrar.Double

structure Notation where
  negative : Bool := false
  whole : List Char := []
  fraction : List Char := []
  exponent : Int := 0

namespace Notation

def readExponent? : List Char → Option Int
  | '-' :: r => (Decimal.read? r).map fun n => -(n : Int)
  | '+' :: r => (Decimal.read? r).map fun n => (n : Int)
  | s => (Decimal.read? s).map fun n => (n : Int)

/-- Read an exponent, if there is one, and nothing else. -/
def finish? (n : Notation) : List Char → Option Notation
  | [] => some n
  | c :: r =>
    if c = 'e' ∨ c = 'E' then (readExponent? r).map fun e => { n with exponent := e } else none

/-- Read digits with a point among, in front of or behind them, and an exponent. -/
def readUnsigned? (negative : Bool) (s : List Char) : Option Notation :=
  let whole := s.takeWhile Char.isDigit
  match s.dropWhile Char.isDigit with
  | '.' :: r =>
    let fraction := r.takeWhile Char.isDigit
    if whole.isEmpty && fraction.isEmpty then none
    else finish? { negative, whole, fraction } (r.dropWhile Char.isDigit)
  | r => if whole.isEmpty then none else finish? { negative, whole } r

/-- Read a decimal notation, with a sign in front or without one. -/
def read? : List Char → Option Notation
  | '-' :: r => readUnsigned? true r
  | '+' :: r => readUnsigned? false r
  | s => readUnsigned? false s

/-- The number nearest to what a notation denotes, if it is finite. -/
def toDouble? (n : Notation) : Option Double :=
  let digits := (n.whole ++ n.fraction).dropWhile (· == '0')
  let e := n.exponent - n.fraction.length
  -- the first digit stands at the power `10 ^ (top - 1)`
  let top := e + digits.length
  if digits.isEmpty || top < -400 then some (zero n.negative)
  else if top > 400 then none
  else
    match e with
    | .ofNat k => ofRatio? n.negative (Decimal.value digits * 10 ^ k) 1
    | .negSucc k => ofRatio? n.negative (Decimal.value digits) (10 ^ (k + 1))

end Notation

end Registrar.Double
