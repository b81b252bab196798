import Registrar.Double
import Registrar.Power

/-!
This module contains the numbers of documents. Integers of 64 bits are kept exactly. Every other
number is a floating point number that is close to the one written: the digits that fit 64 bits are
rounded first, and then multiplied with or divided by a power of ten.
-/

namespace Registrar.Json

inductive Number where
  | unsigned (n : UInt64)
  /-- An integer below zero. -/
  | negative (i : Int64)
  | double (x : Double)
  /-- A number beyond all floating point numbers. -/
  | beyond
deriving Repr, DecidableEq, Inhabited

/-- The parts of a number as written. The whole part is not empty. -/
structure Literal where
  negative : Bool
  whole : List Char
  fraction : List Char := []
  hasFraction : Bool := false
  /-- The sign of the exponent, and its digits. -/
  exponent : Option (Bool × List Char) := none

namespace Number

/-- As many digits as fit 64 bits behind the number `n`, and the digits left over. -/
def fill (n : Nat) : List Char → Nat × List Char
  | [] => (n, [])
  | c :: r =>
    let m := 10 * n + Decimal.digitValue c
    if m < 2 ^ 64 then fill m r else (n, c :: r)

/-- `significand * 10 ^ exponent`, computed in floating point. -/
def scaled : Nat → Double → Int → Option Double
  | 0, x, _ => some x
  | fuel + 1, x, e =>
    match e with
    | .ofNat k =>
      if k ≤ 308 then Double.powerOfTen? k >>= x.mul?
      else if x.mantissa = 0 then some x
      else none
    | .negSucc k =>
      if k + 1 ≤ 308 then Double.powerOfTen? (k + 1) >>= x.div?
      else if x.mantissa = 0 then some x
      else do
        let y ← Double.powerOfTen? 308 >>= x.div?
        scaled fuel y (e + 308)

def clamp (e : Int) : Int :=
  max (-(2 ^ 31)) (min (2 ^ 31 - 1) e)

/-- The number `significand * 10 ^ e` with a sign. -/
def ofParts (negative : Bool) (significand : Nat) (e : Int) : Number :=
  match Double.ofRatio? false significand 1 >>= fun x => scaled 8 x e with
  | some x => .double { x with negative := negative }
  | none => .beyond

def withExponent (negative : Bool) (significand : Nat) (e : Int) : Option (Bool × List Char) → Number
  | none => ofParts negative significand e
  | some (isNegative, digits) =>
    let n := Decimal.value digits
    if n ≥ 2 ^ 31 then
      if significand ≠ 0 ∧ !isNegative then .beyond else .double (.zero negative)
    else ofParts negative significand (clamp (if isNegative then e - n else e + n))

def ofLiteral (l : Literal) : Number :=
  let (significand, left) := fill 0 l.whole
  if l.hasFraction then
    let (m, rest) := fill significand l.fraction
    withExponent l.negative m ((left.length : Int) - (l.fraction.length - rest.length)) l.exponent
  else if l.exponent.isSome || !left.isEmpty then
    withExponent l.negative significand left.length l.exponent
  else if !l.negative then .unsigned (UInt64.ofNat significand)
  else if significand = 0 ∨ significand > 2 ^ 63 then ofParts true significand 0
  else .negative (Int64.ofInt (-(significand : Int)))

def text : Number → String
  | .unsigned n => Decimal.text n.toNat
  | .negative i => Decimal.intText i.toInt
  | .double x => x.text
  | .beyond => "1e999"

end Number

end Registrar.Json
