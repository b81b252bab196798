import Registrar.Decimal
import Registrar.Power

/-!
This module contains floating point numbers of double precision as exact numbers `m * 2 ^ q`: the
rounding of a ratio to the nearest one, and the shortest decimal notation that reads back.
-/

namespace Registrar

/-- A finite floating point number: `mantissa * 2 ^ exponent`, or its negation. The mantissa has 53
bits, or fewer if the exponent is least. -/
structure Double where
  negative : Bool
  mantissa : Nat
  exponent : Int
deriving Repr, DecidableEq, Inhabited

namespace Double

def minExponent : Int := -1074

def maxExponent : Int := 971

def zero (negative : Bool) : Double :=
  ⟨negative, 0, minExponent⟩

/-- `num / den` times `2 ^ -q` as a ratio of natural numbers. -/
def scale (num den : Nat) (q : Int) : Nat × Nat :=
  match q with
  | .ofNat n => (num, den * 2 ^ n)
  | .negSucc n => (num * 2 ^ (n + 1), den)

/-- A ratio rounded to a natural number, a half to the even neighbour. -/
def roundHalfEven (num den : Nat) : Nat :=
  let d := num / den
  let r := num % den
  if 2 * r < den then d
  else if 2 * r > den then d + 1
  else if d % 2 = 0 then d else d + 1

/-- The exponent with which a positive ratio gets a mantissa of 53 bits, if there is one. -/
def exponentOf (num den : Nat) : Int :=
  let e : Int := (num.log2 : Int) - den.log2
  let (n, d) := scale num den e
  let q := if n < d then e - 53 else e - 52
  max q minExponent

/-- The number nearest to a ratio, if it is finite. -/
def ofRatio? (negative : Bool) (num den : Nat) : Option Double :=
  if num = 0 then some (zero negative)
  else
    let q := exponentOf num den
    let (n, d) := scale num den q
    let m := roundHalfEven n d
    let (m, q) := if m = 2 ^ 53 then (2 ^ 52, q + 1) else (m, q)
    if q > maxExponent then none else some ⟨negative, m, q⟩

def ratio (x : Double) : Nat × Nat :=
  match x.exponent with
  | .ofNat n => (x.mantissa * 2 ^ n, 1)
  | .negSucc n => (x.mantissa, 2 ^ (n + 1))

/-- The product, if it is finite. -/
def mul? (x y : Double) : Option Double :=
  let (a, b) := x.ratio
  let (c, d) := y.ratio
  ofRatio? (x.negative != y.negative) (a * c) (b * d)

/-- The quotient, if it is finite. -/
def div? (x y : Double) : Option Double :=
  let (a, b) := x.ratio
  let (c, d) := y.ratio
  ofRatio? (x.negative != y.negative) (a * d) (b * c)

/-- The number next to a power of ten, if it is finite. -/
def powerOfTen? (n : Nat) : Option Double :=
  ofRatio? false (10 ^ n) 1

/-- The exponent `k` of the power of ten with `10 ^ k ≤ num / den < 10 ^ (k + 1)`. -/
def decimalExponent (num den : Nat) : Int :=
  if num ≥ den then ((Decimal.ofNat (num / den)).length : Int) - 1
  else go 400 1
where
  go : Nat → Nat → Int
    | 0, j => -(j : Int)
    | fuel + 1, j => if num * 10 ^ j ≥ den then -(j : Int) else go fuel (j + 1)

/-- Whether a ratio `n / d` rounds to the magnitude of a number that is not zero. -/
def roundsTo (x : Double) (n d : Nat) : Bool :=
  -- twice and four times the magnitude keep the ends of the interval whole
  let (a, b) := x.ratio
  let (u, v) := ratio ⟨false, 1, x.exponent⟩
  let isEven := x.mantissa % 2 = 0
  let quarter := x.mantissa = 2 ^ 52 ∧ x.exponent > minExponent
  -- the upper end is a / b + (u / v) / 2, the lower one a / b - (u / v) / 2 or a quarter
  let upper := (2 * a * v + u * b, 2 * b * v)
  let lower := if quarter then (4 * a * v - u * b, 4 * b * v) else (2 * a * v - u * b, 2 * b * v)
  let below := n * upper.2 < upper.1 * d ∨ (isEven ∧ n * upper.2 = upper.1 * d)
  let above := lower.1 * d < n * lower.2 ∨ (isEven ∧ lower.1 * d = n * lower.2)
  below ∧ above

/-- The point next to a number on the grid of multiples of `10 ^ k` that rounds to it, if one of
the two neighbours on the grid does. -/
def onGrid? (x : Double) (k : Int) : Option Nat :=
  let (a, b) := x.ratio
  let (n, d, unitNum, unitDen) : Nat × Nat × Nat × Nat :=
    match k with
    | .ofNat j => (a, b * 10 ^ j, 10 ^ j, 1)
    | .negSucc j => (a * 10 ^ (j + 1), b, 1, 10 ^ (j + 1))
  let low := n / d
  let high := low + 1
  let good (c : Nat) : Bool := roundsTo x (c * unitNum) unitDen
  let nearLow := 2 * (n - low * d) < d ∨ (2 * (n - low * d) = d ∧ low % 2 = 0)
  match good low, good high with
  | true, true => some (if nearLow then low else high)
  | true, false => some low
  | false, true => some high
  | false, false => none

/-- The fewest decimal digits that read back, and the exponent of the last one. -/
def shortest (x : Double) : Nat × Int :=
  let (a, b) := x.ratio
  let top := decimalExponent a b
  go x 17 top
where
  go (x : Double) : Nat → Int → Nat × Int
    | 0, k => (x.ratio.1, k)
    | fuel + 1, k =>
      match onGrid? x k with
      | some 0 => go x fuel (k - 1)
      | some c => (c, k)
      | none => go x fuel (k - 1)

def dropZeroes : Nat → Nat × Int → Nat × Int
  | 0, p => p
  | fuel + 1, (c, k) => if c ≠ 0 ∧ c % 10 = 0 then dropZeroes fuel (c / 10, k + 1) else (c, k)

/-- Set digits after the exponent of the first one: with a point among or in front of them from
`10 ^ -5` up to below `10 ^ 16`, and otherwise in scientific notation. -/
def layout (digits : List Char) (exponent : Int) : List Char :=
  let e := exponent
  if 0 ≤ e ∧ e ≤ 15 then
    let whole := e.toNat + 1
    let front := digits.take whole ++ List.replicate (whole - digits.length) '0'
    let back := digits.drop whole
    front ++ '.' :: (if back.isEmpty then ['0'] else back)
  else if -5 ≤ e ∧ e < 0 then
    '0' :: '.' :: List.replicate (-e - 1).toNat '0' ++ digits
  else
    let front := digits.take 1
    let back := digits.drop 1
    let sign := if e < 0 then '-' else '+'
    front ++ (if back.isEmpty then [] else '.' :: back) ++ 'e' :: sign :: Decimal.ofNat e.natAbs

/-- The text of a number. It holds a point or an exponent, so that it is no integer's. -/
def text (x : Double) : String :=
  let magnitude :=
    if x.mantissa = 0 then ['0', '.', '0']
    else
      let (c, k) := dropZeroes 20 x.shortest
      let digits := Decimal.ofNat c
      layout digits (k + digits.length - 1)
  String.ofList (if x.negative then '-' :: magnitude else magnitude)

end Double

end Registrar
