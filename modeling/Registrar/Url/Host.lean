import Registrar.Decimal
import Registrar.Domain
import Registrar.Power
import Registrar.Text.Utf8
import Registrar.Url.Percent

/-!
This module contains the hosts of URLs: names, and addresses of both versions in all their
notations.
-/

namespace Registrar

inductive Host where
  | domain (name : List Char)
  | ipv4 (n : Nat)
  /-- The eight pieces of an address. -/
  | ipv6 (pieces : List Nat)
deriving Repr, DecidableEq

namespace Host

/-! ## Addresses with four parts -/

def digit? (radix : Nat) (c : Char) : Option Nat :=
  (Hex.valueOf? c).filter (· < radix)

/-- The number that digits of a radix denote; no digits denote zero. -/
def number? (radix : Nat) (digits : List Char) : Option Nat :=
  digits.foldlM (fun n c => (digit? radix c).map (radix * n + ·)) 0

def ipv4Number? : List Char → Option Nat
  | [] => none
  | '0' :: 'x' :: r => number? 16 r
  | '0' :: 'X' :: r => number? 16 r
  | '0' :: r => number? 8 r
  | s => number? 10 s

/-- The parts of a name between its points, without an empty one at the end. -/
def labels (name : List Char) : List (List Char) :=
  let parts := Text.fields '.' name
  if parts.length > 1 ∧ parts.getLast? = some [] then parts.dropLast else parts

/-- Whether the last part of a name is a number, so that the name is an address. -/
def endsInNumber (name : List Char) : Bool :=
  match (labels name).getLast? with
  | none => false
  | some [] => false
  | some last =>
    last.all Char.isDigit ||
      match last with
      | '0' :: 'x' :: r => r.all fun c => (digit? 16 c).isSome
      | '0' :: 'X' :: r => r.all fun c => (digit? 16 c).isSome
      | _ => false

/-- The address that parts denote; the last one fills all the bytes that are left. -/
def ofParts? (n left : Nat) : List Nat → Option Nat
  | [] => none
  | [last] => if last < 256 ^ left then some (n * 256 ^ left + last) else none
  | p :: r => if p < 256 ∧ 0 < left then ofParts? (n * 256 + p) (left - 1) r else none

def readIpv4? (name : List Char) : Option Nat := do
  let parts := labels name
  if parts.length > 4 then none
  ofParts? 0 4 (← parts.mapM ipv4Number?)

def ipv4Text (n : Nat) : List Char :=
  Decimal.ofNat (n / 256 ^ 3 % 256) ++ '.' :: Decimal.ofNat (n / 256 ^ 2 % 256) ++
    '.' :: Decimal.ofNat (n / 256 % 256) ++ '.' :: Decimal.ofNat (n % 256)

/-! ## Addresses with eight pieces -/

/-- Read a piece: up to four digits. -/
def piece? (digits : List Char) : Option Nat :=
  if digits.isEmpty || digits.length > 4 then none else number? 16 digits

def dotted? (s : List Char) : Option (List Nat) := do
  let parts := Text.fields '.' s
  if parts.length ≠ 4 then none
  let bytes ← parts.mapM fun p =>
    if p.isEmpty || (p.length > 1 && p.head? = some '0') then none
    else ((Decimal.read? p).filter (· < 256))
  match bytes with
  | [a, b, c, d] => return [256 * a + b, 256 * c + d]
  | _ => none

/-- Read pieces between colons; the last ones may be written with points. -/
def pieces? : List (List Char) → Option (List Nat)
  | [] => some []
  | [last] => if last.contains '.' then dotted? last else (piece? last).map ([·])
  | p :: r => do
    let n ← piece? p
    let ns ← pieces? r
    return n :: ns

/-- Read pieces, or nothing. -/
def side? (s : List Char) : Option (List Nat) :=
  if s.isEmpty then some [] else pieces? (Text.fields ':' s)

/-- Read an address; two colons stand for as many zeroes as are missing. -/
def readIpv6? (s : List Char) : Option (List Nat) :=
  match Text.cutWord? "::".toList s with
  | none => (side? s).filter fun ps => ps.length = 8
  | some (front, back) => do
    if front.contains '.' then none
    let a ← side? front
    let b ← side? back
    if a.length + b.length ≤ 7 then
      return a ++ List.replicate (8 - a.length - b.length) 0 ++ b
    else none

def zeroes : List Nat → Nat
  | 0 :: r => zeroes r + 1
  | _ => 0

def longestRun (place : Nat) : List Nat → Nat × Nat
  | [] => (place, 0)
  | p :: r =>
    let here := zeroes (p :: r)
    let later := longestRun (place + 1) r
    if here ≥ later.2 then (place, here) else later

def pieceText (n : Nat) : List Char :=
  Nat.toDigits 16 n

def ipv6Text (pieces : List Nat) : List Char :=
  let join (ps : List Nat) : List Char := List.intercalate [':'] (ps.map pieceText)
  let (place, length) := longestRun 0 pieces
  if length ≤ 1 then '[' :: join pieces ++ [']']
  else '[' :: join (pieces.take place) ++ ':' :: ':' :: join (pieces.drop (place + length)) ++ [']']

/-! ## Hosts -/

def read? (s : List Char) : Option Host :=
  match s with
  | '[' :: r => Text.stripLast? ']' r >>= readIpv6? |>.map .ipv6
  | s => do
    let name ← Domain.toAscii? (Text.Utf8.decodeLossy (Percent.decode (Bytes.ofText s)))
    if name.isEmpty then none
    if endsInNumber name then (readIpv4? name).map .ipv4 else return .domain name

def isForbiddenOpaque (c : Char) : Bool :=
  c = '\x00' || "\t\n\r #/:<>?@[\\]^|".toList.contains c

/-- Read the host of a URL of any other scheme, which is kept as it is. -/
def readOpaque? (s : List Char) : Option Host :=
  match s with
  | '[' :: r => Text.stripLast? ']' r >>= readIpv6? |>.map .ipv6
  | s =>
    if s.any isForbiddenOpaque then none else some (.domain (Percent.encode Percent.control s))

def text : Host → List Char
  | .domain name => name
  | .ipv4 n => ipv4Text n
  | .ipv6 pieces => ipv6Text pieces

end Host

end Registrar
