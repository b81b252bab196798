import Registrar.Bytes
import Registrar.Power

/-!
This module contains the ASCII form of the labels of host names. Characters beyond ASCII are coded
in the order of their numbers, as the distances between their places.
-/

namespace Registrar.Domain.Punycode

def digit (n : Nat) : Char :=
  if n < 26 then Char.ofNat ('a'.toNat + n) else Char.ofNat ('0'.toNat + (n - 26))

def threshold (position bias : Nat) : Nat :=
  if position ≤ bias then 1 else if position ≥ bias + 26 then 26 else position - bias

theorem threshold_pos (position bias : Nat) : 0 < threshold position bias := by
  unfold threshold
  split
  . omega
  . split <;> omega

def digits (bias position distance : Nat) : List Char :=
  let t := threshold position bias
  if distance < t then [digit distance]
  else
    digit (t + (distance - t) % (36 - t)) ::
      digits bias (position + 36) ((distance - t) / (36 - t))
termination_by distance
decreasing_by
  have := threshold_pos position bias
  have := Nat.div_le_self (distance - threshold position bias) (36 - threshold position bias)
  omega

def shrink : (fuel : Nat) → (delta bias : Nat) → Nat × Nat
  | 0, delta, bias => (delta, bias)
  | fuel + 1, delta, bias =>
    if delta > 455 then shrink fuel (delta / 35) (bias + 36) else (delta, bias)

def adapt (delta count : Nat) (isFirst : Bool) : Nat :=
  let d := if isFirst then delta / 700 else delta / 2
  let (d, bias) := shrink d (d + d / count) 0
  bias + 36 * d / (d + 38)

structure State where
  out : List Char := []
  delta : Nat := 0
  bias : Nat := 72
  /-- How many characters have been coded. -/
  coded : Nat

/-- Pass a character while characters with the number `code` are coded. -/
def visit (basic code : Nat) (s : State) (c : Char) : State :=
  if c.toNat < code then { s with delta := s.delta + 1 }
  else if c.toNat = code then
    { out := s.out ++ digits s.bias 36 s.delta, delta := 0
      bias := adapt s.delta (s.coded + 1) (s.coded = basic), coded := s.coded + 1 }
  else s

/-- Code the characters with the given numbers, which are at least `code`. -/
def visitAll (basic : Nat) (label : List Char) : (codes : List Nat) → (code : Nat) → State → State
  | [], _, s => s
  | n :: r, code, s =>
    let s := { s with delta := s.delta + (n - code) * (s.coded + 1) }
    let s := label.foldl (visit basic n) s
    visitAll basic label r (n + 1) { s with delta := s.delta + 1 }

def encode (label : List Char) : List Char :=
  let plain := label.filter fun c => c.toNat < 128
  let codes := ((label.map Char.toNat).filter (128 ≤ ·)).mergeSort (· ≤ ·)
  let basic := plain.length
  let front := if plain.isEmpty then [] else plain ++ ['-']
  front ++ (visitAll basic label codes.eraseDups 128 { coded := basic }).out

/-! ## Decoding -/

def value? (c : Char) : Option Nat :=
  if 'a' ≤ c ∧ c ≤ 'z' then some (c.toNat - 'a'.toNat)
  else if '0' ≤ c ∧ c ≤ '9' then some (c.toNat - '0'.toNat + 26)
  else none

def limit : Nat :=
  2 ^ 32

/-- The state of the decoding. The number of a character and its place are one number, the
distance, which is spread over digits of growing weight. -/
structure Reading where
  out : List Char
  code : Nat := 128
  /-- The distance from the front with the smallest number that is not coded yet. -/
  distance : Nat := 0
  bias : Nat := 72
  /-- What the distance was before the digits of the current one. -/
  start : Nat := 0
  weight : Nat := 1
  position : Nat := 36

def insert? (r : Reading) : Option Reading := do
  let count := r.out.length + 1
  let code := r.code + r.distance / count
  let place := r.distance % count
  if code < 0x110000 ∧ ¬ (0xd800 ≤ code ∧ code < 0xe000) then
    return { out := r.out.take place ++ Char.ofNat code :: r.out.drop place
             code, distance := place + 1, start := place + 1
             bias := adapt (r.distance - r.start) count (r.start = 0) }
  else none

def step? (r : Reading) (c : Char) : Option Reading := do
  let d ← value? c
  let distance := r.distance + d * r.weight
  if distance ≥ limit then none
  let t := threshold r.position r.bias
  let r := { r with distance }
  if d < t then insert? r
  else
    let weight := r.weight * (36 - t)
    if weight ≥ limit then none else some { r with weight, position := r.position + 36 }

/-- The label with an ASCII form. The characters in front of the last hyphen stand for themselves,
if there are any. -/
def decode? (s : List Char) : Option (List Char) := do
  let back := (s.reverse.takeWhile (· ≠ '-')).reverse
  let front := s.take (s.length - back.length - 1)
  let digits := if front.isEmpty then s else back
  let r ← digits.foldlM step? { out := front }
  if r.weight = 1 then some r.out else none

end Registrar.Domain.Punycode
