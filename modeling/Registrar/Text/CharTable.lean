import Registrar.Hex
import Registrar.Text.Cut

/-!
This module contains tables of characters. A table is written as the numbers of its characters in
ascending order, where characters next to each other share an entry, and is searched by halving.

An entry is a number `A` or a range `A-B`, in hexadecimal digits, with what its characters stand
for: nothing more, `=T.U` for the same numbers `T` and `U` for all of them, `+T` for one number
each, from `T` upward, and `/` for every second of them and the one behind it. An entry that begins
with `=` is about the character behind the entry before it.
-/

namespace Registrar

inductive Image where
  /-- The same numbers for all of them. -/
  | constant (numbers : List Nat)
  /-- A number each, the one of the first character being given. -/
  | shifted (first : Nat)
  /-- Every second one stands for the character behind it; the others are not part of the table. -/
  | paired
deriving Repr, DecidableEq

structure Span where
  first : Nat
  last : Nat
  image : Image
deriving Repr, DecidableEq

/-- What a character stands for that lies `offset` characters behind the first one of an entry. -/
def Span.numbers? (s : Span) (offset : Nat) : Option (List Nat) :=
  match s.image with
  | .constant numbers => some numbers
  | .shifted first => some [first + offset]
  | .paired => if offset % 2 = 0 then some [s.first + offset + 1] else none

structure CharTable where
  spans : Array Span
deriving Repr, DecidableEq

namespace CharTable

/-! ## Reading -/

def words (s : List Char) : List (List Char) :=
  let add (word : List Char) (rest : List (List Char)) : List (List Char) :=
    if word.isEmpty then rest else word :: rest
  let (word, rest) :=
    s.foldr (fun c (word, rest) =>
      if Text.isBlank c then ([], add word rest) else (c :: word, rest)) ([], [])
  add word rest

/-- The number in front of a text, if there is one, and the rest. -/
def cutNumber (s : List Char) : Option Nat × List Char :=
  let digits := (s.takeWhile fun c => (Hex.valueOf? c).isSome).filterMap Hex.valueOf?
  (if digits.isEmpty then none else some (digits.foldl (fun n d => 16 * n + d) 0),
    s.drop digits.length)

def numbers (s : List Char) : List Nat :=
  (Text.fields '.' s).filterMap fun digits => (cutNumber digits).1

def readSpan (previous : Nat) (word : List Char) : Span :=
  let (n, r) := cutNumber word
  let first := n.getD (previous + 1)
  let (m, r) :=
    match r with
    | '-' :: r => cutNumber r
    | r => (none, r)
  let image :=
    match r with
    | '=' :: r => .constant (numbers r)
    | '+' :: r => .shifted ((cutNumber r).1.getD 0)
    | '/' :: _ => .paired
    | _ => .constant []
  { first, last := m.getD first, image }

def ofText (text : String) : CharTable :=
  let add (spans : Array Span) (word : List Char) : Array Span :=
    spans.push (readSpan ((spans.back?.map (·.last)).getD 0) word)
  { spans := (words text.toList).foldl add #[] }

/-! ## Searching -/

/-- How many entries begin at or before a character: at least `low`, at most `high`. -/
def countUpTo (t : CharTable) (n low high : Nat) : Nat :=
  if low < high then
    let middle := (low + high) / 2
    if (t.spans[middle]?).any fun s => s.first ≤ n then countUpTo t n (middle + 1) high
    else countUpTo t n low middle
  else low
termination_by high - low

/-- What a character stands for, if it is part of the table. -/
def find? (t : CharTable) (c : Char) : Option (List Nat) := do
  let n := c.toNat
  let s ← t.spans[countUpTo t n 0 t.spans.size - 1]?
  if s.first ≤ n ∧ n ≤ s.last then s.numbers? (n - s.first) else none

def contains (t : CharTable) (c : Char) : Bool :=
  (find? t c).isSome

end CharTable

end Registrar
