import Registrar.Hex
import Registrar.Json.Basic

/-!
This module contains the reading of documents. Each reader takes what it needs from the front of
a text and gives the rest. A fault is described by the text that was left when it was met.
-/

namespace Registrar.Json

inductive Flaw where
  | endInArray
  | endInObject
  | endInText
  | endInValue
  | noColon
  | noEndOfArray
  | noEndOfObject
  | unknownWord
  | noValue
  | badEscape
  | badNumber
  | controlCharacter
  | nameIsNoText
  | trailingComma
  | trailingCharacters
deriving Repr, DecidableEq

def Flaw.message : Flaw → String
  | .endInArray => "EOF while parsing a list"
  | .endInObject => "EOF while parsing an object"
  | .endInText => "EOF while parsing a string"
  | .endInValue => "EOF while parsing a value"
  | .noColon => "expected `:`"
  | .noEndOfArray => "expected `,` or `]`"
  | .noEndOfObject => "expected `,` or `\x7d`"
  | .unknownWord => "expected ident"
  | .noValue => "expected value"
  | .badEscape => "invalid escape"
  | .badNumber => "invalid number"
  | .controlCharacter => "control character (\\u0000-\\u001F) found while parsing a string"
  | .nameIsNoText => "key must be a string"
  | .trailingComma => "trailing comma"
  | .trailingCharacters => "trailing characters"

inductive Fault where
  /-- A flaw in a line, with the number of bytes of the line up to it. -/
  | flaw (f : Flaw) (line column : Nat)
  /-- The document has no normal form. -/
  | notNormal
deriving Repr, DecidableEq

def Fault.message : Fault → String
  | .flaw f line column =>
    f.message ++ " at line " ++ Decimal.text line ++ " column " ++ Decimal.text column
  | .notNormal => "the document has no normal form"

namespace Reader

/-- Where reading stopped: at a flaw, in front of what is left. -/
structure Stop where
  flaw : Flaw
  left : List Char
deriving Repr, DecidableEq

def Stop.fault (s : Stop) (text : List Char) : Fault :=
  let seen := text.take (text.length - s.left.length)
  let line := (seen.reverse.takeWhile (· ≠ '\n')).map Char.utf8Size
  .flaw s.flaw (seen.count '\n' + 1) (line.foldl (· + ·) 0)

/-- Stop at a character, or else at the end of the text. -/
def stopAt {α : Type} (atCharacter atEnd : Flaw) : List Char → Except Stop α
  | [] => .error ⟨atEnd, []⟩
  | _ :: r => .error ⟨atCharacter, r⟩

def isSpace (c : Char) : Bool :=
  c = ' ' || c = '\n' || c = '\r' || c = '\t'

def skip (s : List Char) : List Char :=
  s.dropWhile isSpace

def hexValue? (c : Char) : Option Nat :=
  if c.toNat < 128 then Hex.digitValue? (UInt8.ofNat c.toNat) else none

def unit? (a b c d : Char) : Option Nat := do
  let a ← hexValue? a
  let b ← hexValue? b
  let c ← hexValue? c
  let d ← hexValue? d
  return ((a * 16 + b) * 16 + c) * 16 + d

def escaped? : Char → Option Char
  | '"' => some '"'
  | '\\' => some '\\'
  | '/' => some '/'
  | 'b' => some '\x08'
  | 'f' => some '\x0c'
  | 'n' => some '\n'
  | 'r' => some '\r'
  | 't' => some '\t'
  | _ => none

def pair (high low : Nat) : Char :=
  Char.ofNat (0x10000 + (high - 0xD800) * 0x400 + (low - 0xDC00))

/-- The content of a text before which a unit is `pending`: none if there is such a unit, since its
second half is missing. -/
def unlessPending (pending : Option Nat) (content : Option (List Char)) : Option (List Char) :=
  if pending.isSome then none else content

/-- Read the content of a text up to its closing quote. A unit that announces a second one is
`pending` until that has been read. There is no content if one of the two is missing. -/
def readText (pending : Option Nat) : List Char → Except Stop (Option (List Char) × List Char)
  | [] => .error ⟨.endInText, []⟩
  | '\\' :: 'u' :: a :: b :: c :: d :: r =>
    match unit? a b c d, pending with
    | none, _ => .error ⟨.badEscape, r⟩
    | some u, some high =>
      (readText none r).map fun (s, r) =>
        (if 0xDC00 ≤ u ∧ u ≤ 0xDFFF then s.map (pair high u :: ·) else none, r)
    | some u, none =>
      if 0xD800 ≤ u ∧ u ≤ 0xDBFF then readText (some u) r
      else
        (readText none r).map fun (s, r) =>
          (if 0xDC00 ≤ u ∧ u ≤ 0xDFFF then none else s.map (Char.ofNat u :: ·), r)
  | '\\' :: 'u' :: _ => .error ⟨.endInText, []⟩
  | '\\' :: e :: r =>
    match escaped? e with
    | some x => (readText none r).map fun (s, r) => (unlessPending pending (s.map (x :: ·)), r)
    | none => .error ⟨.badEscape, r⟩
  | c :: r =>
    if c = '\\' then .error ⟨.endInText, []⟩
    else if c = '"' then .ok (unlessPending pending (some []), r)
    else if c.toNat < 0x20 then .error ⟨.controlCharacter, r⟩
    else (readText none r).map fun (s, r) => (unlessPending pending (s.map (c :: ·)), r)

/-- Read the fraction of a number, of which the point has been read. -/
def readFraction (l : Literal) (s : List Char) : Except Stop (Literal × List Char) :=
  let digits := s.takeWhile Char.isDigit
  let r := s.dropWhile Char.isDigit
  if digits.isEmpty then stopAt .badNumber .endInValue r
  else .ok ({ l with fraction := digits, hasFraction := true }, r)

/-- Read the exponent of a number, of which the letter has been read. -/
def readExponent (l : Literal) (s : List Char) : Except Stop (Literal × List Char) :=
  let (isNegative, s) :=
    match s with
    | '+' :: r => (false, r)
    | '-' :: r => (true, r)
    | s => (false, s)
  let digits := s.takeWhile Char.isDigit
  let r := s.dropWhile Char.isDigit
  if digits.isEmpty then stopAt .badNumber .endInValue r
  else .ok ({ l with exponent := some (isNegative, digits) }, r)

/-- Read the whole part of a number. A zero stands alone. -/
def readWhole (s : List Char) : Except Stop (List Char × List Char) :=
  let digits := s.takeWhile Char.isDigit
  let r := s.dropWhile Char.isDigit
  match digits with
  | [] => stopAt .badNumber .badNumber r
  | '0' :: _ :: d => .error ⟨.badNumber, d ++ r⟩
  | digits => .ok (digits, r)

def readNumber (s : List Char) : Except Stop (Number × List Char) := do
  let (negative, s) :=
    match s with
    | '-' :: r => (true, r)
    | s => (false, s)
  let (digits, r) ← readWhole s
  let l : Literal := { negative, whole := digits }
  let (l, r) ←
    match r with
    | '.' :: r => readFraction l r
    | r => .ok (l, r)
  let (l, r) ←
    match r with
    | 'e' :: r => readExponent l r
    | 'E' :: r => readExponent l r
    | r => .ok (l, r)
  return (.ofLiteral l, r)

def readWord (j : Json) : (word text : List Char) → Except Stop (Json × List Char)
  | [], s => .ok (j, s)
  | _ :: _, [] => .error ⟨.endInValue, []⟩
  | w :: word, c :: s => if c = w then readWord j word s else .error ⟨.unknownWord, s⟩

def textOf : Option (List Char) → Json
  | some content => .string (String.ofList content)
  | none => .broken

def objectOf : Option (List (String × Json)) → Json
  | some members => .object members
  | none => .broken

def putMember (name : Option (List Char)) (j : Json) (members : Option (List (String × Json))) :
    Option (List (String × Json)) := do
  return (String.ofList (← name), j) :: (← members)

mutual

def readValue : Nat → List Char → Except Stop (Json × List Char)
  | 0, _ => .error ⟨.endInValue, []⟩
  | fuel + 1, s =>
    match skip s with
    | [] => .error ⟨.endInValue, []⟩
    | '"' :: r => (readText none r).map fun (t, r) => (textOf t, r)
    | '[' :: r =>
      match skip r with
      | [] => .error ⟨.endInArray, []⟩
      | ']' :: r => .ok (.array [], r)
      | r => (readItems fuel r).map fun (items, r) => (.array items, r)
    | '\x7b' :: r =>
      match skip r with
      | [] => .error ⟨.endInObject, []⟩
      | '\x7d' :: r => .ok (.object [], r)
      | r => (readMembers fuel r).map fun (members, r) => (objectOf members, r)
    | 'n' :: r => readWord .null "ull".toList r
    | 't' :: r => readWord (.bool true) "rue".toList r
    | 'f' :: r => readWord (.bool false) "alse".toList r
    | c :: r =>
      if c = '-' || c.isDigit then (readNumber (c :: r)).map fun (n, r) => (.number n, r)
      else .error ⟨.noValue, r⟩

/-- Read the items of an array up to the closing bracket; there is one at least. -/
def readItems : Nat → List Char → Except Stop (List Json × List Char)
  | 0, _ => .error ⟨.endInArray, []⟩
  | fuel + 1, s => do
    let (j, r) ← readValue fuel s
    match skip r with
    | ']' :: r => return ([j], r)
    | ',' :: r =>
      match skip r with
      | [] => throw ⟨.endInValue, []⟩
      | ']' :: r => throw ⟨.trailingComma, r⟩
      | r =>
        let (js, r) ← readItems fuel r
        return (j :: js, r)
    | r => stopAt .noEndOfArray .endInArray r

/-- Read the members of an object up to the closing brace; there is one at least. None are known if
one of the names is broken. -/
def readMembers : Nat → List Char → Except Stop (Option (List (String × Json)) × List Char)
  | 0, _ => .error ⟨.endInObject, []⟩
  | fuel + 1, s =>
    match skip s with
    | '"' :: r => do
      let (name, r) ← readText none r
      match skip r with
      | ':' :: r =>
        let (j, r) ← readValue fuel r
        match skip r with
        | '\x7d' :: r => return (putMember name j (some []), r)
        | ',' :: r =>
          match skip r with
          | [] => throw ⟨.endInValue, []⟩
          | '\x7d' :: r => throw ⟨.trailingComma, r⟩
          | r =>
            let (ms, r) ← readMembers fuel r
            return (putMember name j ms, r)
        | r => stopAt .noEndOfObject .endInObject r
      | r => stopAt .noColon .endInObject r
    | r => stopAt .nameIsNoText .endInObject r

end

def readWholeText (s : List Char) : Except Stop Json := do
  -- a reader and the one it calls take away a character at least
  let (j, r) ← readValue (2 * s.length + 2) s
  match skip r with
  | [] => return j
  | _ :: r => throw ⟨.trailingCharacters, r⟩

end Reader

def read (text : String) : Except Fault Json :=
  (Reader.readWholeText text.toList).mapError fun s => s.fault text.toList

def readNormal (text : String) : Except Fault Json := do
  match (← read text).normalize with
  | some j => return j
  | none => throw .notNormal

end Registrar.Json
