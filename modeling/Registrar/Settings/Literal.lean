import Registrar.Double.Notation
import Registrar.Hex
import Registrar.Json.Basic
import Registrar.Power
import Registrar.Text.Cut

/-!
This module contains the notation of settings in the environment. A value is a boolean, a number, a
list `[a, b]`, a table `{k = v}`, a text in double quotes or a character in single ones; everything
else is the text itself.
-/

namespace Registrar.Settings.Literal

def isSpace (c : Char) : Bool :=
  c = ' ' || c = '\t' || c = '\n' || c = '\x0c' || c = '\r'

def skip (s : List Char) : List Char :=
  s.dropWhile isSpace

def isSeparator (c : Char) : Bool :=
  c = ',' || c = '\x7b' || c = '\x7d' || c = '[' || c = ']'

def isNameCharacter (c : Char) : Bool :=
  c.isAlphanum || c = '_' || c = '-'

/-- The text up to a quote that is not behind a backslash, and what follows the quote. -/
def readRaw : List Char → Option (List Char × List Char)
  | [] => none
  | '"' :: r => some ([], r)
  | '\\' :: c :: r => (readRaw r).map fun (a, b) => ('\\' :: c :: a, b)
  | c :: r => (readRaw r).map fun (a, b) => (c :: a, b)

def escaped? : Char → Option Char
  | '"' => some '"'
  | '\\' => some '\\'
  | 'b' => some '\x08'
  | 'f' => some '\x0c'
  | 'n' => some '\n'
  | 'r' => some '\r'
  | 't' => some '\t'
  | _ => none

def hexNumber? (digits : List Char) : Option Nat :=
  digits.foldlM (fun n c =>
    if c.toNat < 128 then (Hex.digitValue? (UInt8.ofNat c.toNat)).map (16 * n + ·) else none) 0

/-- The character with the number that `n` hexadecimal digits denote, and what follows them. -/
def codePoint? (n : Nat) (s : List Char) : Option (Char × List Char) := do
  if s.length < n then none
  let code ← hexNumber? (s.take n)
  if code.isValidChar then return (Char.ofNat code, s.drop n) else none

def isPlain (c : Char) : Bool :=
  c = '\t' || (c.toNat ≥ 0x20 && c.toNat ≠ 0x7f)

def unescape : Nat → List Char → Option (List Char)
  | _, [] => some []
  | 0, _ => none
  | n + 1, '\\' :: c :: r =>
    if c = 'u' ∨ c = 'U' then do
      let (d, r) ← codePoint? (if c = 'u' then 4 else 8) r
      let s ← unescape n r
      return d :: s
    else do
      let d ← escaped? c
      let s ← unescape n r
      return d :: s
  | n + 1, c :: r => if c ≠ '\\' && isPlain c then (unescape n r).map (c :: ·) else none

/-- The text behind an opening quote, and what follows the closing one. -/
def readQuoted (s : List Char) : Option (String × List Char) := do
  let (raw, r) ← readRaw s
  let text ← unescape raw.length raw
  return (String.ofList text, r)

def integer? (word : List Char) : Option Json.Number :=
  match (Decimal.readPlus? word).filter (· < 2 ^ 64) with
  | some n => some (.unsigned (UInt64.ofNat n))
  | none =>
    match word with
    | '-' :: digits =>
      match (Decimal.read? digits).filter (· ≤ 2 ^ 63) with
      | some 0 => some (.unsigned 0)
      | some n => some (.negative (Int64.ofInt (-(n : Int))))
      | none => none
    | _ => none

/-- The value of a word. A number beyond floating point is no value. -/
def ofWord (word : List Char) : Json :=
  match if word.contains '.' then Double.Notation.read? word else none with
  | some n =>
    match n.toDouble? with
    | some x => .number (.double x)
    | none => .null
  | none =>
    match integer? word with
    | some n => .number n
    | none => .string (String.ofList word)

/-- The name in front of a text, and the rest. -/
def readName (s : List Char) : Option (String × List Char) :=
  match s with
  | '"' :: r => readQuoted r
  | s =>
    let name := s.takeWhile isNameCharacter
    if name.isEmpty then none else some (String.ofList name, s.dropWhile isNameCharacter)

/-- The value of a word in front of a text, and the rest. -/
def readWord (s : List Char) : Option (Json × List Char) :=
  match Text.stripStart? "true".toList s with
  | some r => some (.bool true, r)
  | none =>
    match Text.stripStart? "false".toList s with
    | some r => some (.bool false, r)
    | none =>
      some (ofWord (Text.trim (s.takeWhile fun c => !isSeparator c)),
        s.dropWhile fun c => !isSeparator c)

mutual

def readValue : Nat → List Char → Option (Json × List Char)
  | 0, _ => none
  | n + 1, s => do
    let (j, r) ←
      match skip s with
      | '[' :: r => do
        let (items, r) ← readItems n r
        pure (Json.array items, r)
      | '\x7b' :: r => do
        let (members, r) ← readMembers n [] r
        pure (Json.object members, r)
      | '"' :: r => do
        let (text, r) ← readQuoted r
        pure (Json.string text, r)
      | '\'' :: r =>
        match r with
        | c :: '\'' :: r => pure (Json.string (String.singleton c), r)
        | _ => none
      | s => readWord s
    return (j, skip r)

def readItems : Nat → List Char → Option (List Json × List Char)
  | 0, _ => none
  | _ + 1, ']' :: r => some ([], r)
  | n + 1, s => do
    let (j, r) ← readValue n s
    match r with
    | ',' :: r =>
      let (js, r) ← readItems n r
      return (j :: js, r)
    | ']' :: r => return ([j], r)
    | _ => none

def readMembers : Nat → List (String × Json) → List Char → Option (List (String × Json) × List Char)
  | 0, _, _ => none
  | _ + 1, made, '\x7d' :: r => some (made, r)
  | n + 1, made, s => do
    let (name, r) ← readName (skip s)
    match skip r with
    | '=' :: r =>
      let (j, r) ← readValue n r
      let made := SortedMap.insertEntry name j made
      match r with
      | ',' :: r => readMembers n made r
      | '\x7d' :: r => return (made, r)
      | _ => none
    | _ => none

end

/-- The value of a text. What has none of the other forms is a text. -/
def read (text : String) : Json :=
  match readValue (text.length + 1) text.toList with
  | some (j, []) => j
  | _ => .string text

end Registrar.Settings.Literal
