import Registrar.Assoc
import Registrar.Text.Alphanumeric
import Registrar.Text.Cut

/-!
This module contains files with variables for the environment, `NAME=value` on each line. Values may
be quoted, in which case they may go on behind the end of a line, and outside single quotes `$NAME`
stands for the value of another variable.
-/

namespace Registrar.EnvironmentFile

abbrev Variables := List (String × String)

/-! ## Lines -/

inductive Place where
  /-- Behind nothing but blanks. -/
  | margin
  | text
  /-- Behind a blank. -/
  | blank
  /-- Behind a backslash. -/
  | escape
  | quoted (mark : Char)
  /-- Behind a backslash in quotes. -/
  | quotedEscape (mark : Char)
  | comment
deriving Repr, DecidableEq

def Place.isQuoted : Place → Bool
  | .quoted _ => true
  | .quotedEscape _ => true
  | _ => false

/-- The place behind a character. A comment begins behind a single blank, or with its line. -/
def Place.next (place : Place) (c : Char) : Place :=
  let outside : Place :=
    if c = '\\' then .escape else if c = '"' || c = '\'' then .quoted c else .text
  match place with
  | .margin => if c = '#' then .comment else if Text.isBlank c then .margin else outside
  | .text => if Text.isBlank c && c ≠ '\r' then .blank else outside
  | .blank => if c = '#' then .comment else outside
  | .escape => .text
  | .quoted mark =>
    if c = '\\' then .quotedEscape mark else if c = mark then .text else .quoted mark
  | .quotedEscape mark => .quoted mark
  | .comment => .comment

/-- The lines of a text without their comments. What the first line begins with is given, the last
character first. A last line that is not closed is no line. -/
def lines (place : Place) (line : List Char) : List Char → List (List Char)
  | [] => if place = .text ∨ place = .comment then [line.reverse] else []
  | c :: r =>
    if c = '\n' ∧ !place.isQuoted then line.reverse :: lines .margin [] r
    else
      let next := place.next c
      lines next (if next = .comment then line else c :: line) r

/-! ## Values -/

inductive Phase where
  | text
  | escaped
  | single
  /-- The name behind a dollar sign, as far as it is read. -/
  | name (read : List Char)
  /-- The name in braces behind a dollar sign, as far as it is read. -/
  | braced (read : List Char)
  /-- Behind the blank that ends a value without quotes. -/
  | ended
deriving Repr, DecidableEq

def escaped? (c : Char) : Option Char :=
  if c = '\\' ∨ c = '\'' ∨ c = '"' ∨ c = '$' ∨ c = ' ' then some c
  else if c = 'n' then some '\n'
  else none

/-- The value of the named variable, or nothing. -/
def lookup (known : Variables) (name : List Char) : List Char :=
  ((Assoc.find? (String.ofList name) known).getD "").toList

/-- Read a value up to the end of its line; `double` tells whether double quotes are open. The
character that ends a name belongs to the value, whatever it is. -/
def readValue? (known : Variables) : Phase → (double : Bool) → List Char → Option (List Char)
  | .single, _, [] => none
  | .braced _, _, [] => none
  | .name name, double, [] => if double then none else some (lookup known name)
  | _, double, [] => if double then none else some []
  | .ended, double, c :: r =>
    if c = ' ' ∨ c = '\t' then readValue? known .ended double r
    else if c = '#' then some []
    else none
  | .escaped, double, c :: r => do
    let c ← escaped? c
    let s ← readValue? known .text double r
    return c :: s
  | .single, double, c :: r =>
    if c = '\'' then readValue? known .text double r
    else (readValue? known .single double r).map (c :: ·)
  | .name name, double, c :: r =>
    if Text.isAlphanumeric c then readValue? known (.name (name ++ [c])) double r
    else if c = '\x7b' ∧ name.isEmpty then readValue? known (.braced []) double r
    else if c = '$' then (readValue? known (.name []) double r).map (lookup known name ++ ·)
    else (readValue? known .text double r).map (lookup known name ++ c :: ·)
  | .braced name, double, c :: r =>
    if c = '\x7d' then (readValue? known .text double r).map (lookup known name ++ ·)
    else readValue? known (.braced (name ++ [c])) double r
  | .text, double, c :: r =>
    if c = '$' then readValue? known (.name []) double r
    else if c = '\\' then readValue? known .escaped double r
    else if c = '"' then readValue? known .text (!double) r
    else if c = '\'' ∧ !double then readValue? known .single double r
    else if (c = ' ' ∨ c = '\t') ∧ !double then readValue? known .ended double r
    else (readValue? known .text double r).map (c :: ·)

/-! ## Variables -/

/-- The name in front of a line, and the rest. -/
def readKey? (s : List Char) : Option (String × List Char) :=
  let isKey (c : Char) : Bool := c.isAlphanum || c = '_' || c = '.'
  match s with
  | [] => none
  | c :: _ =>
    if c.isAlpha || c = '_' then
      some (String.ofList (s.takeWhile isKey), Text.trimStart (s.dropWhile isKey))
    else none

/-- The name and the text of the value on a line; the word `export` may stand in front. -/
def readAssignment? (s : List Char) : Option (String × List Char) := do
  let (key, r) ← readKey? s
  match r with
  | '=' :: r => return (key, Text.trimStart r)
  | r =>
    if key ≠ "export" then none
    let (key, r) ← readKey? r
    match r with
    | '=' :: r => return (key, Text.trimStart r)
    | _ => none

/-- Read a line: a variable, or nothing. -/
def readLine? (known : Variables) (line : List Char) : Option (Option (String × String)) :=
  match Text.trim line with
  | [] => some none
  | '#' :: _ => some none
  | s => do
    let (key, text) ← readAssignment? s
    match text with
    | '#' :: _ => return some (key, "")
    | text =>
      let value ← readValue? known .text false text
      return some (key, String.ofList value)

/-- Add the variables on lines to those that are known, which go before them. Nothing is read behind
a line that is not understood. -/
def addLines (known : Variables) : List (List Char) → Variables
  | [] => known
  | line :: r =>
    match readLine? known line with
    | none => known
    | some none => addLines known r
    | some (some (name, value)) =>
      addLines (if (Assoc.find? name known).isSome then known else known ++ [(name, value)]) r

/-- Add the variables of a file to those that are known. A mark of the byte order in front has no
meaning. -/
def load (known : Variables) (text : String) : Variables :=
  let s :=
    match text.toList with
    | '\ufeff' :: r => r
    | s => s
  addLines known (lines .margin [] s)

end Registrar.EnvironmentFile
