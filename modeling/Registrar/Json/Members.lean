import Registrar.Json.Basic

/-!
This module contains how parts of a document with fixed members are taken apart. Members that have
no meaning are ignored, a member with a meaning stands there at most once, and a part may also be
written as an array of its members in order, where members with a default may be missing at the end.
-/

namespace Registrar.Json

/-- The members of a part of a document: `none` for one that is not there. -/
abbrev Members := List (Option Json)

/-- The one member of the given name, if there is at most one. -/
def single? (members : List (String × Json)) (name : String) : Option (Option Json) :=
  match members.filter fun m => m.1 = name with
  | [] => some none
  | [m] => some (some m.2)
  | _ => none

def members? (names : List String) : Json → Option Members
  | .object members => names.mapM (single? members)
  | .array items =>
    if items.length ≤ names.length then
      some (items.map some ++ List.replicate (names.length - items.length) none)
    else none
  | _ => none

def required {α : Type} (read : Json → Option α) : Option Json → Option α
  | some j => read j
  | none => none

def optional {α : Type} (default : α) (read : Json → Option α) : Option Json → Option α
  | some j => read j
  | none => some default

def list {α : Type} (read : Json → Option α) (j : Json) : Option (List α) :=
  j.asArray? >>= List.mapM read

def nullable {α : Type} (read : Json → Option α) : Json → Option (Option α)
  | .null => some none
  | j => (read j).map some

/-- The name of a choice without content: a text, or an object with one member that has no content. -/
def choice? (isEmpty : Json → Bool) : Json → Option String
  | .string name => some name
  | .object [(name, content)] => if isEmpty content then some name else none
  | _ => none

/-- A number that is an integer, not negative, and below a bound. -/
def below? (bound : Nat) (j : Json) : Option Nat :=
  j.asNat?.filter (· < bound)

end Registrar.Json
