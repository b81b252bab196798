import Registrar.Json.Number
import Registrar.SortedMap

/-!
This module contains documents. A document as written keeps the order of members and all
repetitions; a document in normal form has every object's members in the order of their names, of
repeated members the last one, only numbers that floating point can represent, and only whole
characters.
-/

namespace Registrar

inductive Json where
  | null
  | bool (b : Bool)
  | number (n : Json.Number)
  | string (s : String)
  | array (items : List Json)
  | object (members : List (String × Json))
  /-- A text that holds half of a character, or an object with such a name. -/
  | broken
deriving Repr, BEq, Inhabited

namespace Json

def depthLimit : Nat := 127

mutual

/-- The normal form of a document whose arrays and objects are nested at most `depth` deep. -/
def normalizeWithin : (depth : Nat) → Json → Option Json
  | _, .null => some .null
  | _, .bool b => some (.bool b)
  | _, .number .beyond => none
  | _, .number n => some (.number n)
  | _, .string s => some (.string s)
  | 0, .array _ => none
  | depth + 1, .array items => (normalizeItems depth items).map .array
  | 0, .object _ => none
  | depth + 1, .object members => (normalizeMembers depth [] members).map .object
  | _, .broken => none

def normalizeItems : (depth : Nat) → List Json → Option (List Json)
  | _, [] => some []
  | depth, j :: r => do
    let j ← normalizeWithin depth j
    let r ← normalizeItems depth r
    return j :: r

def normalizeMembers : (depth : Nat) → (made : List (String × Json)) → List (String × Json) →
    Option (List (String × Json))
  | _, made, [] => some made
  | depth, made, (name, j) :: r => do
    let j ← normalizeWithin depth j
    normalizeMembers depth (SortedMap.insertEntry name j made) r

end

def normalize (j : Json) : Option Json :=
  normalizeWithin depthLimit j

/-- The first member of the given name, if the document is an object that has one. -/
def member? (name : String) : Json → Option Json
  | .object members => Assoc.find? name members
  | _ => none

def asString? : Json → Option String
  | .string s => some s
  | _ => none

def asBool? : Json → Option Bool
  | .bool b => some b
  | _ => none

def asArray? : Json → Option (List Json)
  | .array items => some items
  | _ => none

def asObject? : Json → Option (List (String × Json))
  | .object members => some members
  | _ => none

def asNat? : Json → Option Nat
  | .number (.unsigned n) => some n.toNat
  | _ => none

end Json

end Registrar
