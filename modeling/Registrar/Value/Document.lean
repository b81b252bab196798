import Registrar.Json.Basic
import Registrar.Value

/-!
This module contains the values that documents stand for. Integers of 64 bits become numbers; every
other number becomes its text, so that it is never taken for an integer it is only close to.
-/

namespace Registrar.Value

def ofNumber : Json.Number → Value
  | .unsigned n => .uint (BitVec.ofNat 256 n.toNat)
  | .negative i => .int (BitVec.ofInt 256 i.toInt)
  | n => .string n.text

mutual

/-- The value of a document. Nothing, and what is broken, is the empty text. -/
def ofJson : Json → Value
  | .null => .string ""
  | .bool b => .bool b
  | .number n => ofNumber n
  | .string s => .string s
  | .array items => .array (ofJsonItems items)
  | .object members => .record (ofJsonMembers members)
  | .broken => .string ""

def ofJsonItems : List Json → List Value
  | [] => []
  | j :: r => ofJson j :: ofJsonItems r

def ofJsonMembers : List (String × Json) → List (String × Value)
  | [] => []
  | (name, j) :: r => (name, ofJson j) :: ofJsonMembers r

end

end Registrar.Value
