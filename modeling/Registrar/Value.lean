import Registrar.Address
import Registrar.Assoc
import Registrar.Decimal

/-!
This module contains the values that expressions resolve to, and the views of them that other
modules work with: their text, their fields, and whether they are empty.
-/

namespace Registrar

/-- A point of the first curve group in affine coordinates. -/
structure G1Point where
  x : Word
  y : Word
deriving Repr, DecidableEq, Inhabited

/-- A point of the second curve group, each coordinate being two field elements. -/
structure G2Point where
  x : Word × Word
  y : Word × Word
deriving Repr, DecidableEq, Inhabited

inductive Value where
  | bool (b : Bool)
  /-- A signed integer in two's complement. -/
  | int (w : Word)
  | uint (w : Word)
  | string (s : String)
  | bytes (b : Bytes)
  | address (a : Address)
  | array (items : List Value)
  /-- Named fields in order; of fields with one name the first counts. -/
  | record (fields : List (String × Value))
  | g1 (p : G1Point)
  | g2 (p : G2Point)
deriving Repr, BEq, Inhabited

/-- The fields of a record, in order. -/
abbrev Record := List (String × Value)

def G1Point.toRecord (p : G1Point) : Record :=
  [("X", .uint p.x), ("Y", .uint p.y)]

def G2Point.toRecord (p : G2Point) : Record :=
  [("X", .array [.uint p.x.1, .uint p.x.2]), ("Y", .array [.uint p.y.1, .uint p.y.2])]

def G1Point.bytes (p : G1Point) : Bytes :=
  p.x.bytes ++ p.y.bytes

namespace Value

def typeName : Value → String
  | .bool _ => "bool"
  | .int _ => "int"
  | .uint _ => "uint"
  | .string _ => "string"
  | .bytes _ => "bytes"
  | .address _ => "address"
  | .array _ => "array"
  | .record _ => "record"
  | .g1 _ => "g1 point"
  | .g2 _ => "g2 point"

/-- Whether a value counts as missing where one is required. Numbers, addresses and points never
do. -/
def isEmpty : Value → Bool
  | .string s => s.isEmpty
  | .bytes b => b.isEmpty
  | .array items => items.isEmpty
  | .record fields => fields.isEmpty
  | _ => false

/-- The fields of a value that has some: a record's own, or a point's coordinates. -/
def asRecord? : Value → Option Record
  | .record fields => some fields
  | .g1 p => some p.toRecord
  | .g2 p => some p.toRecord
  | _ => none

/-- Put texts between an opening and a closing bracket, with commas between them. -/
def bracket (opening closing : Char) (parts : List String) : String :=
  String.singleton opening ++ ",".intercalate parts ++ String.singleton closing

mutual

def text : Value → String
  | .bool b => if b then "true" else "false"
  | .int w => Decimal.intText w.toInt
  | .uint w => Decimal.text w.toNat
  | .string s => s
  | .bytes b => Hex.encodeMarked b
  | .address a => a.text
  | .array items => bracket '[' ']' (texts items)
  | .record fields => bracket '\x7b' '\x7d' (fieldTexts fields)
  | .g1 p =>
    bracket '\x7b' '\x7d' ["X:" ++ Decimal.text p.x.toNat, "Y:" ++ Decimal.text p.y.toNat]
  | .g2 p =>
    bracket '\x7b' '\x7d'
      ["X:" ++ bracket '[' ']' [Decimal.text p.x.1.toNat, Decimal.text p.x.2.toNat],
       "Y:" ++ bracket '[' ']' [Decimal.text p.y.1.toNat, Decimal.text p.y.2.toNat]]

def texts : List Value → List String
  | [] => []
  | v :: r => text v :: texts r

/-- The texts of the fields of a record, each behind its name. -/
def fieldTexts : List (String × Value) → List String
  | [] => []
  | (name, v) :: r => (name ++ ":" ++ text v) :: fieldTexts r

end

theorem text_g1 (p : G1Point) : text (.g1 p) = text (.record p.toRecord) := by
  simp [text, G1Point.toRecord, fieldTexts]

theorem text_g2 (p : G2Point) : text (.g2 p) = text (.record p.toRecord) := by
  simp [text, G2Point.toRecord, fieldTexts, texts]

end Value

end Registrar
