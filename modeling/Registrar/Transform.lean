import Registrar.Text.Cut
import Registrar.Value

/-!
This module contains the transforms, which reshape a value that has been resolved:

- `[]byte(a, b)` joins the bytes of the named fields, or of all fields when none is named;
- `struct(A:a, B:b)` makes a record of the named fields under new names.
-/

namespace Registrar

inductive TransformError where
  | unknownTransform (name : String)
  | malformed (text : String)
  | notARecord (transform : String) (value : String)
  | missingField (transform : String) (field : String)
deriving Repr, DecidableEq

def TransformError.message : TransformError → String
  | .unknownTransform name => "unknown transform " ++ name
  | .malformed text => "malformed transform " ++ text
  | .notARecord transform value =>
    "transform " ++ transform ++ " requires a record, got " ++ value
  | .missingField transform field =>
    "transform " ++ transform ++ " references missing field " ++ field

namespace Value

mutual

/-- The bytes of the leaves of a value, in order: a word for a number or a boolean, and an
address, a byte string or a text as it is. -/
def leafBytes : Value → Bytes
  | .bool b => Word.bytes (if b then 1 else 0)
  | .int w => w.bytes
  | .uint w => w.bytes
  | .string s => Bytes.ofString s
  | .bytes b => b
  | .address a => a.bytes
  | .array items => itemBytes items
  | .record fields => fieldBytes fields
  | .g1 p => p.bytes
  | .g2 p => p.x.1.bytes ++ p.x.2.bytes ++ (p.y.1.bytes ++ p.y.2.bytes)

def itemBytes : List Value → Bytes
  | [] => []
  | v :: r => leafBytes v ++ itemBytes r

def fieldBytes : List (String × Value) → Bytes
  | [] => []
  | (_, v) :: r => leafBytes v ++ fieldBytes r

end

end Value

namespace Transform

/-- The text of a transform: its name, and what stands between its parentheses, cut at commas
without the blank items. -/
structure Call where
  name : String
  items : List String
deriving Repr, DecidableEq

/-- Read the text of a transform. The first parenthesis opens its items and the last character
closes them. -/
def Call.read? (text : List Char) : Option Call := do
  let (name, rest) ← Text.cut? '(' text
  let inner ← Text.stripLast? ')' rest
  let items := ((Text.fields ',' inner).map Text.trim).filter fun item => !item.isEmpty
  return ⟨String.ofList (Text.trim name), items.map String.ofList⟩

/-- The names that an item of a `struct` relates: the new one and that of the source. -/
def mapping? (item : String) : Option (String × String) :=
  match Text.cut? ':' item.toList with
  | none => none
  | some (target, source) =>
    let target := Text.trim target
    let source := Text.trim source
    if target.isEmpty || source.isEmpty then none
    else some (String.ofList target, String.ofList source)

/-- The bytes of the named fields, in the order of the names. -/
def selectBytes (expression : String) (record : Record) :
    (names : List String) → Except TransformError Bytes
  | [] => .ok []
  | name :: r =>
    match Assoc.find? name record with
    | none => .error (.missingField expression name)
    | some v => (selectBytes expression record r).map (v.leafBytes ++ ·)

/-- Join the bytes of the named fields, or of all fields if there are no names. -/
def flatten (expression : String) (record : Record) (names : List String) :
    Except TransformError Value :=
  if names.isEmpty then .ok (.bytes (Value.fieldBytes record))
  else (selectBytes expression record names).map .bytes

def project (expression : String) (source : Record) (made : Record) :
    (items : List String) → Except TransformError Value
  | [] => .ok (.record made)
  | item :: r =>
    match mapping? item with
    | none => .error (.malformed item)
    | some (target, field) =>
      match Assoc.find? field source with
      | none => .error (.missingField expression field)
      | some v => project expression source (Assoc.insert target v made) r

def apply (text : String) (v : Value) : Except TransformError Value :=
  let expression := Text.trim text.toList
  let shown := String.ofList expression
  match Call.read? expression with
  | none => .error (.malformed shown)
  | some call =>
    if call.name = "[]byte" then
      match v.asRecord? with
      | none => .error (.notARecord shown v.text)
      | some record => flatten shown record call.items
    else if call.name = "struct" then
      match v.asRecord? with
      | none => .error (.notARecord shown v.text)
      | some record => project shown record [] call.items
    else .error (.unknownTransform call.name)

end Transform

end Registrar
