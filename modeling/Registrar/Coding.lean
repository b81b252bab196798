import Registrar.Abi.Param
import Registrar.Abi.Value
import Registrar.Conversion

/-!
This module contains the passage between values and the values of contract parameters. The fields of
a record go to the components of a tuple by name if all components are named, and by position
otherwise; coming back, a component without a name is named by its position.
-/

namespace Registrar.Value

def coercion (v : Value) (t : AbiType) : ConversionError :=
  .coercion v.text t.name

/-- Encode a value that has been converted to the kind of a primitive type. A byte string given to
an unsigned type is a number of at most 32 bytes, whatever the width of the type. -/
def encodePrimitive (t : AbiType) (v : Value) : Except ConversionError AbiValue :=
  match t, v with
  | .bool, .bool b => .ok (.bool b)
  | .uint bits, .uint w => .ok (.uint w bits)
  | .uint bits, .bytes b =>
    if b.length ≤ 32 then .ok (.uint (Word.ofBytes b) bits) else .error (v.coercion t)
  | .int bits, .int w => .ok (.int w bits)
  | .address, .address a => .ok (.address a)
  | .string, .string s => .ok (.string s)
  | _, _ => .error (v.coercion t)

def leftAligned (b : Bytes) : Word :=
  Word.ofBytes (b ++ List.replicate (32 - b.length) 0)

/-- Whether the components of a tuple of `arity` items all have names. -/
def isFullyNamed (components : List Param) (arity : Nat) : Bool :=
  components.length = arity && components.all fun p => !p.name.isEmpty

mutual

def encodeAs : AbiType → List Param → Value → Except ConversionError AbiValue
  | .fixedBytes size, _, v => do
    let b ← v.toBytes
    if b.length = size then .ok (.fixedBytes (leftAligned b) size)
    else .error (v.coercion (.fixedBytes size))
  | .bytes, _, v => do
    let b ← v.toBytes
    .ok (.bytes b)
  | .array item, components, v =>
    match v with
    | .array items => do
      let vs ← items.mapM (encodeAs item components)
      .ok (.array vs)
    | v => .error (v.coercion (.array item))
  | .fixedArray item length, components, v =>
    match v with
    | .array items =>
      if items.length = length then do
        let vs ← items.mapM (encodeAs item components)
        .ok (.fixedArray vs)
      else .error (v.coercion (.fixedArray item length))
    | v => .error (v.coercion (.fixedArray item length))
  | .tuple items, components, v =>
    match v.asRecord? with
    | none => .error (v.coercion (.tuple items))
    | some fields =>
      if isFullyNamed components items.length then do
        let vs ← encodeNamed items components fields
        .ok (.tuple vs)
      else if fields.length = items.length then do
        let vs ← encodePositional items components (fields.map (·.2))
        .ok (.tuple vs)
      else
        .error (.coercion (Value.record fields).text
          ("tuple of " ++ Decimal.text items.length ++ " fields"))
  | .function, _, v => .error (v.coercion .function)
  | .bool, _, v => do encodePrimitive .bool (← v.convert .bool)
  | .int bits, _, v => do encodePrimitive (.int bits) (← v.convert (.int bits))
  | .uint bits, _, v => do encodePrimitive (.uint bits) (← v.convert (.uint bits))
  | .string, _, v => do encodePrimitive .string (← v.convert .string)
  | .address, _, v => do encodePrimitive .address (← v.convert .address)

def encodeNamed : List AbiType → List Param → Record → Except ConversionError (List AbiValue)
  | t :: ts, p :: ps, fields =>
    match Assoc.find? p.name fields with
    | none => .error (.missingField p.name)
    | some v => do
      let w ← encodeAs t p.components v
      let ws ← encodeNamed ts ps fields
      .ok (w :: ws)
  | _, _, _ => .ok []

/-- Encode values for the items of a tuple in order. Components may be missing at the end. -/
def encodePositional : List AbiType → List Param → List Value →
    Except ConversionError (List AbiValue)
  | t :: ts, ps, v :: vs => do
    let w ← encodeAs t ((ps.head?.map Param.components).getD []) v
    let ws ← encodePositional ts ps.tail vs
    .ok (w :: ws)
  | _, _, _ => .ok []

end

/-- The name of the component at a position: its own, or the position if it has none. -/
def componentName (position : Nat) (p : Option Param) : String :=
  match p with
  | some p => if p.name.isEmpty then Decimal.text position else p.name
  | none => Decimal.text position

mutual

def ofAbi (components : List Param) : AbiValue → Value
  | .bool b => .bool b
  | .int w _ => .int w
  | .uint w _ => .uint w
  | .fixedBytes w size => .bytes (w.bytes.take size)
  | .address a => .address a
  | .function b => .bytes b
  | .bytes b => .bytes b
  | .string s => .string s
  | .array items => .array (ofAbiItems components items)
  | .fixedArray items => .array (ofAbiItems components items)
  | .tuple items => .record (ofAbiFields components 0 items)

def ofAbiItems (components : List Param) : List AbiValue → List Value
  | [] => []
  | v :: r => ofAbi components v :: ofAbiItems components r

/-- The fields of a tuple that a contract returned, from a position on. -/
def ofAbiFields (components : List Param) (position : Nat) :
    List AbiValue → List (String × Value)
  | [] => []
  | v :: r =>
    (componentName position components.head?,
      ofAbi ((components.head?.map Param.components).getD []) v) ::
      ofAbiFields components.tail (position + 1) r

end

end Registrar.Value
