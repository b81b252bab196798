import Registrar.Conversion.Integer
import Registrar.Value

/-!
This module contains the conversion of values to kinds. Text, numbers and, for some kinds, booleans
and addresses are converted through their text; every other value passes unchanged, so that the
encoding of a parameter decides about it.
-/

namespace Registrar.Value

/-- The text through which a value is converted to a kind, if it is converted at all. -/
def sourceText? (kind : Kind) : Value → Option String
  | .string s => some s
  | .int w => some (Decimal.intText w.toInt)
  | .uint w => some (Decimal.text w.toNat)
  | .bool b =>
    if kind = .bool ∨ kind = .string then some (if b then "true" else "false") else none
  | .address a => if kind = .string then some a.text else none
  | _ => none

/-- The boolean a text denotes, letters of either case being equal. -/
def readBool (text : List Char) : Except ReadFault Bool :=
  let s := String.ofList (text.map Char.toLower)
  if s = "true" ∨ s = "1" then .ok true
  else if s = "false" ∨ s = "0" then .ok false
  else .error .notBoolean

def ofText (kind : Kind) (text : String) : Except ReadFault Value :=
  match kind with
  | .bool => (readBool text.toList).map .bool
  | .uint bits => (Integer.readUnsigned bits text.toList).map fun n => .uint (BitVec.ofNat 256 n)
  | .int bits => (Integer.readSigned bits text.toList).map fun i => .int (BitVec.ofInt 256 i)
  | .string => .ok (.string text)
  | .address => (Address.read text.toList).mapError .notHex |>.map .address

def convert (kind : Kind) (v : Value) : Except ConversionError Value :=
  match v.sourceText? kind with
  | none => .ok v
  | some text => (ofText kind text).mapError (.parse text kind.name)

def convertNamed (kind : String) (v : Value) : Except ConversionError Value :=
  match Kind.ofName? kind with
  | none => .error (.unsupportedKind kind)
  | some kind => v.convert kind

/-- The integer of a word, if it is one of 64 bits. -/
def narrow (w : Word) : Except ConversionError Int :=
  if Integer.fitsSigned 64 w.toInt then .ok w.toInt
  else .error (.parse (Decimal.intText w.toInt) "int64" .beyondNarrowing)

def toInt64 (v : Value) : Except ConversionError Int := do
  match ← v.convert (.int 64) with
  | .int w => narrow w
  | other => .error (.coercion other.text "int64")

/-- The bytes of a value that serves as key material or is hashed. Text behind the marker `0x` is
hexadecimal, other text counts as its UTF-8 form. -/
def toBytes (v : Value) : Except ConversionError Bytes :=
  match v with
  | .bytes b => .ok b
  | .string s =>
    match Text.stripStart? "0x".toList s.toList with
    | some digits => (Hex.decode (Bytes.ofText digits)).mapError fun f => .parse s "bytes" (.notHex f)
    | none => .ok (Bytes.ofString s)
  | .address a => .ok a.bytes
  | .uint w => .ok w.bytes
  | .int w => .ok w.bytes
  | other => .error (.coercion other.text "bytes")

def toDigest (v : Value) : Except ConversionError Bytes := do
  let b ← v.toBytes
  if b.length = 32 then .ok b else .error (.coercion v.text "bytes32")

end Registrar.Value
