import Registrar.Kind

/-!
This module contains the types of contract parameters and their names.
-/

namespace Registrar

inductive AbiType where
  | bool
  | int (bits : Nat)
  | uint (bits : Nat)
  | fixedBytes (size : Nat)
  | address
  | function
  | bytes
  | string
  | array (item : AbiType)
  | fixedArray (item : AbiType) (length : Nat)
  | tuple (items : List AbiType)
deriving Repr, BEq, Inhabited

namespace AbiType

def kind? : AbiType → Option Kind
  | .bool => some .bool
  | .int bits => some (.int bits)
  | .uint bits => some (.uint bits)
  | .string => some .string
  | .address => some .address
  | _ => none

/-- Put the names of types between parentheses; a lone one is followed by a comma. -/
def tupleName : List String → String
  | [name] => "(" ++ name ++ ",)"
  | names => "(" ++ ",".intercalate names ++ ")"

mutual

def name : AbiType → String
  | .bool => "bool"
  | .int bits => "int" ++ Decimal.text bits
  | .uint bits => "uint" ++ Decimal.text bits
  | .fixedBytes size => "bytes" ++ Decimal.text size
  | .address => "address"
  | .function => "function"
  | .bytes => "bytes"
  | .string => "string"
  | .array item => name item ++ "[]"
  | .fixedArray item length => name item ++ "[" ++ Decimal.text length ++ "]"
  | .tuple items => tupleName (names items)

def names : List AbiType → List String
  | [] => []
  | t :: r => name t :: names r

end

mutual

def isDynamic : AbiType → Bool
  | .bytes => true
  | .string => true
  | .array _ => true
  | .fixedArray item _ => isDynamic item
  | .tuple items => anyDynamic items
  | _ => false

def anyDynamic : List AbiType → Bool
  | [] => false
  | t :: r => isDynamic t || anyDynamic r

end

end AbiType

end Registrar
