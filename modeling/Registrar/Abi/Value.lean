import Registrar.Address
import Registrar.Abi.Type

/-!
This module contains the values of contract parameters. Numbers and short byte strings fill a word,
whatever their width; the width is kept beside them.
-/

namespace Registrar

inductive AbiValue where
  | bool (b : Bool)
  /-- A signed integer in two's complement. -/
  | int (w : Word) (bits : Nat)
  | uint (w : Word) (bits : Nat)
  /-- The first `size` bytes of a word. -/
  | fixedBytes (w : Word) (size : Nat)
  | address (a : Address)
  /-- An address and a selector, twenty-four bytes. -/
  | function (b : Bytes)
  | bytes (b : Bytes)
  | string (s : String)
  | array (items : List AbiValue)
  | fixedArray (items : List AbiValue)
  | tuple (items : List AbiValue)
deriving Repr, BEq, Inhabited

namespace AbiValue

mutual

def isDynamic : AbiValue → Bool
  | .bytes _ => true
  | .string _ => true
  | .array _ => true
  | .fixedArray items => firstDynamic items
  | .tuple items => anyDynamic items
  | _ => false

def firstDynamic : List AbiValue → Bool
  | [] => false
  | v :: _ => isDynamic v

def anyDynamic : List AbiValue → Bool
  | [] => false
  | v :: r => isDynamic v || anyDynamic r

end

end AbiValue

end Registrar
