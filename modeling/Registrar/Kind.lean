import Registrar.Decimal
import Registrar.Text.Cut

/-!
This module contains the kinds of primitive parameters and their names.
-/

namespace Registrar

inductive Kind where
  | bool
  | int (bits : Nat)
  | uint (bits : Nat)
  | string
  | address
deriving Repr, DecidableEq, Inhabited

namespace Kind

def defaultBits : Nat := 64

/-- The widths an integer kind can have: whole bytes, from one to thirty-two. -/
def isWidth (bits : Nat) : Bool :=
  bits % 8 = 0 && 8 ≤ bits && bits ≤ 256

def width? (digits : List Char) : Option Nat :=
  if digits.isEmpty then some defaultBits
  else (Decimal.readPlus? digits).filter isWidth

def ofName? (name : String) : Option Kind :=
  if name = "bool" then some .bool
  else if name = "string" then some .string
  else if name = "address" then some .address
  else
    match Text.stripStart? "uint".toList name.toList with
    | some digits => (width? digits).map .uint
    | none =>
      match Text.stripStart? "int".toList name.toList with
      | some digits => (width? digits).map .int
      | none => none

/-- The name of a kind, which gives the width of every integer kind. -/
def name : Kind → String
  | .bool => "bool"
  | .int bits => "int" ++ Decimal.text bits
  | .uint bits => "uint" ++ Decimal.text bits
  | .string => "string"
  | .address => "address"

end Kind

end Registrar
