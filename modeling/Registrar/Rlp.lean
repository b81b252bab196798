import Registrar.Bytes

/-!
This module contains the binary form of nested lists of byte strings, in which the length of every
part stands in front of it.
-/

namespace Registrar

/-- A byte string, or a list. -/
inductive Rlp where
  | bytes (b : Bytes)
  | list (items : List Rlp)
deriving Repr, BEq, Inhabited

namespace Rlp

def minimal (n : Nat) : Bytes :=
  (Bytes.ofNat (n.log2 / 8 + 1) n).dropWhile (· == 0)

def ofNat (n : Nat) : Rlp :=
  .bytes (minimal n)

def header (base : Nat) (length : Nat) : Bytes :=
  if length ≤ 55 then [UInt8.ofNat (base + length)]
  else
    let l := minimal length
    UInt8.ofNat (base + 55 + l.length) :: l

mutual

def encode : Rlp → Bytes
  | .bytes b =>
    match b with
    | [x] => if x < 0x80 then [x] else header 0x80 1 ++ [x]
    | b => header 0x80 b.length ++ b
  | .list items =>
    let content := encodeItems items
    header 0xc0 content.length ++ content

/-- The binary forms of the items of a list, one behind the other. -/
def encodeItems : List Rlp → Bytes
  | [] => []
  | i :: r => encode i ++ encodeItems r

end

end Rlp

end Registrar
