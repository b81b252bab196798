import Registrar.Abi.Type
import Registrar.Power
import Registrar.Text.Cut

/-!
This module contains the parameters that contract interfaces declare, and the notation of their
types: an identifier or a list of types in parentheses, followed by array sizes. A parameter with
components is a tuple of them, and only the array sizes of its type count.
-/

namespace Registrar

structure Param where
  name : String := ""
  type : String
  components : List Param := []
deriving Repr, BEq, Inhabited

inductive TypeName where
  | named (name : String)
  | tuple (items : List TypeName)
  /-- An array of a fixed length, or of any length. -/
  | array (item : TypeName) (length : Option Nat)
deriving Repr, BEq, Inhabited

def isIdentifierStart (c : Char) : Bool :=
  c.isAlpha || c = '_' || c = '$'

def isIdentifierRest (c : Char) : Bool :=
  c.isAlphanum || c = '_' || c = '$'

def isIdentifier : List Char → Bool
  | [] => false
  | c :: r => isIdentifierStart c && r.all isIdentifierRest

namespace TypeName

/-- The identifier in front of a text, and the rest. -/
def readIdentifier : List Char → Option (List Char × List Char)
  | [] => none
  | c :: r =>
    if isIdentifierStart c then
      some (c :: r.takeWhile isIdentifierRest, r.dropWhile isIdentifierRest)
    else none

/-- Read the name of a type. An enumeration of a library, `L.E`, stands for its number. -/
def readNamed (s : List Char) : Option (TypeName × List Char) := do
  let (name, r) ← readIdentifier s
  match r with
  | '.' :: r =>
    let (_, r) ← readIdentifier r
    return (.named "uint8", r)
  | r => return (.named (String.ofList name), r)

/-- The length between the brackets of an array: none, or a positive number of 64 bits. -/
def readLength (digits : List Char) : Option (Option Nat) :=
  if digits.isEmpty then some none
  else ((Decimal.read? digits).filter fun n => 0 < n && n < 2 ^ 64).map some

def readSizes : Nat → TypeName → List Char → Option (TypeName × List Char)
  | fuel + 1, t, '[' :: r =>
    match r.dropWhile Char.isDigit with
    | ']' :: rest => do
      let length ← readLength (r.takeWhile Char.isDigit)
      readSizes fuel (.array t length) rest
    | _ => none
  | 0, _, '[' :: _ => none
  | _, t, s => some (t, s)

mutual

def readFront : Nat → List Char → Option (TypeName × List Char)
  | 0, _ => none
  | fuel + 1, s => do
    let (t, r) ←
      match (Text.stripStart? "tuple(".toList s).or (Text.stripStart? ['('] s) with
      | some r => (readItems fuel r).map fun (items, r) => (tuple items, r)
      | none => readNamed s
    readSizes s.length t r

/-- Read the types of a tuple up to its closing parenthesis. Blanks may stand behind a comma, and the
last type may have one too. -/
def readItems : Nat → List Char → Option (List TypeName × List Char)
  | 0, _ => none
  | fuel + 1, s =>
    match s with
    | ')' :: r => some ([], r)
    | s => do
      let (t, r) ← readFront fuel s
      match r with
      | ')' :: r => return ([t], r)
      | ',' :: ')' :: r => return ([t], r)
      | ',' :: r =>
        let r := r.dropWhile fun c => c = ' ' || c = '\t'
        if r.head? = some ')' then none
        let (ts, r) ← readItems fuel r
        return (t :: ts, r)
      | _ => none

end

def read? (text : String) : Option TypeName :=
  match readFront (2 * text.length + 2) text.toList with
  | some (t, []) => some t
  | _ => none

/-- The type of an identifier, if it names one. -/
def resolveName (name : String) : Option AbiType :=
  if name = "address" then some .address
  else if name = "function" then some .function
  else if name = "bool" then some .bool
  else if name = "string" then some .string
  else if name = "bytes" then some .bytes
  else if name = "uint" then some (.uint 256)
  else if name = "int" then some (.int 256)
  else
    match Text.stripStart? "bytes".toList name.toList with
    | some digits =>
      ((Decimal.read? digits).filter fun n => 1 ≤ n && n ≤ 32).map .fixedBytes
    | none =>
      match Text.stripStart? "uint".toList name.toList with
      | some digits => ((Decimal.read? digits).filter Kind.isWidth).map .uint
      | none =>
        match Text.stripStart? "int".toList name.toList with
        | some digits => ((Decimal.read? digits).filter Kind.isWidth).map .int
        | none => none

mutual

def resolve : TypeName → Option AbiType
  | .named name => resolveName name
  | .tuple items => (resolveItems items).map .tuple
  | .array item none => (resolve item).map .array
  | .array item (some n) => (resolve item).map fun t => .fixedArray t n

def resolveItems : List TypeName → Option (List AbiType)
  | [] => some []
  | t :: r => do
    let t ← resolve t
    let r ← resolveItems r
    return t :: r

end

def withSizes (stem : AbiType) : TypeName → AbiType
  | .array item none => .array (withSizes stem item)
  | .array item (some n) => .fixedArray (withSizes stem item) n
  | _ => stem

end TypeName

namespace Param

mutual

def resolve : Param → Option AbiType
  | ⟨_, type, components⟩ => do
    let written ← TypeName.read? type
    if components.isEmpty then written.resolve
    else
      let items ← resolveAll components
      return written.withSizes (.tuple items)

def resolveAll : List Param → Option (List AbiType)
  | [] => some []
  | p :: r => do
    let t ← resolve p
    let ts ← resolveAll r
    return t :: ts

end

mutual

/-- The type of a parameter as it stands in a signature: the type as written, with the components
of a tuple in place of the word. -/
def selectorType : Param → String
  | ⟨_, type, components⟩ =>
    if components.isEmpty then type
    else
      "(" ++ ",".intercalate (selectorTypes components) ++ ")" ++
        match Text.stripStart? "tuple".toList type.toList with
        | some sizes => String.ofList sizes
        | none => type

def selectorTypes : List Param → List String
  | [] => []
  | p :: r => selectorType p :: selectorTypes r

end

end Param

end Registrar
