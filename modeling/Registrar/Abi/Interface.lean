import Registrar.Abi.Param
import Registrar.Crypto.Keccak
import Registrar.Json.Members
import Registrar.Json.Reader

/-!
This module contains contract interfaces: the methods of a contract, and the documents that
describe them. A document lists methods among other items, all of which have to be well formed.
-/

namespace Registrar

structure Method where
  name : String
  inputs : List Param
  outputs : List Param
deriving Repr, BEq, Inhabited

namespace Method

def signature (m : Method) : String :=
  m.name ++ "(" ++ ",".intercalate (Param.selectorTypes m.inputs) ++ ")"

def selector (m : Method) : Bytes :=
  (Keccak.hash (Bytes.ofString m.signature)).take 4

end Method

/-- The methods of a contract, in the order of the document; several may share a name. -/
structure Interface where
  methods : List Method := []
deriving Repr, BEq, Inhabited

namespace Interface

def overloads (i : Interface) (name : String) : List Method :=
  i.methods.filter fun m => m.name = name

/-- A name: an identifier, or nothing. -/
def readName? (j : Json) : Option String := do
  let name ← j.asString?
  if name.isEmpty || isIdentifier name.toList then some name else none

/-- Whether the type of a parameter is well formed: a tuple if there are components, and otherwise
the notation of some type. -/
def isWellFormedType (type : String) (hasComponents : Bool) : Bool :=
  if hasComponents then (Text.stripStart? "tuple".toList type.toList).isSome
  else (TypeName.read? type).isSome

/-- A parameter with the given components. Those of events say whether they are indexed, all others
do not. -/
def paramOf? (ofEvent : Bool) (components : List Param) (j : Json) : Option Param := do
  match ← Json.members? ["name", "type", "indexed", "internalType", "components"] j with
  | [name, type, indexed, internalType, _] =>
    let name ← Json.optional "" readName? name
    let type ← Json.required Json.asString? type
    let indexed ← Json.optional none (Json.nullable Json.asBool?) indexed
    let _ ← Json.optional none (Json.nullable Json.asString?) internalType
    if indexed.isSome ≠ ofEvent then none
    if !isWellFormedType type !components.isEmpty then none
    return { name, type, components }
  | _ => none

mutual

def readParam (ofEvent : Bool) : Json → Option Param
  | .object members => do
    let components ← readComponents members
    paramOf? ofEvent components (.object members)
  | .array items => do
    let components ← readComponentsAt 4 items
    paramOf? ofEvent components (.array items)
  | _ => none

/-- The components among the members of a parameter; none if it has no such member. -/
def readComponents : List (String × Json) → Option (List Param)
  | [] => some []
  | (name, j) :: r => if name = "components" then readList j else readComponents r

/-- The components of a parameter written as an array, at the given place; none if it ends before. -/
def readComponentsAt : Nat → List Json → Option (List Param)
  | _, [] => some []
  | 0, j :: _ => readList j
  | n + 1, _ :: r => readComponentsAt n r

/-- The parameters in an array, which belong to no event. -/
def readList : Json → Option (List Param)
  | .array items => readParams false items
  | _ => none

def readParams (ofEvent : Bool) : List Json → Option (List Param)
  | [] => some []
  | j :: r => do
    let p ← readParam ofEvent j
    let ps ← readParams ofEvent r
    return p :: ps

end

def param? (j : Json) : Option Param :=
  readParam false j

def params? (ofEvent : Bool) (j : Json) : Option (List Param) :=
  j.asArray? >>= readParams ofEvent

def mutability? (j : Json) : Option String :=
  let isEmpty (content : Json) : Bool := content == .null || content == .object []
  (Json.choice? isEmpty j).filter ["pure", "view", "nonpayable", "payable"].contains

/-- Whether a document says well what a method may do; older ones say it with flags. -/
def hasMutability (j : Json) : Bool :=
  match Json.members? ["stateMutability", "payable", "constant"] j with
  | some [mutability, payable, constant] =>
    (Json.optional none (Json.nullable mutability?) mutability).isSome &&
      [payable, constant].all fun flag =>
        (Json.optional none (Json.nullable Json.asBool?) flag).isSome
  | _ => false

/-- An item of a document: a method, or something else of the named sort. -/
inductive Item where
  | method (m : Method)
  | other (sort : String)
deriving Repr, BEq

def isEvent (j : Json) : Bool :=
  match Json.members? ["name", "inputs", "anonymous"] j with
  | some [name, inputs, anonymous] =>
    (Json.required readName? name).isSome && (Json.required (params? true) inputs).isSome &&
      (Json.required Json.asBool? anonymous).isSome
  | _ => false

def isError (j : Json) : Bool :=
  match Json.members? ["name", "inputs"] j with
  | some [name, inputs] =>
    (Json.required readName? name).isSome && (Json.required (params? false) inputs).isSome
  | _ => false

def method? (j : Json) : Option Method := do
  let name ← j.member? "name" >>= readName?
  let inputs ← j.member? "inputs" >>= params? false
  let outputs ← j.member? "outputs" >>= params? false
  if hasMutability j then some { name, inputs, outputs } else none

/-- An item of the named sort. Only events and errors may be written as arrays. -/
def itemOf? (sort : String) (j : Json) : Option Item :=
  let other (isWellFormed : Bool) : Option Item :=
    if isWellFormed then some (.other sort) else none
  match sort with
  | "function" => (method? j).map .method
  | "constructor" => other ((j.member? "inputs" >>= params? false).isSome && hasMutability j)
  | "fallback" => other (j.asObject?.isSome && hasMutability j)
  | "receive" => other (j.asObject?.isSome && hasMutability j)
  | "event" => other (isEvent j)
  | "error" => other (isError j)
  | _ => none

/-- An item of a document. In an array, its sort comes first. -/
def item? (j : Json) : Option Item := do
  match j with
  | .array (sort :: rest) => itemOf? (← sort.asString?) (.array rest)
  | j => itemOf? (← j.member? "type" >>= Json.asString?) j

def atMostOne (sort : String) (items : List Item) : Bool :=
  (items.filter (· == .other sort)).length ≤ 1

def ofItems? (items : List Json) : Option Interface := do
  let items ← items.mapM item?
  if ["constructor", "fallback", "receive"].all fun sort => atMostOne sort items then
    return ⟨items.filterMap fun
      | .method m => some m
      | .other _ => none⟩
  else none

inductive Fault where
  /-- An object has no member `abi`. -/
  | noInterface
  | malformed (detail : String)
deriving Repr, DecidableEq

def Fault.message : Fault → String
  | .noInterface => "artifact has no abi field"
  | .malformed detail => detail

/-- Read a document: a list of items, or an object with such a list. -/
def read (text : String) : Except Fault Interface := do
  match Json.readNormal text with
  | .error fault => throw (.malformed fault.message)
  | .ok j =>
    let items ←
      match j with
      | .object members =>
        match Assoc.find? "abi" members with
        | some j => pure j
        | none => throw .noInterface
      | j => pure j
    match items.asArray? >>= ofItems? with
    | some i => return i
    | none => throw (.malformed "the items do not describe a contract")

end Interface

end Registrar
