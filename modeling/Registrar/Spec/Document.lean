import Registrar.Json.Members
import Registrar.Json.Reader
import Registrar.Spec.Validation

/-!
This module contains the documents of specifications. A document is read as written: members that
have no meaning are ignored, a member with a meaning stands there at most once, and every part may
also be written as an array of its members in the order of their declaration, where members with a
default may be missing at the end.
-/

namespace Registrar

namespace Spec

def operationMembers : List String :=
  ["name", "parameters", "message", "transform"]

def delegateMembers : List String :=
  ["name", "abi", "contractAddress", "functions"]

def specificationMembers : List String :=
  ["name", "description", "network", "contractAddress", "coordinatorKind", "remoteSigning", "abi",
   "functions", "delegates"]

end Spec

open Spec Json

def Operation.ofJson? (j : Json) : Option Operation := do
  match ← members? operationMembers j with
  | [callee, parameters, message, transform] =>
    let callee ← optional "" Json.asString? callee
    let parameters ← optional [] (list Json.asString?) parameters
    let message ← optional "" Json.asString? message
    let transform ← optional "" Json.asString? transform
    return { callee, parameters, message, transform }
  | _ => none

def Delegate.ofJson? (j : Json) : Option Delegate := do
  match ← members? delegateMembers j with
  | [name, abi, contractAddress, functions] =>
    let name ← required Json.asString? name
    let abi ← required Json.asString? abi
    let contractAddress ← optional none (nullable Json.asString?) contractAddress
    let functions ← optional [] (list Operation.ofJson?) functions
    return { name, abi, contractAddress, functions }
  | _ => none

/-- Read the operations of a document; of several with one name the last counts. -/
def Spec.operations? (j : Json) : Option (SortedMap Operation) := do
  let members ← j.asObject?
  let operations ← members.mapM fun (name, j) => (Operation.ofJson? j).map fun o => (name, o)
  return .ofList operations

namespace Specification

def ofJson? (j : Json) : Option Specification := do
  match ← members? specificationMembers j with
  | [name, description, network, contractAddress, coordinatorKind, remoteSigning, abi, functions,
      delegates] =>
    let name ← required Json.asString? name
    let description ← optional "" Json.asString? description
    let network ← optional "" Json.asString? network
    let contractAddress ← required Json.asString? contractAddress
    let coordinatorKind ← optional "" Json.asString? coordinatorKind
    let remoteSigning ← optional false Json.asBool? remoteSigning
    let abi ← required Json.asString? abi
    let functions ← optional {} operations? functions
    let delegates ← optional [] (list Delegate.ofJson?) delegates
    return { name, description, network, contractAddress, coordinatorKind, remoteSigning, abi,
             functions, delegates }
  | _ => none

def read (name : String) (document : String) : Except SpecError Specification := do
  match Json.read document with
  | .error fault => throw (.decode name fault.message)
  | .ok j =>
    match ofJson? j with
    | none => throw (.decode name "the document does not describe a service")
    | some s =>
      s.validate
      return s

end Specification

/-- The document of an operation, with its members in the order of their names. -/
def Operation.toJson (o : Operation) : Json :=
  .object
    [("message", .string o.message), ("name", .string o.callee),
     ("parameters", .array (o.parameters.map .string)), ("transform", .string o.transform)]

/-- The document of a delegate, with its members in the order of their names. -/
def Delegate.toJson (d : Delegate) : Json :=
  .object
    [("abi", .string d.abi),
     ("contractAddress",
       match d.contractAddress with
       | some address => .string address
       | none => .null),
     ("functions", .array (d.functions.map Operation.toJson)), ("name", .string d.name)]

/-- The document of a specification, with its members in the order of their names. -/
def Specification.toJson (s : Specification) : Json :=
  .object
    [("abi", .string s.abi), ("contractAddress", .string s.contractAddress),
     ("coordinatorKind", .string s.coordinatorKind),
     ("delegates", .array (s.delegates.map Delegate.toJson)),
     ("description", .string s.description),
     ("functions", .object (s.functions.toList.map fun (name, o) => (name, o.toJson))),
     ("name", .string s.name), ("network", .string s.network),
     ("remoteSigning", .bool s.remoteSigning)]

end Registrar
