import Registrar.Key
import Registrar.Session

/-!
This module contains the binding of contracts. A contract is bound once its interface has been read
and code has been found at its address, and stays bound for the rest of the session; what fails is
tried anew the next time.
-/

namespace Registrar.Session

def interface (resource : String) : Engine Interface := do
  match Assoc.find? resource (← get).interfaces with
  | some i => return i
  | none =>
    let document ← Engine.ask (.resource (← get).spec.name resource)
    let text ← Engine.ofExcept (fun e => .abiLoad resource (.repository e)) document
    let i ← Engine.ofExcept (fun e => .abiLoad resource (.document e)) (Interface.read text)
    modify fun s => { s with interfaces := Assoc.insert resource i s.interfaces }
    return i

/-- Bind an interface to an address, at which there has to be code. -/
def bind (role : Role) (name : String) (address : Address) (interface : Interface) :
    Engine Contract := do
  let answer ← Engine.askAbout role (.hasCode address)
  let hasCode ← Engine.ofExcept (fun e => .bind name address (.chain e)) answer
  if hasCode then return { name, address, interface }
  else throw (.bind name address .noCode)

def bindPrimary : Engine Contract := do
  match (← get).primary with
  | some c => return c
  | none =>
    let spec := (← get).spec
    let address ← Engine.ofExcept .spec spec.address
    let i ← interface spec.abi
    let c ← bind .primary spec.name address i
    modify fun s => { s with primary := some c }
    return c

/-- The key of the method of the primary contract that returns the address of a delegate. -/
def getterKey (delegate : String) : String :=
  String.ofList KeySource.call.marker ++ delegate

/-- The address of a delegate: the one of the specification, or else what `getter` makes of the
primary contract. -/
def delegateAddress (d : Delegate) (getter : Engine Value) : Engine Address :=
  match d.contractAddress with
  | some text => Engine.ofExcept .spec (parseAddress text)
  | none => do
    match ← getter with
    | .address a => return a
    | v => throw (.ofConversion (.coercion v.text "address"))

def bindDelegate (name : String) (getter : Engine Value) : Engine Contract := do
  match Assoc.find? name (← get).delegates with
  | some c => return c
  | none =>
    match (← get).spec.delegate? name with
    | none => throw (.unknownDelegate name)
    | some d =>
      let address ← Engine.within (.delegateResolution name) (delegateAddress d getter)
      let i ← interface d.abi
      let c ← bind (.delegate name) name address i
      modify fun s => { s with delegates := Assoc.insert name c s.delegates }
      return c

end Registrar.Session
