import Registrar.Abi.Codec
import Registrar.Coding
import Registrar.Session.Binding

/-!
This module contains calls of methods: their arguments are loaded one after the other and encoded,
and of what a read returns the first value is taken. How an argument is loaded is left open.
-/

namespace Registrar.Session

variable {α : Type}

def argument (load : α → Option Kind → Engine Value) (p : Param) (a : α) : Engine AbiValue := do
  match p.resolve with
  | none => throw (.encode p.type "the type is not known")
  | some t =>
    let v ← load a t.kind?
    Engine.ofExcept .ofConversion (v.encodeAs t p.components)

/-- Load arguments for parameters, the first of which stands at a position. -/
def arguments (load : α → Option Kind → Engine Value) (method : String) (position : Nat) :
    List Param → List α → Engine (List AbiValue)
  | p :: ps, a :: as => do
    let v ← Engine.within (.parameterMapping method position) (argument load p a)
    let vs ← arguments load method (position + 1) ps as
    return v :: vs
  | _, _ => return []

def calldata (load : α → Option Kind → Engine Value) (m : Method) (args : List α) :
    Engine Bytes := do
  if m.inputs.length = args.length then
    let values ← arguments load m.signature 0 m.inputs args
    return m.selector ++ Abi.encode values
  else throw (.parameterCount m.signature m.inputs.length args.length)

def firstOutput (m : Method) (output : Bytes) : Except OperationError Value :=
  match Param.resolveAll m.outputs with
  | none => .error (.decode m.signature (.malformed "the type is not known"))
  | some types =>
    match Abi.decode types output with
    | none => .error (.decode m.signature (.malformed "buffer overrun while deserializing"))
    | some [] => .error (.decode m.signature .noValues)
    | some (v :: _) => .ok (.ofAbi ((m.outputs.head?.map Param.components).getD []) v)

def readMethod (load : α → Option Kind → Engine Value) (role : Role) (c : Contract)
    (name : String) (args : List α) : Engine Value := do
  let m ← Engine.ofExcept id (c.method name (some args.length))
  let data ← calldata load m args
  let answer ← Engine.askAbout role (.call c.address data)
  let output ← Engine.ofExcept .chain answer
  Engine.ofExcept id (firstOutput m output)

end Registrar.Session
