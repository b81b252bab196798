import Registrar.Spec.Basic

/-!
This module contains the check that a specification is well formed. It reports the first violation:
the address of the primary contract, then the delegates with their functions in order, and then the
operations in the order of their names.
-/

namespace Registrar

/-- Check that an operation either calls something or shows a message, and that the name of its
callee has at most two parts, none of them empty. -/
def Operation.validate (o : Operation) (label : String) : Except SpecError Unit :=
  if !o.callee.isEmpty && !o.message.isEmpty then .error (.ambiguousTarget label)
  else if o.callee.isEmpty && o.message.isEmpty then .error (.missingTarget label)
  else if o.callee.isEmpty && !o.parameters.isEmpty then .error (.parametersWithoutTarget label)
  else
    let parts := Text.fields '.' o.callee.toList
    if parts.length ≤ 2 && (o.callee.isEmpty || parts.all fun p => !p.isEmpty) then .ok ()
    else .error (.invalidFunctionName label o.callee)

/-- Check the functions of the named delegate, whose callees are methods of it. -/
def Delegate.validateFunctions (name : String) : List Operation → Except SpecError Unit
  | [] => .ok ()
  | o :: r => do
    let label := name ++ "." ++ o.callee
    o.validate label
    if o.callee.toList.contains '.' then throw (.invalidFunctionName label o.callee)
    validateFunctions name r

namespace Specification

/-- Check delegates from a position on, behind others with the names `seen`. -/
def validateDelegates (position : Nat) (seen : List String) : List Delegate → Except SpecError Unit
  | [] => .ok ()
  | d :: r => do
    if d.name.isEmpty then throw (.unnamedDelegate position)
    if seen.contains d.name then throw (.duplicateDelegate d.name)
    match d.contractAddress with
    | some address => let _ ← parseAddress address
    | none => pure ()
    Delegate.validateFunctions d.name d.functions
    validateDelegates (position + 1) (d.name :: seen) r

/-- Check operations that may call the delegates with the names `known`. -/
def validateOperations (known : List String) : List (String × Operation) → Except SpecError Unit
  | [] => .ok ()
  | (name, o) :: r => do
    o.validate name
    match o.target with
    | .delegate d _ => if !known.contains d then throw (.unknownDelegate name d)
    | _ => pure ()
    validateOperations known r

def validate (s : Specification) : Except SpecError Unit := do
  let _ ← parseAddress s.contractAddress
  validateDelegates 0 [] s.delegates
  validateOperations (s.delegates.map Delegate.name) s.functions.toList

end Specification

end Registrar
