import Registrar.Builtin
import Registrar.Conversion
import Registrar.Session

/-!
This module contains how built-in functions get the values of their parameters. A parameter is
loaded at the moment the function asks for it, so that the order of these questions shows.
-/

namespace Registrar.Builtin

/-- How the parameter of the given name is loaded, if the call has it. -/
abbrev Arguments := String → Option (Option Kind → (required : Bool) → Engine Value)

def mismatch {α : Type} (b : Builtin) (parameter expected : String) : Engine α :=
  throw (.key (.parameterType b.name parameter expected))

def invalid {α : Type} (b : Builtin) (parameter reason : String) : Engine α :=
  throw (.key (.invalidParameter b.name parameter reason))

def required (b : Builtin) (args : Arguments) (parameter : String) (kind : Option Kind) :
    Engine Value :=
  match args parameter with
  | none => throw (.key (.missingParameter b.name parameter))
  | some load => load kind true

/-- The value of a parameter that may be missing. An empty value counts as none. -/
def optional (args : Arguments) (parameter : String) (kind : Option Kind) :
    Engine (Option Value) :=
  match args parameter with
  | none => return none
  | some load => do
    let v ← load kind false
    return if v.isEmpty then none else some v

def asText (b : Builtin) (parameter : String) : Value → Engine String
  | .string s => return s
  | _ => b.mismatch parameter "a string"

def requiredText (b : Builtin) (args : Arguments) (parameter : String) : Engine String := do
  b.asText parameter (← b.required args parameter (some .string))

def optionalText (b : Builtin) (args : Arguments) (parameter : String) :
    Engine (Option String) := do
  match ← optional args parameter (some .string) with
  | none => return none
  | some v => return some (← b.asText parameter v)

end Registrar.Builtin
