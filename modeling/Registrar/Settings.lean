import Registrar.Json.Basic

/-!
This module contains the settings of an operator: a document whose nested members are reached by the
names on their paths, joined with points.
-/

namespace Registrar

inductive ConfigError where
  | read (reason : String)
  | prompt (key : String) (reason : String)
  | empty (key : String)
deriving Repr, DecidableEq

def ConfigError.message : ConfigError → String
  | .read reason => "Failed to read configuration: " ++ reason
  | .prompt key reason => "Failed to prompt for " ++ key ++ ": " ++ reason
  | .empty key => "No value entered for " ++ key

abbrev Settings := SortedMap Json

namespace Settings

def extend (path name : String) : String :=
  if path.isEmpty then name else path ++ "." ++ name

mutual

/-- Enter everything in a document that is no object, under its path. A document that has no path
is dropped. -/
def enter (made : Settings) (path : String) : Json → Settings
  | .object members => enterMembers made path members
  | j => if path.isEmpty then made else made.insert path j

def enterMembers (made : Settings) (path : String) : List (String × Json) → Settings
  | [] => made
  | (name, j) :: r => enterMembers (enter made (extend path name) j) path r

end

def ofJson (document : Json) : Settings :=
  enter {} "" document

end Settings

end Registrar
