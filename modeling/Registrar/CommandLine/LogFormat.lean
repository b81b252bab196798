/-!
This module contains the formats of the log.
-/

namespace Registrar

inductive LogFormat where
  | pretty
  /-- One document on each line. -/
  | json
deriving Repr, DecidableEq, Inhabited

namespace LogFormat

def name : LogFormat → String
  | .pretty => "pretty"
  | .json => "json"

/-- The format that the variable of the environment names, in letters of either case; any other text
and none stand for the default. -/
def ofVariable (text : Option String) : LogFormat :=
  match text with
  | some t => if t.toList.map Char.toLower = "json".toList then .json else .pretty
  | none => .pretty

end LogFormat

end Registrar
