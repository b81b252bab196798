import Registrar.Json.Reader
import Registrar.Settings
import Registrar.Settings.Literal

/-!
This module contains the layers that settings are made of: a document, and the variables of the
environment, which go before it. `AVS_CONFIG_A__B` is the setting `a.b`.
-/

namespace Registrar.Settings

mutual

/-- Put one document over another. Objects are merged, and everything else is replaced. -/
def merge : (under upper : Json) → Json
  | .object members, .object upper => .object (mergeMembers members upper)
  | _, upper => upper

def mergeMembers : (under upper : List (String × Json)) → List (String × Json)
  | members, [] => members
  | members, (name, j) :: r =>
    let j :=
      match Assoc.find? name members with
      | some old => merge old j
      | none => j
    mergeMembers (SortedMap.insertEntry name j members) r

end

/-- What the names of the variables begin with, in either case. -/
def variableMarker : List Char := "avs_config_".toList

def pointed : List Char → List Char
  | '_' :: '_' :: r => '.' :: pointed r
  | c :: r => c :: pointed r
  | [] => []

/-- The path of the setting that the variable of the given name gives, if it gives one. -/
def variablePath? (name : String) : Option (List String) :=
  let name := (Text.trim name.toList).map Char.toLower
  match Text.stripStart? variableMarker name with
  | none => none
  | some rest =>
    let parts := Text.fields '.' (Text.trim (pointed rest))
    if parts.any List.isEmpty then none else some (parts.map String.ofList)

/-- A document with one value, at a path. -/
def nest (j : Json) : (path : List String) → Json
  | [] => j
  | name :: r => .object [(name, nest j r)]

/-- Put the settings of variables over a document, one after the other. -/
def overlay (under : Json) : (environment : List (String × String)) → Json
  | [] => under
  | (name, text) :: r =>
    match variablePath? name with
    | none => overlay under r
    | some path => overlay (merge under (nest (Literal.read text) path)) r

/-- The document of all settings: that of the variables over that of a file, if there is one. -/
def document (file : Option String) (environment : List (String × String)) :
    Except ConfigError Json := do
  let base ←
    match file with
    | none => pure (Json.object [])
    | some text =>
      match Json.readNormal text with
      | .ok (.object members) => pure (Json.object members)
      | .ok _ => throw (.read "the document is no map")
      | .error fault => throw (.read fault.message)
  return merge base (overlay (.object []) environment)

def nodeUrl? (document : Json) : Except ConfigError (Option String) :=
  match document.member? "eth_rpc_url" with
  | none => .ok none
  | some .null => .ok none
  | some (.string url) => .ok (some url)
  | some _ => .error (.read "eth_rpc_url is not a text")

end Registrar.Settings
