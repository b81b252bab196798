import Registrar.Decimal
import Registrar.Text.Cut

/-!
This module contains paths, the reasons why a file is not read, and trees of files in memory, in
which a path is followed from one directory to the next.
-/

namespace Registrar

inductive FileFault where
  /-- There is nothing of this name. -/
  | missing
  /-- A part of the path that has to be a directory is a file. -/
  | notDirectory
  | isDirectory
  | nameTooLong
  /-- No name contains a zero character. -/
  | badName
  | other (detail : String)
deriving Repr, DecidableEq

def FileFault.message : FileFault → String
  | .missing => "No such file or directory (os error 2)"
  | .notDirectory => "Not a directory (os error 20)"
  | .isDirectory => "Is a directory (os error 21)"
  | .nameTooLong => "File name too long (os error 36)"
  | .badName => "file name contained an unexpected NUL byte"
  | .other detail => detail

def FileFault.ofCode (code : Nat) (detail : String) : FileFault :=
  if code = 2 then .missing
  else if code = 20 then .notDirectory
  else if code = 21 then .isDirectory
  else if code = 36 then .nameTooLong
  else .other (detail ++ " (os error " ++ Decimal.text code ++ ")")

/-- The directories that lead to a directory, itself being the first. -/
def ancestors (directory : String) : List String :=
  let names := ((Text.fields '/' directory.toList).map String.ofList).filter (!·.isEmpty)
  (List.range (names.length + 1)).reverse.map fun n => "/" ++ "/".intercalate (names.take n)

/-- A path continued by another one, which stands for itself if it begins with a slash. -/
def joinPath (base path : String) : String :=
  if base.isEmpty || path.toList.head? = some '/' then path
  else if base.toList.getLast? = some '/' then base ++ path
  else base ++ "/" ++ path

/-- Files by their paths, each the names of its directories and its own one. -/
structure FileTree where
  files : List (List String × String) := []
deriving Repr, Inhabited

namespace FileTree

def names (path : String) : List String :=
  (Text.fields '/' path.toList).map String.ofList

def ofList (files : List (String × String)) : FileTree :=
  ⟨files.map fun (path, content) => (names path, content)⟩

def content? (t : FileTree) (place : List String) : Option String :=
  (t.files.find? fun f => f.1 = place).map (·.2)

/-- Whether there is a directory at a place: the top, or one that leads to a file. -/
def isDirectory (t : FileTree) (place : List String) : Bool :=
  place.isEmpty || t.files.any fun f => place.length < f.1.length && place.isPrefixOf f.1

def nameLimit : Nat := 255

/-- Follow names from a place; all but the last one have to lead to directories. -/
def follow (t : FileTree) (place : List String) : List String → Except FileFault (List String)
  | [] => .ok place
  | name :: r =>
    if !t.isDirectory place then .error .notDirectory
    else if name = "" ∨ name = "." then follow t place r
    else if name = ".." then follow t place.dropLast r
    else if name.utf8ByteSize > nameLimit then .error .nameTooLong
    else
      let next := place ++ [name]
      if t.isDirectory next || (t.content? next).isSome then follow t next r
      else .error .missing

def read (t : FileTree) (path : String) : Except FileFault String := do
  if path.isEmpty then throw .missing
  if path.toList.contains '\x00' then throw .badName
  let place ← t.follow [] (names path)
  match t.content? place with
  | some content => return content
  | none => throw .isDirectory

end FileTree

end Registrar
