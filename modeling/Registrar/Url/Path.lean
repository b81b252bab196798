import Registrar.Text.Cut
import Registrar.Url.Percent

/-!
This module contains the paths of URLs. Segments are followed one after the other, where points lead
to the directory or to the one above. A drive, a letter with a colon, is never left, and it takes the
place of the host of a file.
-/

namespace Registrar

inductive UrlPath where
  | plain (text : List Char)
  | segments (items : List (List Char))
deriving Repr, DecidableEq

namespace UrlPath

/-- Whether a character is a line break or a tab, which have no meaning. -/
def isBreak (c : Char) : Bool :=
  c = '\t' || c = '\n' || c = '\r'

def withoutBreaks (s : List Char) : List Char :=
  s.filter fun c => !isBreak c

def isSlash (c : Char) : Bool :=
  c = '/' || c = '\\'

def cutSlash? (s : List Char) : Option (List Char) :=
  match s.dropWhile isBreak with
  | c :: r => if isSlash c then some r else none
  | [] => none

def isSingleDot (s : List Char) : Bool :=
  let s := String.ofList (s.map Char.toLower)
  s = "." || s = "%2e"

def isDoubleDot (s : List Char) : Bool :=
  let s := String.ofList (s.map Char.toLower)
  s = ".." || s = ".%2e" || s = "%2e." || s = "%2e%2e"

/-- What follows a letter and a colon, or a bar in its place. -/
def cutDrive? : List Char → Option (List Char)
  | c :: d :: r => if c.isAlpha && (d = ':' || d = '|') then some r else none
  | _ => none

def isDrive (s : List Char) : Bool :=
  cutDrive? s = some []

/-- Whether a segment begins with a drive, and so is not left. -/
def isOnDrive (s : List Char) : Bool :=
  (cutDrive? s).any fun r => r.isEmpty || r.head? = some '\\'

/-- The drive in front of a segment, and the text that a line break or a tab keeps apart from it. -/
def splitDrive? (s : List Char) : Option (List Char × List Char) :=
  match s.dropWhile isBreak with
  | [] => none
  | c :: r =>
    match r.dropWhile isBreak with
    | ':' :: b :: r =>
      let rest := withoutBreaks r
      if c.isAlpha && isBreak b && !rest.isEmpty then some ([c, ':'], rest) else none
    | _ => none

structure Walk where
  /-- The segments, the last one first. -/
  made : List (List Char) := []
  /-- Whether the path is one on a drive, so that there is no host. -/
  onDrive : Bool := false
deriving Repr, DecidableEq

def leave (made : List (List Char)) : List (List Char) :=
  if made.head?.any isOnDrive then made else made.drop 1

/-- Follow a segment with a name. Only the first segment of a file can be a drive. -/
def enter (isFile : Bool) (w : Walk) (s : List Char) : Walk :=
  let name := withoutBreaks s
  let encode := Percent.encode Percent.path
  if isFile && w.made.isEmpty then
    match splitDrive? s with
    | some (drive, rest) => { w with made := [encode rest, drive] }
    | none =>
      if isDrive name then { made := [name.take 1 ++ [':']], onDrive := true }
      else { w with made := [encode name] }
  else { w with made := encode name :: w.made }

def follow (isFile : Bool) (w : Walk) : List (List Char) → Walk
  | [] => w
  | s :: r =>
    let name := withoutBreaks s
    let stay (made : List (List Char)) : Walk :=
      { w with made := if r.isEmpty then [] :: made else made }
    let w :=
      if isDoubleDot name then stay (leave w.made)
      else if isSingleDot name then stay w.made
      else enter isFile w s
    follow isFile w r

/-- The segments of a text between slashes, or slashes of either direction. -/
def fields (either : Bool) (s : List Char) : List (List Char) :=
  Text.fields '/' (if either then s.map fun c => if c = '\\' then '/' else c else s)

/-- The path behind its first slash, in a URL that does not name a file. -/
def behindSlash (special : Bool) (s : List Char) : UrlPath :=
  .segments (follow false {} (fields special s)).made.reverse

/-- The path behind an authority, which in the usual schemes is never empty. -/
def behindAuthority (special : Bool) (s : List Char) : UrlPath :=
  match s with
  | [] => .segments (if special then [[]] else [])
  | c :: r => behindSlash special (if c = '/' || special then r else s)

def text : UrlPath → List Char
  | .plain text => text
  | .segments items => items.flatMap ('/' :: ·)

/-- The path of a file, and whether it is on a drive. Empty segments in front have no meaning. -/
def ofFile (s : List Char) : UrlPath × Bool :=
  let w := follow true {} (fields true s)
  let items := w.made.reverse.dropWhile List.isEmpty
  (.segments (if items.isEmpty then [[]] else items), w.onDrive)

end UrlPath

end Registrar
