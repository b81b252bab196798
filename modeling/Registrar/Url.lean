import Registrar.Url.Authority
import Registrar.Url.Path

/-!
This module contains URLs. Reading brings a URL into its normal form: letters of schemes and hosts in
lower case, no default ports, no points among the segments of a path, and escapes where they are
needed.
-/

namespace Registrar

structure Url where
  scheme : List Char
  authority : Option Authority := none
  path : UrlPath
  query : Option (List Char) := none
  fragment : Option (List Char) := none
deriving Repr, DecidableEq

namespace Url

def trim (s : List Char) : List Char :=
  let outer (c : Char) : Bool := c.toNat ≤ 0x20
  ((s.dropWhile outer).reverse.dropWhile outer).reverse

/-- The text before the query and the fragment, and the rest. -/
def cutTail (s : List Char) : List Char × List Char :=
  let isPart (c : Char) : Bool := c ≠ '?' && c ≠ '#'
  (s.takeWhile isPart, s.dropWhile isPart)

def readTail (special : Bool) (s : List Char) : Option (List Char) × Option (List Char) :=
  let set := if special then Percent.specialQuery else Percent.query
  let (front, fragment) :=
    match Text.cut? '#' s with
    | some (a, b) => (a, some (Percent.encode Percent.fragment b))
    | none => (s, none)
  (front.head?.map fun _ => Percent.encode set (front.drop 1), fragment)

def readBehind? (scheme : List Char) (s : List Char) : Option Url := do
  let special := Scheme.isSpecial scheme
  let isPart (c : Char) : Bool := !Authority.isEnd special c
  let behind := s.dropWhile isPart
  let (authority, rest) ← Authority.read? scheme behind.isEmpty (s.takeWhile isPart)
  let (path, tail) := cutTail behind
  let (query, fragment) := readTail special tail
  return { scheme, authority := some authority
           path := UrlPath.behindAuthority special (rest ++ path), query, fragment }

/-- The host of a file behind two slashes, and the path. There may be none, which is also what the
name of the machine itself means, and the letter of a drive belongs to the path. -/
def fileHost? (s : List Char) : Option (Host × List Char) := do
  let isPart (c : Char) : Bool := !Authority.isEnd true c
  let name := UrlPath.withoutBreaks (s.takeWhile isPart)
  if UrlPath.isDrive name then return (.domain [], s)
  let path := s.dropWhile isPart
  if name.isEmpty then return (.domain [], path)
  let host ← Host.read? name
  if host = .domain "localhost".toList then return (.domain [], path)
  return (host, (UrlPath.cutSlash? path).getD path)

def readFile? (s : List Char) : Option Url := do
  let (host, rest) ←
    match UrlPath.cutSlash? s with
    | none => some (.domain [], s)
    | some r =>
      match UrlPath.cutSlash? r with
      | none => some (.domain [], r)
      | some r => fileHost? r
  let (path, tail) := cutTail rest
  let (path, onDrive) := UrlPath.ofFile path
  let (query, fragment) := readTail true (UrlPath.withoutBreaks tail)
  let host := if onDrive then .domain [] else host
  return { scheme := Scheme.file, authority := some { host }, path, query, fragment }

/-- Read a URL. Line breaks and tabs have no meaning, but in the path of a file they can end the name
of a drive. -/
def read? (text : String) : Option Url := do
  let s := trim text.toList
  let (scheme, r) ← Scheme.read? (UrlPath.withoutBreaks s)
  if scheme = Scheme.file then readFile? ((s.dropWhile (· ≠ ':')).drop 1)
  else if Scheme.isSpecial scheme then readBehind? scheme (r.dropWhile UrlPath.isSlash)
  else
    match r with
    | '/' :: '/' :: r => readBehind? scheme r
    | r =>
      let (path, tail) := cutTail r
      let (query, fragment) := readTail false tail
      let path :=
        match path with
        | '/' :: path => UrlPath.behindSlash false path
        | path => .plain (Percent.encode Percent.control path)
      return { scheme, path, query, fragment }

def withoutCredentials (u : Url) : Url :=
  { u with authority := u.authority.map fun a => { a with credentials := [] } }

def queryText (u : Url) : List Char :=
  (u.query.map ('?' :: ·)).getD []

/-- What stands between the colon behind the scheme and the path. Without an authority, a path must
not begin with two slashes. -/
def front (u : Url) : List Char :=
  match u.authority, u.path with
  | some a, _ => '/' :: '/' :: a.text
  | none, .segments ([] :: _ :: _) => ['/', '.']
  | none, _ => []

def toText (u : Url) : String :=
  String.ofList <|
    u.scheme ++ ':' :: u.front ++ u.path.text ++ u.queryText ++
      (u.fragment.map ('#' :: ·)).getD []

end Url

end Registrar
