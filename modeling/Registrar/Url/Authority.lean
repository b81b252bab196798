import Registrar.Power
import Registrar.Url.Host
import Registrar.Url.Scheme

/-!
This module contains the authorities of URLs: who is asked, at which host and port.
-/

namespace Registrar

structure Authority where
  /-- User name and password. -/
  credentials : List Char := []
  host : Host
  port : Option Nat := none
deriving Repr, DecidableEq

namespace Authority

def isEnd (special : Bool) (c : Char) : Bool :=
  c = '/' || c = '?' || c = '#' || (special && c = '\\')

/-- The parts of a text before and after the last occurrence of `sep`. -/
def cutLast? (sep : Char) (s : List Char) : Option (List Char × List Char) :=
  (Text.cut? sep s.reverse).map fun (b, a) => (a.reverse, b.reverse)

def escaped (s : List Char) : List Char :=
  match Text.cut? ':' s with
  | none => Percent.encode Percent.userinfo s
  | some (name, password) =>
    let name := Percent.encode Percent.userinfo name
    if password.isEmpty then name else name ++ ':' :: Percent.encode Percent.userinfo password

def cutPort (inside : Bool) : List Char → List Char × Option (List Char)
  | [] => ([], none)
  | c :: r =>
    if c = ':' && !inside then ([], some r)
    else
      let (a, b) := cutPort (c = '[' || (inside && c ≠ ']')) r
      (c :: a, b)

/-- Read the port in front of a text, which may be missing and is not kept if it is the default. The
rest is empty or begins with a backslash. -/
def readPort? (scheme : List Char) (s : List Char) : Option (Option Nat × List Char) := do
  let digits := s.takeWhile Char.isDigit
  let rest := s.dropWhile Char.isDigit
  if rest.head?.any (· ≠ '\\') then none
  if digits.isEmpty then return (none, rest)
  let n ← (Decimal.read? digits).filter (· < 2 ^ 16)
  return (if Scheme.defaultPort? scheme = some n then none else some n, rest)

/-- Read an authority from the text up to its end, with nothing behind it if it is `last`. The rest
belongs to the path. -/
def read? (scheme : List Char) (last : Bool) (s : List Char) :
    Option (Authority × List Char) := do
  if s = ['@'] && !last then none
  let (user, place) := (cutLast? '@' s).getD ([], s)
  let credentials := escaped user
  let (name, port) := cutPort false place
  let special := Scheme.isSpecial scheme
  if name.isEmpty && (special || !credentials.isEmpty || port.isSome) then none
  let host ← if special then Host.read? name else Host.readOpaque? name
  let (port, rest) ← readPort? scheme (port.getD [])
  return ({ credentials, host, port }, rest)

def text (a : Authority) : List Char :=
  (if a.credentials.isEmpty then [] else a.credentials ++ ['@']) ++ a.host.text ++
    match a.port with
    | some port => ':' :: Decimal.ofNat port
    | none => []

end Authority

end Registrar
