import Registrar.Text.Cut

/-!
This module contains the schemes of URLs. Those of the usual kind have a host and a default port, or
name files.
-/

namespace Registrar.Scheme

/-- The usual schemes, with their default ports. -/
def withPorts : List (List Char × Nat) :=
  [("http".toList, 80), ("https".toList, 443), ("ws".toList, 80), ("wss".toList, 443),
   ("ftp".toList, 21)]

def defaultPort? (scheme : List Char) : Option Nat :=
  (withPorts.find? fun s => s.1 = scheme).map (·.2)

/-- The scheme of files, which have no ports. -/
def file : List Char := "file".toList

def isSpecial (scheme : List Char) : Bool :=
  scheme = file || (defaultPort? scheme).isSome

def isCharacter (c : Char) : Bool :=
  c.isAlphanum || c = '+' || c = '-' || c = '.'

/-- The scheme in front of a text, and what follows its colon. -/
def read? (s : List Char) : Option (List Char × List Char) := do
  let (name, r) ← Text.cut? ':' s
  if name.head?.any Char.isAlpha && name.all isCharacter then some (name.map Char.toLower, r)
  else none

end Registrar.Scheme
