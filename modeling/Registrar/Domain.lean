import Registrar.Domain.Direction
import Registrar.Domain.Joining
import Registrar.Domain.Mapping
import Registrar.Domain.Punycode
import Registrar.Text.Cut

/-!
This module contains the names of hosts. A name in any script has an ASCII form, where the labels
between its points that are not ASCII are coded; a name may also be written in this form, and then
the labels it stands for have to be ones that could be written.
-/

namespace Registrar.Domain

structure Label where
  text : List Char
  ascii : List Char
deriving Repr, DecidableEq

def isAscii (s : List Char) : Bool :=
  s.all fun c => c.toNat < 128

def isForbidden (c : Char) : Bool :=
  c.toNat ≤ 0x20 || c.toNat = 0x7f || "#/:<>?@[\\]^|%".toList.contains c

namespace Label

def codedMark : List Char :=
  "xn--".toList

def maxCoded : Nat :=
  2000

def maxText : Nat :=
  1000

def isWellFormed (text : List Char) : Bool :=
  !text.any isForbidden && !text.head?.any isMark && joinersFit [] text &&
    (isAscii text || text.length ≤ maxText)

def ofCoded? (coded : List Char) : Option Label := do
  if !isAscii coded || coded.getLast? = some '-' || coded.isEmpty || coded.length > maxCoded then
    none
  let text ← Punycode.decode? coded
  if text.all isValid && compose text = text && !text.contains '.' && isWellFormed text then
    some { text, ascii := codedMark ++ coded }
  else none

def read? (s : List Char) : Option Label :=
  match Text.stripStart? codedMark s with
  | some coded => ofCoded? coded
  | none =>
    if isWellFormed s then
      some { text := s, ascii := if isAscii s then s else codedMark ++ Punycode.encode s }
    else none

end Label

/-- Whether the characters of each label keep together, if the name has letters that are written
from right to left. -/
def areTogether (labels : List Label) : Bool :=
  let directions := labels.map fun l => l.text.map Direction.of
  !directions.any (·.any Direction.turns) || directions.all Direction.areTogether

def toAscii? (s : List Char) : Option (List Char) := do
  let mapped ← s.mapM map?
  let labels ← (Text.fields '.' (compose mapped.flatten)).mapM Label.read?
  if areTogether labels then some (List.intercalate ['.'] (labels.map (·.ascii))) else none

end Registrar.Domain
