import Registrar.Text.Cut

/-!
This module contains key expressions, `source:payload->transform`. Inside the parentheses of a
payload that calls something, an arrow or a comma belongs to an inner expression; depth is counted
from the left, and a closing parenthesis without an opening one changes nothing.
-/

namespace Registrar

inductive KeySource where
  /-- The result of a method of a contract. -/
  | call
  /-- A setting, or the answer of the operator. -/
  | config
  /-- The payload itself. -/
  | const
  /-- The result of a built-in function. -/
  | func
  /-- The hidden answer of the operator. -/
  | passwd
  /-- No source is named. -/
  | bare
deriving Repr, DecidableEq, Inhabited

def KeySource.marker : KeySource → List Char
  | .call => "call:".toList
  | .config => "config:".toList
  | .const => "const:".toList
  | .func => "func:".toList
  | .passwd => "passwd:".toList
  | .bare => []

def KeySource.named : List KeySource :=
  [.call, .config, .const, .func, .passwd]

structure KeyExpression where
  source : KeySource
  payload : String
  transform : Option String := none
deriving Repr, DecidableEq, Inhabited

namespace Key

def cutArrow? (depth : Nat) : List Char → Option (List Char × List Char)
  | [] => none
  | c :: r =>
    if c = '(' then (cutArrow? (depth + 1) r).map fun (a, b) => (c :: a, b)
    else if c = ')' then (cutArrow? (depth - 1) r).map fun (a, b) => (c :: a, b)
    else
      match if depth = 0 then Text.stripStart? "->".toList (c :: r) else none with
      | some b => some ([], b)
      | none => (cutArrow? depth r).map fun (a, b) => (c :: a, b)

/-- The parts of a text between the commas outside parentheses, with the first one apart. -/
def cutCommas (depth : Nat) : List Char → List Char × List (List Char)
  | [] => ([], [])
  | c :: r =>
    if c = '(' then
      let (p, ps) := cutCommas (depth + 1) r
      (c :: p, ps)
    else if c = ')' then
      let (p, ps) := cutCommas (depth - 1) r
      (c :: p, ps)
    else if c = ',' ∧ depth = 0 then
      let (p, ps) := cutCommas 0 r
      ([], p :: ps)
    else
      let (p, ps) := cutCommas depth r
      (c :: p, ps)

/-- The arguments of a call, without the blanks around them. A blank text holds none. -/
def splitArguments (text : List Char) : List (List Char) :=
  let (p, ps) := cutCommas 0 text
  let parts := (p :: ps).map Text.trim
  if parts = [[]] then [] else parts

/-- The name and the argument text of `name(arguments)`. -/
def invocation? (text : List Char) : Option (List Char × List Char) := do
  let (name, rest) ← Text.cut? '(' text
  let arguments ← Text.stripLast? ')' (Text.trimEnd rest)
  return (Text.trim name, arguments)

def isNested (text : List Char) : Bool :=
  let s := Text.trimStart text
  (Text.stripStart? KeySource.func.marker s).isSome ||
    (Text.stripStart? KeySource.call.marker s).isSome

def splitSource (core : List Char) : KeySource × List Char :=
  go KeySource.named
where
  go : List KeySource → KeySource × List Char
    | [] => (.bare, core)
    | source :: r =>
      match Text.stripStart? source.marker core with
      | some payload => (source, payload)
      | none => go r

def cutTransform? (text : List Char) : Option (List Char × List Char) :=
  if isNested text then cutArrow? 0 text else Text.cutWord? "->".toList text

end Key

namespace KeyExpression

/-- Read a key expression. Neither its payload, with the source in front, nor its transform may be
blank. -/
def read? (key : String) : Option KeyExpression :=
  let text := key.toList
  let (core, transform) :=
    match Key.cutTransform? text with
    | some (core, transform) => (core, some (Text.trim transform))
    | none => (text, none)
  let core := Text.trim core
  if core.isEmpty || transform = some [] then none
  else
    let (source, payload) := Key.splitSource core
    some ⟨source, String.ofList payload, transform.map String.ofList⟩

/-- Whether the value of an expression is remembered. Functions are called anew each time. -/
def isCacheable (e : KeyExpression) : Bool :=
  e.source ≠ .func

def text (e : KeyExpression) : String :=
  String.ofList e.source.marker ++ e.payload ++
    match e.transform with
    | none => ""
    | some t => "->" ++ t

end KeyExpression

end Registrar
