import Registrar.Hex
import Registrar.Json.Basic

/-!
This module contains the text of documents, without any space between their parts.
-/

namespace Registrar.Json

def escape (c : Char) : List Char :=
  if c = '"' then ['\\', '"']
  else if c = '\\' then ['\\', '\\']
  else if c = '\x08' then ['\\', 'b']
  else if c = '\x0c' then ['\\', 'f']
  else if c = '\n' then ['\\', 'n']
  else if c = '\r' then ['\\', 'r']
  else if c = '\t' then ['\\', 't']
  else if c.toNat < 0x20 then
    ['\\', 'u', '0', '0', Hex.digit (c.toNat / 16), Hex.digit (c.toNat % 16)]
  else [c]

def quote (s : String) : List Char :=
  '"' :: s.toList.flatMap escape ++ ['"']

mutual

def write : Json → List Char
  | .null => "null".toList
  | .bool b => if b then "true".toList else "false".toList
  | .number n => n.text.toList
  | .string s => quote s
  | .array [] => ['[', ']']
  | .array (j :: r) => '[' :: write j ++ writeItems r
  | .object [] => ['\x7b', '\x7d']
  | .object ((name, j) :: r) => '\x7b' :: quote name ++ ':' :: write j ++ writeMembers r
  | .broken => "\"\\ud800\"".toList

def writeItems : List Json → List Char
  | [] => [']']
  | j :: r => ',' :: write j ++ writeItems r

def writeMembers : List (String × Json) → List Char
  | [] => ['\x7d']
  | (name, j) :: r => ',' :: quote name ++ ':' :: write j ++ writeMembers r

end

def text (j : Json) : String :=
  String.ofList j.write

end Registrar.Json
