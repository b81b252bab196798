import Registrar.Json.Reader
import Registrar.Json.Writer
import Registrar.Rpc
import Registrar.Text.Utf8
import Registrar.Url

/-!
This module contains the messages by which a node is asked over a connection that ends with the
answer: the request with its document, and the reading of a response.
-/

namespace Registrar.Rpc.Message

def target (url : Url) : String :=
  String.ofList (url.path.text ++ url.queryText)

def lineBreak : String := "\r\n"

def request (url : Url) (r : Request) : Bytes :=
  let document := Bytes.ofString r.toJson.text
  let host := (url.authority.map fun a => String.ofList a.text).getD ""
  let lines :=
    ["POST " ++ target url ++ " HTTP/1.1", "Host: " ++ host, "Accept: */*", "Connection: close",
     "Content-Type: application/json", "Content-Length: " ++ Decimal.text document.length, ""]
  Bytes.ofString (String.join (lines.map (· ++ lineBreak))) ++ document

/-- The bytes of a message, one character for each. -/
def characters (b : Bytes) : List Char :=
  b.map fun x => Char.ofNat x.toNat

def bytes (s : List Char) : Bytes :=
  s.map fun c => UInt8.ofNat c.toNat

def sizeOf (s : List Char) : Nat :=
  let digit? (c : Char) := if c.toNat < 128 then Hex.digitValue? (UInt8.ofNat c.toNat) else none
  (s.takeWhile fun c => (digit? c).isSome).foldl (fun n c => 16 * n + (digit? c).getD 0) 0

/-- Put the pieces of a body together, each of which follows a line with its size. -/
def joinChunks : (fuel : Nat) → List Char → List Char
  | 0, _ => []
  | n + 1, s =>
    match Text.cutWord? lineBreak.toList s with
    | none => []
    | some (line, r) =>
      let size := sizeOf line
      if size = 0 then [] else r.take size ++ joinChunks n (r.drop (size + 2))

def status? (head : List (List Char)) : Option Nat := do
  match Text.fields ' ' (← head.head?) with
  | _ :: status :: _ => Decimal.read? status
  | _ => none

def isChunked (head : List (List Char)) : Bool :=
  head.any fun line =>
    let line := String.ofList (line.map Char.toLower)
    line.startsWith "transfer-encoding:" && line.endsWith "chunked"

def refusal (status : Nat) (body : String) : Failure :=
  .transport ("HTTP error " ++ Decimal.text status ++
    if body.isEmpty then " with empty body" else " with body: " ++ body)

/-- The document that a body holds, or what it says instead. -/
def readBody (status : Nat) (body : String) : Except Failure Json :=
  if status / 100 ≠ 2 then .error (refusal status body)
  else
    match Json.read body with
    | .ok j => replyOf j
    | .error fault => .error (.malformed fault.message)

def readResponse (response : Bytes) : Except Failure Json :=
  match Text.cutWord? (lineBreak ++ lineBreak).toList (characters response) with
  | none => .error (.malformed "the response ends too early")
  | some (head, body) =>
    let head := (Text.fields '\n' head).map (·.filter (· ≠ '\r'))
    let body := if isChunked head then joinChunks body.length body else body
    readBody ((status? head).getD 0) (String.ofList (Text.Utf8.decodeLossy (bytes body)))

end Registrar.Rpc.Message
