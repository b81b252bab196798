import Registrar.CommandLine.Run
import Registrar.Rpc.Message
import Std.Async.DNS
import Std.Async.TCP
import Std.Internal.UV.System
import Std.Time

/-!
This module contains the program: the world that a run asks, made of files, connections, the terminal
and the clock.
-/

namespace Registrar.Program

def faultOf : IO.Error → FileFault
  | .noFileOrDirectory _ _ _ => .missing
  | .inappropriateType _ code detail => .ofCode code.toNat detail
  | .permissionDenied _ code detail => .ofCode code.toNat detail
  | .invalidArgument _ code detail => .ofCode code.toNat detail
  | e => .other e.toString

def readFile (path : String) : IO (Except FileFault String) := do
  if path.isEmpty then return .error .missing
  if path.toList.contains '\x00' then return .error .badName
  try
    let content ← IO.FS.readBinFile path
    let text := String.fromUTF8? content
    return .ok (text.getD (String.ofList (Text.Utf8.decodeLossy content.toList)))
  catch e => return .error (faultOf e)

def readFirst : List String → IO (Option String)
  | [] => return none
  | path :: r => do
    match ← readFile path with
    | .ok text => return some text
    | .error _ => readFirst r

def readClosest (path : String) : IO (Option String) := do
  let directory ← IO.currentDir
  readFirst ((ancestors directory.toString).map fun d => joinPath d path)

/-- Ask the operator. An answer that is not to be shown is written in invisible letters. -/
def ask (text : String) (isHidden : Bool) : IO (Except String String) := do
  let input ← IO.getStdin
  if !(← input.isTty) then return .error "IO error: not a terminal"
  IO.eprint (text ++ ": " ++ if isHidden then "\x1b[8m" else "")
  let line ← input.getLine
  if isHidden then IO.eprint "\x1b[0m"
  return .ok (String.ofList (line.toList.filter fun c => c ≠ '\n' && c ≠ '\r'))

def addressesOf (host : Host) : IO (Array Std.Net.IPAddr) :=
  let name := String.ofList (host.text.filter fun c => c ≠ '[' && c ≠ ']')
  (Std.Async.DNS.getAddrInfo name "").block

def socketAddress (address : Std.Net.IPAddr) (port : UInt16) : Std.Net.SocketAddress :=
  match address with
  | .v4 a => .v4 ⟨a, port⟩
  | .v6 a => .v6 ⟨a, port⟩

partial def receive (client : Std.Async.TCP.Socket.Client) (received : ByteArray) :
    IO ByteArray := do
  match ← (client.recv? 65536).block with
  | none => return received
  | some part => receive client (received ++ part)

def transmit (url : Url) (message : Bytes) : IO Bytes := do
  let some authority := url.authority | throw (IO.userError "there is no host")
  if String.ofList url.scheme ≠ "http" then throw (IO.userError "the connection is not supported")
  let port := authority.port.getD ((Scheme.defaultPort? url.scheme).getD 0)
  let addresses ← addressesOf authority.host
  let some address := addresses[0]? | throw (IO.userError "the host has no address")
  let client ← Std.Async.TCP.Socket.Client.mk
  (client.connect (socketAddress address (UInt16.ofNat port))).block
  (client.send (ByteArray.mk message.toArray)).block
  return (← receive client .empty).toList

/-- How long to wait before a receipt is asked for, in milliseconds. -/
def receiptPause : UInt32 := 1000

def askNode (url : Url) (r : Rpc.Request) : IO (Except Rpc.Failure Json) := do
  if r.method = "eth_getTransactionReceipt" then IO.sleep receiptPause
  try
    return Rpc.Message.readResponse (← transmit url (Rpc.Message.request url r))
  catch _ => return .error (World.unreachable url)

def time : IO UInt64 := do
  let now ← Std.Time.Timestamp.now
  return UInt64.ofInt now.toNanosecondsSinceUnixEpoch.val

def answer : (r : World.Request) → IO (World.Answer r)
  | .file path => readFile path
  | .closestFile path => readClosest path
  | .node url r => askNode url r
  | .question text isHidden => ask text isHidden
  | .clock => time

end Registrar.Program

def main (arguments : List String) : IO UInt32 := do
  let environment ← Std.Internal.UV.System.osEnviron
  let run := Registrar.CommandLine.run environment.toList arguments
  let report ← run.run Registrar.Program.answer
  IO.print report.output
  IO.eprint report.error
  return report.exitCode.toUInt32
