import Registrar.Keystore
import Registrar.Repository
import Registrar.Rpc.Submission
import Registrar.Session
import Registrar.Url

/-!
This module contains what the program asks the world around it, and how a session is served by the
world: resources and keys come from files, answers about the chain from a node, and everything else
that is asked from the operator.
-/

namespace Registrar

namespace World

inductive Request where
  /-- The content of the file at a path. -/
  | file (path : String)
  /-- The content of the file at a path in the working directory or the closest one above it that
  has such a file. -/
  | closestFile (path : String)
  /-- The answer of a node. -/
  | node (url : Url) (r : Rpc.Request)
  /-- The answer of the operator to a question, which is not shown if `hidden`. -/
  | question (text : String) (hidden : Bool)
  /-- The time in nanoseconds. -/
  | clock
deriving Repr, DecidableEq

def Answer : Request → Type
  | .file _ => Except FileFault String
  | .closestFile _ => Option String
  | .node _ _ => Except Rpc.Failure Json
  | .question _ _ => Except String String
  | .clock => UInt64

end World

abbrev World := Interaction World.Request World.Answer

namespace World

def ask (r : Request) : World (Answer r) :=
  Interaction.request r

def exchange {α : Type} (url : Url) (x : Interaction Rpc.Request Rpc.Reply α) : World α :=
  x.run fun r => ask (.node url r)

/-- The failure of a request that no node answers. It tells the URL without the credentials. -/
def unreachable (url : Url) : Rpc.Failure :=
  .transport ("error sending request for url (" ++ url.withoutCredentials.toText ++ ")")

def promptAnswer (key : String) (required : Bool) (answer : Except String String) :
    Except ConfigError String :=
  match answer with
  | .error reason => .error (.prompt key reason)
  | .ok text => if required && text.isEmpty then .error (.empty key) else .ok text

structure Partners where
  /-- The directory of the repository. -/
  root : String
  settings : Settings
  /-- The address of the node. -/
  node : Url
  submitter : Rpc.Submitter

def Partners.serve (p : Partners) : (r : Registrar.Request) → World (Registrar.Answer r)
  | .resource name resource => do
    let content ← ask (.file (Repository.path p.root name resource))
    return Repository.resource p.root name resource content
  | .setting key => return p.settings.find? key
  | .prompt key required hidden => do
    let answer ← ask (.question key hidden)
    return promptAnswer key required answer
  | .chainId => exchange p.node Rpc.Client.chainId
  | .blockTimestamp => exchange p.node Rpc.Client.timestamp
  | .hasCode address => exchange p.node (Rpc.Client.hasCode address)
  | .call target calldata => exchange p.node (Rpc.Client.call target calldata)
  | .submit t => exchange p.node (p.submitter.submit t)
  | .publicKey key => do
    let content ← ask (.file key.file)
    return key.publicKey content
  | .sign key digest => do
    let content ← ask (.file key.file)
    return key.sign content digest
  | .clock => ask .clock

end World

end Registrar
