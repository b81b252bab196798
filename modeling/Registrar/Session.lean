import Registrar.Builtin
import Registrar.Cache
import Registrar.Contract
import Registrar.Interaction
import Registrar.Spec.Document

/-!
This module contains sessions: what is known while the operations of one service are carried out,
what a session may ask the outside, and the computations that change a session on the way to a
result or an error. What has been learned before an error is kept. A session also says which
contract a request is about, what it has loaded and which salts and times it has made; nobody has to
answer that.
-/

namespace Registrar

inductive Request where
  /-- A resource of the service of the given name. -/
  | resource (name : String) (resource : String)
  | setting (key : String)
  /-- A question to the operator, whose answer is not shown if `hidden`. -/
  | prompt (key : String) (required : Bool) (hidden : Bool)
  | chainId
  /-- The time of the latest block in seconds. -/
  | blockTimestamp
  | hasCode (address : Address)
  /-- What a read of a contract returns. -/
  | call (target : Address) (calldata : Bytes)
  | submit (t : Transaction)
  | publicKey (key : KeyDescriptor)
  | sign (key : KeyDescriptor) (digest : SigningDigest)
  /-- The time in nanoseconds. -/
  | clock
deriving Repr, DecidableEq

def Answer : Request → Type
  | .resource _ _ => Except RepositoryError String
  | .setting _ => Option Json
  | .prompt _ _ _ => Except ConfigError String
  | .chainId => Except ChainError UInt64
  | .blockTimestamp => Except ChainError UInt64
  | .hasCode _ => Except ChainError Bool
  | .call _ _ => Except ChainError Bytes
  | .submit _ => Except TransactionError TransactionOutcome
  | .publicKey _ => Except SignerError PublicKey
  | .sign _ _ => Except SignerError Signature
  | .clock => UInt64

/-- The contracts of a service, by what they are to it. -/
inductive Role where
  | primary
  | delegate (name : String)
deriving Repr, DecidableEq, Inhabited

inductive Remark where
  /-- An expression has been loaded. -/
  | loaded (key : String) (v : Value)
  /-- A function has made a value, which is the latest of its kind. -/
  | made (maker : Builtin) (v : Value)
deriving Repr

inductive Query where
  /-- A request, and the contract it is about if it is about one. -/
  | request (about : Option Role) (r : Request)
  /-- A remark, which needs no answer. -/
  | remark (m : Remark)
deriving Repr

namespace Query

def Reply : Query → Type
  | .request _ r => Answer r
  | .remark _ => Unit

def requestsOnly {α : Type} : Interaction Query Reply α → Interaction Request Answer α
  | .done a => .done a
  | .ask (.request _ r) resume => .ask r fun x => requestsOnly (resume x)
  | .ask (.remark _) resume => requestsOnly (resume ())

end Query

structure Session where
  spec : Specification
  cache : Cache := {}
  /-- The interfaces that have been read, by their resources. -/
  interfaces : List (String × Interface) := []
  /-- The primary contract, once it is bound. -/
  primary : Option Contract := none
  /-- The delegates that are bound, by their names. -/
  delegates : List (String × Contract) := []

abbrev Engine := ExceptT OperationError (StateT Session (Interaction Query Query.Reply))

namespace Session

def specificationSpace : String := "spec:"

def settingSpace : String := "config:"

def seedSettings : Cache → List (String × Json) → Cache
  | c, [] => c
  | c, (name, j) :: r => seedSettings (c.store (settingSpace ++ name) (Value.ofJson j)) r

/-- The session in which nothing has been done, which knows the specification and the settings. -/
def start (spec : Specification) (settings : Settings) : Session where
  spec := spec
  cache := seedSettings (Cache.seed {} specificationSpace spec.toJson) settings.toList

end Session

namespace Engine

def put (q : Query) : Engine q.Reply :=
  ExceptT.lift (StateT.lift (Interaction.request q))

def ask (r : Request) : Engine (Answer r) :=
  put (.request none r)

def askAbout (role : Role) (r : Request) : Engine (Answer r) :=
  put (.request (some role) r)

def say (m : Remark) : Engine Unit :=
  put (.remark m)

/-- Go on with a result, or fail with an error that has been made fit by `wrap`. -/
def ofExcept {ε α : Type} (wrap : ε → OperationError) : Except ε α → Engine α
  | .ok a => pure a
  | .error e => throw (wrap e)

def within {α : Type} (wrap : OperationError → OperationError) (x : Engine α) : Engine α :=
  ExceptT.adapt wrap x

def store (key : String) (v : Value) : Engine Unit :=
  modify fun s => { s with cache := s.cache.store key v }

def memoize (key : String) (v : Value) : Engine Unit :=
  modify fun s => { s with cache := s.cache.memoize key v }

def start {α : Type} (x : Engine α) (s : Session) :
    Interaction Request Answer (Except OperationError α × Session) :=
  Query.requestsOnly ((ExceptT.run x).run s)

end Engine

def Specification.load (name : String) :
    Interaction Request Answer (Except SpecError Specification) := do
  let document : Except RepositoryError String ←
    Interaction.request (Request.resource name specificationResource)
  return (document.mapError (.load name)).bind (Specification.read name)

end Registrar
