import Registrar.CommandLine.EnvironmentFile
import Registrar.CommandLine.Help
import Registrar.Settings.Layer
import Registrar.Wallet

/-!
This module contains the program as a whole: arguments and environment in, and a report of what is
printed out. What is written to the standard output stands for itself; failures are told in one line.
-/

namespace Registrar.CommandLine

structure Report where
  exitCode : UInt8 := 0
  /-- What is printed on the standard output. -/
  output : String := ""
  /-- What is printed on the standard error. -/
  error : String := ""
deriving Repr, DecidableEq

inductive RunError where
  | load (source : ConfigError)
  | settings (source : ConfigError)
  | noEndpoint
  | wallet (source : WalletError)
  | spec (source : SpecError)
  | operation (source : OperationError)
deriving Repr, DecidableEq

def RunError.message : RunError → String
  | .load source => "Failed to load operator configuration: " ++ source.message
  | .settings source => source.message
  | .noEndpoint => "No RPC endpoint: pass --rpc-url or set eth_rpc_url in the configuration"
  | .wallet source => source.message
  | .spec source => source.message
  | .operation source => source.message

abbrev Run := ExceptT RunError World

def ask (r : World.Request) : Run (World.Answer r) :=
  ExceptT.lift (World.ask r)

/-- Go on with a result, or fail. -/
def ofExcept {ε α : Type} (wrap : ε → RunError) (x : Except ε α) : Run α :=
  ExceptT.mk (pure (x.mapError wrap))

def inFile (path : String) : ConfigError → ConfigError
  | .read reason => .read (reason ++ " in " ++ path ++ " JSON file")
  | e => e

/-- The document of all settings. A file that is not found counts as none. -/
def loadSettings (environment : List (String × String)) : (config : Option String) → Run Json
  | none => ofExcept .load (Settings.document none environment)
  | some path => do
    let file ← ask (.closestFile path)
    ofExcept (fun e => .load (inFile path e)) (Settings.document file environment)

/-- The address of the node: the given one, or that in the settings. -/
def endpoint (given : Option Url) (document : Json) : Run Url :=
  match given with
  | some url => return url
  | none => do
    match ← ofExcept .settings (Settings.nodeUrl? document) with
    | none => throw .noEndpoint
    | some text =>
      match Url.read? text with
      | some url => return url
      | none => throw (.settings (.read "eth_rpc_url is no URL"))

def passwordVariable : String := "AVS_KEYSTORE_PASSWORD"

/-- The key of the wallet, if there is one. -/
def wallet (environment : List (String × String)) (c : CommandLine) :
    Run (Option Secp256k1.SecretKey) :=
  match c.privateKey, c.keystore with
  | some digits, _ => ofExcept .wallet ((Wallet.ofDigits digits).map some)
  | none, some path => do
    let key ← ExceptT.lift (Wallet.ofKeystore path (Assoc.find? passwordVariable environment))
    ofExcept .wallet (key.map some)
  | none, none => return none

def outcomeText {α : Type} (text : α → String) : Outcome α → String
  | .unsupported message => message
  | .completed a => text a

def transactionText (o : TransactionOutcome) : String :=
  if o.isDryRun then "Dry run, signed transaction " ++ Hex.encodeMarked o.hash
  else "Transaction " ++ Hex.encodeMarked o.hash ++ " succeeded"

/-- Carry out a command; gives the text that tells how it ended. -/
def carryOut : Command → Engine String
  | .standard .status => (Session.status).map (outcomeText Decimal.intText)
  | .standard o => (Session.executeStandard o).map (outcomeText transactionText)
  | .execute operation => (Session.execute operation).map (outcomeText transactionText)
  | .call operation arguments =>
    let given := if arguments.isEmpty then none else some arguments
    (Session.call operation given).map (outcomeText Value.text)

/-- Do what the arguments say; gives the text to be printed. -/
def perform (environment : List (String × String)) (c : CommandLine) : Run String := do
  let document ← loadSettings environment c.config
  let node ← endpoint c.rpcUrl document
  let key ← wallet environment c
  let settings := Settings.ofJson document
  let partners : World.Partners :=
    { root := c.repository, settings, node
      submitter := { key, dryRun := c.dryRun, patience := c.receiptTimeout + 1 } }
  let spec ← ExceptT.lift ((Specification.load c.avs).run partners.serve)
  let spec ← ofExcept .spec spec
  let (result, _) ←
    ExceptT.lift (((carryOut c.command).start (Session.start spec settings)).run partners.serve)
  ofExcept .operation result

def usageReport (environment : List (String × String)) : UsageError → Report
  | .help command => { output := helpText environment command }
  | .version => { output := versionText }
  | e => { exitCode := 2, error := "error: " ++ e.message ++ "\n\n" ++ usageHint }

def failureReport (e : RunError) : Report :=
  { exitCode := 1, error := "Error: " ++ userFacingMessage e.message ++ "\n" }

def environmentFile : String := ".env"

def run (environment : List (String × String)) (arguments : List String) : World Report := do
  let file ← World.ask (.closestFile environmentFile)
  let environment := EnvironmentFile.load environment (file.getD "")
  match read environment arguments with
  | .error e => return usageReport environment e
  | .ok c =>
    match ← (perform environment c).run with
    | .error e => return failureReport e
    | .ok text => return { output := text ++ "\n" }

end Registrar.CommandLine
