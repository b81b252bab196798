import Registrar.Power
import Registrar.Session.Operation
import Registrar.Url

/-!
This module contains the arguments of the program. Options stand in front of the command. The value
of an option is checked when the next option is met or the arguments come to an end, after those of
the command; an option that is not given takes its value from a variable of the environment.
-/

namespace Registrar

inductive Command where
  | standard (o : StandardOperation)
  | execute (operation : String)
  | call (operation : String) (arguments : List String)
deriving Repr, DecidableEq

structure CommandLine where
  repository : String
  avs : String
  config : Option String
  rpcUrl : Option Url
  privateKey : Option String
  keystore : Option String
  dryRun : Bool
  receiptTimeout : Nat
  command : Command
deriving Repr, DecidableEq

inductive UsageError where
  /-- Help is asked for, about the program or a command. -/
  | help (command : Option String)
  | version
  /-- There are no arguments at all. -/
  | noArguments
  | missingCommand
  | missingArgument
  | unknownCommand
  | unknownArgument
  | tooManyValues
  | conflict
  /-- The value of an option is not of its sort. -/
  | malformedValue
  /-- The value of an option is missing or not allowed. -/
  | invalidValue
deriving Repr, DecidableEq

def UsageError.message : UsageError → String
  | .help _ => "help was asked for"
  | .version => "the version was asked for"
  | .noArguments => "there are no arguments"
  | .missingCommand => "a command is needed"
  | .missingArgument => "a required argument is missing"
  | .unknownCommand => "the command is not known"
  | .unknownArgument => "unexpected argument"
  | .tooManyValues => "an option has a value but takes none"
  | .conflict => "an argument is given twice, or together with one that excludes it"
  | .malformedValue => "the value of an option is malformed"
  | .invalidValue => "the value of an option is missing or not allowed"

namespace CommandLine

inductive Switch where
  | repository
  | avs
  | config
  | rpcUrl
  | privateKey
  | keystore
  | dryRun
  | receiptTimeout
deriving Repr, DecidableEq, Inhabited

namespace Switch

def all : List Switch :=
  [.repository, .avs, .config, .rpcUrl, .privateKey, .keystore, .dryRun, .receiptTimeout]

def name : Switch → String
  | .repository => "repository"
  | .avs => "avs"
  | .config => "config"
  | .rpcUrl => "rpc-url"
  | .privateKey => "private-key"
  | .keystore => "keystore"
  | .dryRun => "dry-run"
  | .receiptTimeout => "receipt-timeout-secs"

def variableName : Switch → String
  | .repository => "AVS_REPOSITORY"
  | .avs => "AVS_NAME"
  | .config => "AVS_CONFIG_FILE"
  | .rpcUrl => "AVS_ETH_RPC_URL"
  | .privateKey => "AVS_PRIVATE_KEY"
  | .keystore => "AVS_KEYSTORE"
  | .dryRun => "AVS_DRY_RUN"
  | .receiptTimeout => "AVS_RECEIPT_TIMEOUT_SECS"

def ofName? (name : String) : Option Switch :=
  all.find? fun s => s.name = name

def seconds? (text : String) : Option Nat :=
  (Decimal.readPlus? text.toList).filter (· < 2 ^ 64)

def check (s : Switch) (value : String) : Except UsageError Unit :=
  match s with
  | .avs => .ok ()
  | .privateKey => .ok ()
  | .rpcUrl => if (Url.read? value).isSome then .ok () else .error .malformedValue
  | .receiptTimeout => if (seconds? value).isSome then .ok () else .error .malformedValue
  | .dryRun => if value = "true" ∨ value = "false" then .ok () else .error .invalidValue
  | _ => if value.isEmpty then .error .invalidValue else .ok ()

end Switch

/-- What has been read so far: options with their values, and one whose value has not been checked
or not been read. -/
structure Collected where
  given : List (Switch × String) := []
  pending : Option (Switch × Option String) := none

namespace Collected

def has (c : Collected) (s : Switch) : Bool :=
  c.given.any fun g => g.1 = s

def value? (c : Collected) (s : Switch) : Option String :=
  (c.given.find? fun g => g.1 = s).map (·.2)

/-- Add an option, which must not be there yet. -/
def add (c : Collected) (s : Switch) (value : String) : Except UsageError Collected := do
  if c.has s then throw .conflict
  s.check value
  return { c with given := c.given ++ [(s, value)] }

def settle (c : Collected) : Except UsageError Collected :=
  match c.pending with
  | none => .ok c
  | some (_, none) => .error .invalidValue
  | some (s, some value) => Collected.add { c with pending := none } s value

def awaitsValue (c : Collected) : Bool :=
  match c.pending with
  | some (_, none) => true
  | _ => false

def addVariables (environment : List (String × String)) (c : Collected) :
    List Switch → Except UsageError Collected
  | [] => .ok c
  | s :: r =>
    match if c.has s then none else Assoc.find? s.variableName environment with
    | none => addVariables environment c r
    | some value => do
      let c ← c.add s value
      addVariables environment c r

end Collected

/-- The commands that are no operations of every specification, and the one that shows help. -/
def otherCommands : List String :=
  ["execute", "call", "help"]

def standardCommand? (name : String) : Option StandardOperation :=
  [StandardOperation.register, .optIn, .optOut, .deregister, .status].find? fun o => o.name = name

def isCommand (name : String) : Bool :=
  (standardCommand? name).isSome || otherCommands.contains name

/-- An argument that is an option: its name, and the value behind an equals sign. -/
def long? (argument : String) : Option (String × Option String) :=
  (Text.stripStart? "--".toList argument.toList).map fun s =>
    match Text.cut? '=' s with
    | some (name, value) => (String.ofList name, some (String.ofList value))
    | none => (String.ofList s, none)

def short? (argument : String) : Option Char :=
  match argument.toList with
  | '-' :: c :: _ => some c
  | _ => none

/-- Read an option of a command, which has only one: help. -/
def commandOption (command : String) (argument : String) : Option UsageError :=
  match long? argument with
  | some ("help", none) => some (.help (some command))
  | some ("help", some _) => some .tooManyValues
  | some _ => some .unknownArgument
  | none =>
    match short? argument with
    | some 'h' => some (.help (some command))
    | some _ => some .unknownArgument
    | none => none

/-- Read the arguments of a command that has up to `limit` of them. Behind two dashes, and behind the
first argument of a list without end, everything is an argument. -/
def readOperands (command : String) (limit : Option Nat) (trailing : Bool) (made : List String) :
    List String → Except UsageError (List String)
  | [] => .ok made
  | argument :: r =>
    if !trailing && argument = "--" then readOperands command limit true made r
    else
      match if trailing then none else commandOption command argument with
      | some e => .error e
      | none =>
        if limit.any (made.length ≥ ·) then .error .unknownArgument
        else
          let trailing := trailing || (limit.isNone && !made.isEmpty)
          readOperands command limit trailing (made ++ [argument]) r

def readCommand (name : String) (arguments : List String) : Except UsageError Command :=
  match standardCommand? name with
  | some o => (readOperands name (some 0) false [] arguments).map fun _ => .standard o
  | none => do
    match ← readOperands name (if name = "call" then none else some 1) false [] arguments with
    | [] => throw .missingArgument
    | operation :: r => return if name = "call" then .call operation r else .execute operation

def readHelp : List String → UsageError
  | [] => .help none
  | [name] => if isCommand name then .help (some name) else .unknownCommand
  | _ => .unknownCommand

/-- Read options up to a command, and the command. -/
def readOptions (c : Collected) (trailing : Bool) :
    List String → Except UsageError (Collected × Option Command)
  | [] => .ok (c, none)
  | argument :: r =>
    if trailing then .error (if isCommand argument then .unknownArgument else .unknownCommand)
    else if !c.awaitsValue && argument = "help" then .error (readHelp r)
    else if !c.awaitsValue && isCommand argument then
      (readCommand argument r).map fun command => (c, some command)
    else if argument = "--" then readOptions c true r
    else
      match long? argument with
      | some ("help", none) => c.settle >>= fun _ => .error (.help none)
      | some ("version", none) => c.settle >>= fun _ => .error .version
      | some (name, value) =>
        match Switch.ofName? name, value with
        | none, some _ =>
          .error (if name = "help" ∨ name = "version" then .tooManyValues else .unknownArgument)
        | none, none => .error .unknownArgument
        | some .dryRun, some _ => .error .tooManyValues
        | some .dryRun, none => do
          let c ← c.settle
          let c ← c.add .dryRun "true"
          readOptions c false r
        | some s, some value => do
          let c ← c.settle
          let c ← c.add s value
          readOptions c false r
        | some s, none => do
          let c ← c.settle
          readOptions { c with pending := some (s, none) } false r
      | none =>
        match short? argument, c.pending with
        | some 'h', _ => c.settle >>= fun _ => .error (.help none)
        | some 'V', _ => c.settle >>= fun _ => .error .version
        | some _, _ => .error .unknownArgument
        | none, some (s, none) => readOptions { c with pending := some (s, some argument) } false r
        | none, _ => .error .unknownCommand

def defaultRepository : String := "./avs-specs"

def defaultTimeout : Nat := 120

/-- Read the arguments of the program, with variables of the environment. -/
def read (environment : List (String × String)) (arguments : List String) :
    Except UsageError CommandLine := do
  let (c, command) ← readOptions {} false arguments
  let c ← c.settle
  let c ← c.addVariables environment Switch.all
  match command with
  | none => throw (if c.given.isEmpty then .noArguments else .missingCommand)
  | some command =>
    if c.has .privateKey && c.has .keystore then throw .conflict
    match c.value? .avs with
    | none => throw .missingArgument
    | some avs =>
      return { repository := (c.value? .repository).getD defaultRepository
               avs
               config := c.value? .config
               rpcUrl := c.value? .rpcUrl >>= Url.read?
               privateKey := c.value? .privateKey
               keystore := c.value? .keystore
               dryRun := c.value? .dryRun = some "true"
               receiptTimeout := (c.value? .receiptTimeout >>= Switch.seconds?).getD defaultTimeout
               command }

end CommandLine

end Registrar
