import Registrar.CommandLine.Arguments

/-!
This module contains the help texts of the program and of its commands. Options are listed with the
variables they can be taken from and what these hold, except that a secret is not shown.
-/

namespace Registrar.CommandLine

def programName : String := "avs-executor"

def programVersion : String := "0.1.0"

def programPurpose : String := "Declarative, specification-driven AVS registration engine"

def versionText : String :=
  programName ++ " " ++ programVersion ++ "\n"

def usageHint : String := "For more information, try '--help'.\n"

namespace Switch

def purpose : Switch → String
  | .repository => "Directory holding one sub-directory per AVS"
  | .avs => "Name of the AVS, i.e. its directory in the repository"
  | .config => "Operator configuration file (JSON)"
  | .rpcUrl =>
    "Ethereum RPC endpoint. Falls back to `eth_rpc_url` in the configuration file"
  | .privateKey => "Hex encoded ECDSA private key"
  | .keystore =>
    "Encrypted JSON keystore; its password is read from AVS_KEYSTORE_PASSWORD or prompted"
  | .dryRun => "Build and sign transactions without broadcasting them"
  | .receiptTimeout => "How long to wait for a transaction receipt"

/-- The name that stands for the value of an option, if it has one. -/
def valueName? (s : Switch) : Option String :=
  if s = .dryRun then none
  else some (String.ofList (s.name.toList.map fun c => if c = '-' then '_' else c.toUpper))

def default? : Switch → Option String
  | .repository => some defaultRepository
  | .receiptTimeout => some (Decimal.text defaultTimeout)
  | _ => none

def variableNote (environment : List (String × String)) (s : Switch) : String :=
  let held := (Assoc.find? s.variableName environment).getD ""
  " [env: " ++ s.variableName ++ (if s = .privateKey then "" else "=" ++ held) ++ "]"

def helpLines (environment : List (String × String)) (s : Switch) : List String :=
  let value := (s.valueName?.map fun v => " <" ++ v ++ ">").getD ""
  let default := (s.default?.map fun d => " [default: " ++ d ++ "]").getD ""
  ["      --" ++ s.name ++ value,
   "          " ++ s.purpose ++ variableNote environment s ++ default]

end Switch

def commandPurposes : List (String × String) :=
  [("register", "Register the operator with the AVS"),
   ("opt-in", "Opt the operator in"),
   ("opt-out", "Opt the operator out"),
   ("deregister", "Deregister the operator"),
   ("status", "Print the operator's registration status"),
   ("execute", "Submit any operation the specification declares"),
   ("call", "Read any operation the specification declares, optionally with explicit argument " ++
      "expressions"),
   ("help", "Print this message or the help of the given subcommand(s)")]

/-- The arguments of a command, with what they are for. -/
def commandOperands (command : String) : List (String × String) :=
  if command = "execute" then [("<OPERATION>", "")]
  else if command = "call" then [("<OPERATION>", ""), ("[ARGUMENTS]...", "")]
  else if command = "help" then [("[COMMAND]...", "Print help for the subcommand(s)")]
  else []

def padded (n : Nat) (text : String) : String :=
  text ++ String.ofList (List.replicate (n - text.length) ' ')

/-- Lines with two columns, two blanks apart. -/
def columns (rows : List (String × String)) : List String :=
  let width := (rows.map fun row => row.1.length).foldl max 0
  rows.map fun (left, right) => "  " ++ padded (width + 2) left ++ right

def ofLines (lines : List String) : String :=
  String.join (lines.map (· ++ "\n"))

def programHelp (environment : List (String × String)) : String :=
  ofLines
    ([programPurpose, "", "Usage: " ++ programName ++ " [OPTIONS] --avs <AVS> <COMMAND>", "",
      "Commands:"] ++ columns commandPurposes ++ ["", "Options:"] ++
      Switch.all.flatMap (Switch.helpLines environment) ++
      ["  -h, --help", "          Print help", "  -V, --version", "          Print version"])

def commandHelp (command : String) : String :=
  let operands := commandOperands command
  let usage := String.join (operands.map fun row => " " ++ row.1)
  ofLines
    ([(Assoc.find? command commandPurposes).getD "", "",
      "Usage: " ++ programName ++ " --avs <AVS> " ++ command ++ usage, ""] ++
      (if operands.isEmpty then [] else "Arguments:" :: columns operands) ++
      (if operands.isEmpty || command = "help" then [] else [""]) ++
      (if command = "help" then [] else ["Options:", "  -h, --help  Print help"]))

def helpText (environment : List (String × String)) : Option String → String
  | none => programHelp environment
  | some command => commandHelp command

end Registrar.CommandLine
