import Registrar.Abi.Interface
import Registrar.Chain
import Registrar.Conversion.Error
import Registrar.Settings
import Registrar.Signing
import Registrar.Spec.Error
import Registrar.Transaction
import Registrar.Transform

/-!
This module contains the failures of operations. An error that arises while something else is being
established is wrapped into an error that says what that was.
-/

namespace Registrar

inductive ResolutionError where
  | invalidKeyFormat (key : String)
  | invalidFunction (name : String)
  | malformedFunctionParameter (text : String)
  | requiredValueMissing (key : String)
  | missingParameter (function : String) (parameter : String)
  | parameterType (function : String) (parameter : String) (expected : String)
  | invalidParameter (function : String) (parameter : String) (reason : String)
  | conversion (source : ConversionError)
  | transform (source : TransformError)
deriving Repr, DecidableEq

def ResolutionError.message : ResolutionError → String
  | .invalidKeyFormat key => "invalid key format: " ++ key
  | .invalidFunction name => "invalid function: " ++ name
  | .malformedFunctionParameter text => "malformed function parameter: " ++ text
  | .requiredValueMissing key => "required value missing: " ++ key
  | .missingParameter function parameter =>
    "function " ++ function ++ " is missing parameter " ++ parameter
  | .parameterType function parameter expected =>
    "parameter " ++ parameter ++ " of function " ++ function ++ " must be " ++ expected
  | .invalidParameter function parameter reason =>
    "invalid parameter " ++ parameter ++ " of function " ++ function ++ ": " ++ reason
  | .conversion source => source.message
  | .transform source => source.message

inductive InterfaceFault where
  | repository (source : RepositoryError)
  | document (source : Interface.Fault)
deriving Repr, DecidableEq

def InterfaceFault.message : InterfaceFault → String
  | .repository source => source.message
  | .document source => source.message

inductive BindFault where
  | noCode
  | chain (source : ChainError)
deriving Repr, DecidableEq

def BindFault.message : BindFault → String
  | .noCode => "no contract code at address"
  | .chain source => source.message

inductive DecodeFault where
  | noValues
  | malformed (detail : String)
deriving Repr, DecidableEq

def DecodeFault.message : DecodeFault → String
  | .noValues => "method returned no values"
  | .malformed detail => detail

inductive OperationError where
  | notSupported (operation : String)
  | spec (source : SpecError)
  | key (source : ResolutionError)
  | resolution (expression : String) (source : OperationError)
  | parameterMapping (method : String) (index : Nat) (source : OperationError)
  | parameterCount (method : String) (expected actual : Nat)
  | abiLoad (resource : String) (reason : InterfaceFault)
  | bind (contract : String) (address : Address) (reason : BindFault)
  | methodNotFound (contract : String) (method : String)
  | unknownDelegate (name : String)
  | delegateResolution (delegate : String) (source : OperationError)
  | encode (method : String) (reason : String)
  | decode (method : String) (reason : DecodeFault)
  | chain (source : ChainError)
  | transaction (source : TransactionError)
  | signer (source : SignerError)
  | config (source : ConfigError)
deriving Repr, DecidableEq

namespace OperationError

def message : OperationError → String
  | .notSupported operation => "operation " ++ operation ++ " is not supported"
  | .spec source => "Specification error: " ++ source.message
  | .key source => source.message
  | .resolution expression source =>
    "failed to resolve " ++ expression ++ ": " ++ source.message
  | .parameterMapping method index source =>
    "failed to map parameter " ++ Decimal.text index ++ " of " ++ method ++ ": " ++ source.message
  | .parameterCount method expected actual =>
    "method " ++ method ++ " expects " ++ Decimal.text expected ++ " parameters, got " ++
      Decimal.text actual
  | .abiLoad resource reason => "failed to load ABI " ++ resource ++ ": " ++ reason.message
  | .bind contract address reason =>
    "failed to bind contract " ++ contract ++ " at " ++ address.text ++ ": " ++ reason.message
  | .methodNotFound contract method =>
    "method " ++ method ++ " not found in ABI of " ++ contract
  | .unknownDelegate name => "delegate " ++ name ++ " is not declared"
  | .delegateResolution delegate source =>
    "failed to resolve delegate " ++ delegate ++ ": " ++ source.message
  | .encode method reason => "failed to encode call to " ++ method ++ ": " ++ reason
  | .decode method reason => "failed to decode result of " ++ method ++ ": " ++ reason.message
  | .chain source => "Chain error: " ++ source.message
  | .transaction source => "Transaction error: " ++ source.message
  | .signer source => "Signer error: " ++ source.message
  | .config source => "Configuration error: " ++ source.message

def ofConversion (e : ConversionError) : OperationError :=
  .key (.conversion e)

def ofTransform (e : TransformError) : OperationError :=
  .key (.transform e)

/-- The innermost error of a key expression, below the errors that say what it was needed for. -/
def root? : OperationError → Option ResolutionError
  | .key source => some source
  | .resolution _ source => root? source
  | .parameterMapping _ _ source => root? source
  | .delegateResolution _ source => root? source
  | _ => none

end OperationError

/-- What a user is shown of a message: what stands behind its last colon. -/
def userFacingMessage (message : String) : String :=
  match (Text.fields ':' message.toList).getLast? with
  | some part => String.ofList (Text.trim part)
  | none => message

end Registrar
