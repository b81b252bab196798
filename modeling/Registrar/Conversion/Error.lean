import Registrar.Hex
import Registrar.Kind

/-!
This module contains the reasons why a value has no counterpart of a wanted kind, and their texts.
-/

namespace Registrar

inductive ReadFault where
  | notBoolean
  /-- An unsigned integer is written with digits only. -/
  | notUnsigned
  | noDigits
  | badDigit
  | tooLarge
  | tooSmall
  /-- An unsigned integer takes more than a word. -/
  | beyondUnsignedWord
  /-- A signed integer takes more than a word. -/
  | beyondSignedWord
  /-- The first byte of a wide signed integer that is no digit, as the character with its
  number. -/
  | strangeDigit (c : Char)
  | outOfRange (kind : Kind)
  /-- A word is no integer of the width it is narrowed to. -/
  | beyondNarrowing
  | notHex (fault : Hex.Fault)
deriving Repr, DecidableEq

def ReadFault.message : ReadFault → String
  | .notBoolean => "not a boolean"
  | .notUnsigned => "not a base-10 unsigned integer"
  | .noDigits => "cannot parse integer from empty string"
  | .badDigit => "invalid digit found in string"
  | .tooLarge => "number too large to fit in target type"
  | .tooSmall => "number too small to fit in target type"
  | .beyondUnsignedWord => "the value is too large to fit the target type"
  | .beyondSignedWord => "number does not fit in the integer size"
  | .strangeDigit c => "invalid digit: " ++ String.singleton c
  | .outOfRange kind => "value out of range for " ++ kind.name
  | .beyondNarrowing => "output of range integer conversion attempted"
  | .notHex fault => fault.message

inductive ConversionError where
  /-- There is no kind of this name. -/
  | unsupportedKind (name : String)
  /-- The text of a value does not denote anything of the wanted kind. -/
  | parse (text : String) (kind : String) (reason : ReadFault)
  /-- Values of this sort have no counterpart of the wanted kind. -/
  | coercion (text : String) (expected : String)
  | missingField (name : String)
deriving Repr, DecidableEq

def ConversionError.message : ConversionError → String
  | .unsupportedKind name => "unsupported type " ++ name
  | .parse text kind reason =>
    "cannot parse " ++ text ++ " as " ++ kind ++ ": " ++ reason.message
  | .coercion text expected => "cannot encode " ++ text ++ " as " ++ expected
  | .missingField name => "record is missing field " ++ name

end Registrar
