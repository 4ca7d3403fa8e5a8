import QualityGate.Decimal
import QualityGate.Text.Quoted

/-!
# What can be wrong with a JSON text

A cause says what is wrong; a fault is a cause with the place where it was noticed.  Places count
lines from one and the bytes that were read in that line.
-/

namespace QualityGate

/-- A value where another kind of value was expected. -/
inductive Unexpected where
  | null
  | boolean (value : Bool)
  | natural (value : Nat)
  | negative (magnitude : Nat)
  | float (value : Float)
  | text (value : String)
  | sequence
  | map
  | unitVariant

namespace Unexpected

/-- A value in words. -/
def message : Unexpected → String
  | .null => "null"
  | .boolean value => "boolean `" ++ (if value then "true" else "false") ++ "`"
  | .natural value => "integer `" ++ Text.decimal value ++ "`"
  | .negative magnitude => "integer `-" ++ Text.decimal magnitude ++ "`"
  | .float value => "floating point `" ++ Decimal.render value ++ "`"
  | .text value => "string " ++ Text.quoted value
  | .sequence => "sequence"
  | .map => "map"
  | .unitVariant => "unit variant"

end Unexpected

/-- Why a text or a value could not be decoded. -/
inductive Cause where
  | endInValue
  | endInText
  | endInObject
  | endInList
  | expectedValue
  | expectedIdentifier
  | expectedColon
  | expectedCommaOrBrace
  | expectedCommaOrBracket
  | keyNotText
  | trailingComma
  | trailingCharacters
  | invalidEscape
  | invalidNumber
  | numberOutOfRange
  | endOfHexEscape
  | loneSurrogate
  | controlCharacter
  | tooDeep
  | missingField (name : String)
  | duplicateField (name : String)
  | unknownVariant (name : String) (known : List String)
  | invalidType (unexpected : Unexpected) (expecting : String)
  | invalidValue (unexpected : Unexpected) (expecting : String)
  | invalidLength (length : Nat) (expecting : String)
  | other (message : String)

namespace Cause

/-- Alternatives in words. -/
def alternatives (known : List String) : String :=
  let quotedNames := known.map fun name => "`" ++ name ++ "`"
  match quotedNames with
  | [] => "there are no variants"
  | [only] => "expected " ++ only
  | [first, second] => "expected " ++ first ++ " or " ++ second
  | several => "expected one of " ++ String.intercalate ", " several

/-- A cause in words. -/
def message : Cause → String
  | .endInValue => "EOF while parsing a value"
  | .endInText => "EOF while parsing a string"
  | .endInObject => "EOF while parsing an object"
  | .endInList => "EOF while parsing a list"
  | .expectedValue => "expected value"
  | .expectedIdentifier => "expected ident"
  | .expectedColon => "expected `:`"
  | .expectedCommaOrBrace => "expected `,` or `\x7d`"
  | .expectedCommaOrBracket => "expected `,` or `]`"
  | .keyNotText => "key must be a string"
  | .trailingComma => "trailing comma"
  | .trailingCharacters => "trailing characters"
  | .invalidEscape => "invalid escape"
  | .invalidNumber => "invalid number"
  | .numberOutOfRange => "number out of range"
  | .endOfHexEscape => "unexpected end of hex escape"
  | .loneSurrogate => "lone leading surrogate in hex escape"
  | .controlCharacter => "control character (\\u0000-\\u001F) found while parsing a string"
  | .tooDeep => "recursion limit exceeded"
  | .missingField name => "missing field `" ++ name ++ "`"
  | .duplicateField name => "duplicate field `" ++ name ++ "`"
  | .unknownVariant name known => "unknown variant `" ++ name ++ "`, " ++ alternatives known
  | .invalidType unexpected expecting =>
    "invalid type: " ++ unexpected.message ++ ", expected " ++ expecting
  | .invalidValue unexpected expecting =>
    "invalid value: " ++ unexpected.message ++ ", expected " ++ expecting
  | .invalidLength length expecting =>
    "invalid length " ++ Text.decimal length ++ ", expected " ++ expecting
  | .other message => message

end Cause

/-- A place in a text. -/
structure Place where
  line : Nat
  column : Nat
deriving Repr, DecidableEq

/-- A cause, with the place where it was noticed if that is known. -/
structure Fault where
  cause : Cause
  place? : Option Place

namespace Fault

/-- A fault in words. -/
def message (fault : Fault) : String :=
  match fault.place? with
  | none => fault.cause.message
  | some place =>
    fault.cause.message ++ " at line " ++ Text.decimal place.line ++ " column " ++
      Text.decimal place.column

end Fault
end QualityGate
