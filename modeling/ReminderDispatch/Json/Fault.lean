import ReminderDispatch.Text.Decimal
import ReminderDispatch.Text.Quoted

/-!
# Faults of JSON texts

Why a text was refused and where. A fault found in the syntax is placed at once; a fault of a value
as a whole is loose until the value that encloses it ends.
-/

namespace ReminderDispatch.Json

/-- Why a text was refused. -/
inductive Cause where
  /-- The text ends inside a list. -/
  | endInList
  /-- The text ends inside an object. -/
  | endInObject
  /-- The text ends inside a string. -/
  | endInString
  /-- The text ends where a value must stand or go on. -/
  | endInValue
  /-- No colon follows a key. -/
  | expectedColon
  /-- Neither a comma nor the end follows an element of a list. -/
  | expectedListNext
  /-- Neither a comma nor the end follows a member of an object. -/
  | expectedObjectNext
  /-- A word other than null, true and false. -/
  | expectedWord
  /-- No value starts here. -/
  | expectedValue
  /-- An escape that does not exist. -/
  | invalidEscape
  /-- A numeral breaks off or has a leading zero. -/
  | invalidNumber
  /-- A number beyond double precision. -/
  | numberOutOfRange
  /-- A string is not well-formed. -/
  | invalidCodePoint
  /-- A control character stands in a string. -/
  | controlCharacter
  /-- A key is not a string. -/
  | keyNotString
  /-- Half of a surrogate pair. -/
  | loneSurrogate
  /-- A comma before the end of a list or object. -/
  | trailingComma
  /-- Something follows the value. -/
  | trailingCharacters
  /-- The second half of a surrogate pair is missing. -/
  | endOfEscape
  /-- A value of another kind than the wanted one. -/
  | invalidType (found wanted : String)
  /-- A value of the wanted kind that does not fit. -/
  | invalidValue (found wanted : String)
  /-- A list of too few elements. -/
  | invalidLength (length : Nat) (wanted : String)
  /-- A member that must be there is not. -/
  | missingField (name : String)
  /-- A member that is there twice. -/
  | duplicateField (name : String)
  /-- A name that is none of the possible ones. -/
  | unknownVariant (name : String) (possible : List String)
  /-- A fault of the value in its own words. -/
  | refused (reason : String)
  deriving DecidableEq, Repr

/-- Names in back quotes, as alternatives. -/
def alternatives (names : List String) : String :=
  let quoted := names.map fun name => "`" ++ name ++ "`"
  match quoted with
  | [] => "nothing"
  | [name] => name
  | [first, second] => first ++ " or " ++ second
  | several => "one of " ++ ", ".intercalate several

/-- The cause in words. -/
def Cause.message : Cause → String
  | .endInList => "EOF while parsing a list"
  | .endInObject => "EOF while parsing an object"
  | .endInString => "EOF while parsing a string"
  | .endInValue => "EOF while parsing a value"
  | .expectedColon => "expected `:`"
  | .expectedListNext => "expected `,` or `]`"
  | .expectedObjectNext => "expected `,` or `\x7d`"
  | .expectedWord => "expected ident"
  | .expectedValue => "expected value"
  | .invalidEscape => "invalid escape"
  | .invalidNumber => "invalid number"
  | .numberOutOfRange => "number out of range"
  | .invalidCodePoint => "invalid unicode code point"
  | .controlCharacter => "control character (\\u0000-\\u001F) found while parsing a string"
  | .keyNotString => "key must be a string"
  | .loneSurrogate => "lone leading surrogate in hex escape"
  | .trailingComma => "trailing comma"
  | .trailingCharacters => "trailing characters"
  | .endOfEscape => "unexpected end of hex escape"
  | .invalidType found wanted => "invalid type: " ++ found ++ ", expected " ++ wanted
  | .invalidValue found wanted => "invalid value: " ++ found ++ ", expected " ++ wanted
  | .invalidLength length wanted =>
    "invalid length " ++ Text.decimal length ++ ", expected " ++ wanted
  | .missingField name => "missing field `" ++ name ++ "`"
  | .duplicateField name => "duplicate field `" ++ name ++ "`"
  | .unknownVariant name possible =>
    "unknown variant `" ++ name ++ "`, expected " ++ alternatives possible
  | .refused reason => reason

/-- A refusal while reading. -/
inductive Fault where
  /-- The place is known: so many bytes were unread there. -/
  | placed (cause : Cause) (unread : Nat)
  /-- The place is the end of the enclosing value; reading stands before `rest`. -/
  | loose (cause : Cause) (rest : List UInt8)
  deriving DecidableEq, Repr

/-- A refusal of a whole text. -/
structure Refusal where
  /-- Why the text was refused. -/
  cause : Cause
  /-- The line, counted from 1. -/
  line : Nat
  /-- The bytes of the line up to the fault. -/
  column : Nat
  deriving DecidableEq, Repr

/-- The byte that ends a line. -/
def newline : UInt8 := 10

/-- The refusal of a text at a count of unread bytes. -/
def refusalAt (cause : Cause) (text : List UInt8) (unread : Nat) : Refusal :=
  let before := text.take (text.length - unread)
  ⟨cause, 1 + before.count newline, (before.reverse.takeWhile (· != newline)).length⟩

/-- The refusal that a fault of a text comes to. -/
def Fault.refusal (text : List UInt8) : Fault → Refusal
  | .placed cause unread => refusalAt cause text unread
  | .loose cause rest => refusalAt cause text rest.length

/-- The refusal in words. -/
def Refusal.message (refusal : Refusal) : String :=
  refusal.cause.message ++ " at line " ++ Text.decimal refusal.line ++ " column "
    ++ Text.decimal refusal.column

end ReminderDispatch.Json
