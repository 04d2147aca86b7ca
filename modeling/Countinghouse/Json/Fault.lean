import Countinghouse.Text.Debug

/-!
# What can be wrong with a JSON text

A `JsonFault` says why a text is not the JSON value that was asked for, where reading
stopped, and, when the text is a record, in which field. A text can end too early, be
malformed, or be well formed and of another shape; `Cause.category` tells these apart.
-/

namespace Countinghouse

/-- What a value turned out to be where something else was expected. -/
inductive JsonFault.Found where
  | null
  | bool (value : Bool)
  | integer (value : Int)
  /-- A number with a fraction or an exponent, or too large for 64 bits, as it reads. -/
  | fraction (value : String)
  | text (value : String)
  | sequence
  | mapping
  deriving DecidableEq, Repr

/-- Why a text is not the JSON that was expected. -/
inductive JsonFault.Cause where
  | endOfList | endOfObject | endOfText | endOfValue
  | expectedColon | expectedListCommaOrEnd | expectedObjectCommaOrEnd
  | expectedWord | expectedValue
  | badEscape | badNumber | outOfRange | badCodePoint
  | controlCharacter | keyNotText | loneSurrogate | halfSurrogatePair
  | trailingComma | trailingCharacters
  | wrongType (found : JsonFault.Found) (expected : String)
  | wrongValue (found : JsonFault.Found) (expected : String)
  | unknownVariant (name : String) (expected : List String)
  | missingField (name : String)
  | duplicateField (name : String)
  | wrongLength (length : Nat) (expected : String)
  deriving DecidableEq, Repr

/-- The kinds of cause. -/
inductive JsonFault.Category where
  /-- The text ends too early. -/
  | cut
  /-- The text is not JSON. -/
  | malformed
  /-- The text is JSON of another shape. -/
  | shape
  deriving DecidableEq, Repr

/-- Why and where reading a JSON text failed. -/
structure JsonFault where
  cause : JsonFault.Cause
  /-- Line and column, once they are known. -/
  position : Option (Nat × Nat)
  /-- The field or item being read, when it is known. -/
  place : Option String
  deriving DecidableEq, Repr

namespace JsonFault

namespace Found

/-- How a value is spoken of. -/
def describe : Found → String
  | .null => "null"
  | .bool true => "boolean `true`"
  | .bool false => "boolean `false`"
  | .integer value => "integer `" ++ toString value ++ "`"
  | .fraction value => "floating point `" ++ value ++ "`"
  | .text value => "string " ++ Debug.quote value
  | .sequence => "sequence"
  | .mapping => "map"

end Found

/-- Names joined as alternatives. -/
def alternatives : List String → String
  | [first, second] => "`" ++ first ++ "` or `" ++ second ++ "`"
  | [only] => "`" ++ only ++ "`"
  | names => "one of " ++ String.intercalate ", " (names.map fun name => "`" ++ name ++ "`")

namespace Cause

/-- The kind of a cause. -/
def category : Cause → Category
  | .endOfList | .endOfObject | .endOfText | .endOfValue => .cut
  | .expectedColon | .expectedListCommaOrEnd | .expectedObjectCommaOrEnd | .expectedWord
  | .expectedValue | .badEscape | .badNumber | .outOfRange | .badCodePoint
  | .controlCharacter | .keyNotText | .loneSurrogate | .halfSurrogatePair | .trailingComma
  | .trailingCharacters => .malformed
  | .wrongType .. | .wrongValue .. | .unknownVariant .. | .missingField _
  | .duplicateField _ | .wrongLength .. => .shape

/-- The text of a cause. -/
def message : Cause → String
  | .endOfList => "EOF while parsing a list"
  | .endOfObject => "EOF while parsing an object"
  | .endOfText => "EOF while parsing a string"
  | .endOfValue => "EOF while parsing a value"
  | .expectedColon => "expected `:`"
  | .expectedListCommaOrEnd => "expected `,` or `]`"
  | .expectedObjectCommaOrEnd => "expected `,` or `\x7d`"
  | .expectedWord => "expected ident"
  | .expectedValue => "expected value"
  | .badEscape => "invalid escape"
  | .badNumber => "invalid number"
  | .outOfRange => "number out of range"
  | .badCodePoint => "invalid unicode code point"
  | .controlCharacter => "control character (\\u0000-\\u001F) found while parsing a string"
  | .keyNotText => "key must be a string"
  | .loneSurrogate => "lone leading surrogate in hex escape"
  | .halfSurrogatePair => "unexpected end of hex escape"
  | .trailingComma => "trailing comma"
  | .trailingCharacters => "trailing characters"
  | .wrongType found expected => "invalid type: " ++ found.describe ++ ", expected " ++ expected
  | .wrongValue found expected =>
    "invalid value: " ++ found.describe ++ ", expected " ++ expected
  | .unknownVariant name expected =>
    "unknown variant `" ++ name ++ "`, expected " ++ alternatives expected
  | .missingField name => "missing field `" ++ name ++ "`"
  | .duplicateField name => "duplicate field `" ++ name ++ "`"
  | .wrongLength length expected =>
    "invalid length " ++ toString length ++ ", expected " ++ expected

end Cause

/-- The text of a fault: the cause, and the position when it is known. -/
def message (fault : JsonFault) : String :=
  match fault.position with
  | some (line, column) =>
    fault.cause.message ++ " at line " ++ toString line ++ " column " ++ toString column
  | none => fault.cause.message

end JsonFault

end Countinghouse
