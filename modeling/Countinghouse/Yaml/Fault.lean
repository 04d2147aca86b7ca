import Countinghouse.Json.Fault

/-!
# What can be wrong with a YAML text

A `YamlFault` says why a text cannot be read. Either it is not YAML, and then the fault
says where that was noticed and in what, or it holds something else than was asked for,
and then it says where that stands and under which keys.
-/

namespace Countinghouse

/-- A place in a text: how many characters precede it, and how many lines and columns. -/
structure Mark where
  index : Nat
  line : Nat
  column : Nat
  deriving DecidableEq, Repr, Inhabited

namespace Mark

/-- The start of a text. -/
def start : Mark := ⟨0, 0, 0⟩

/-- A place is not worth telling when it is the start of the text. -/
def isTold (mark : Mark) : Bool := mark.line != 0 || mark.column != 0

/-- How a place is told; people count from one. -/
def describe (mark : Mark) : String :=
  " at line " ++ toString (mark.line + 1) ++ " column " ++ toString (mark.column + 1)

/-- How a place is told where it is worth telling. -/
def described (mark : Mark) : String := if mark.isTold then mark.describe else ""

end Mark

/-- What a value turned out to be where something else was expected. -/
inductive YamlFault.Found where
  | nothing
  | plain (found : JsonFault.Found)
  /-- An integer that takes more than 64 bits. -/
  | wide (value : Int)
  deriving DecidableEq, Repr

/-- How a value is spoken of. -/
def YamlFault.Found.describe : YamlFault.Found → String
  | .nothing => "unit value"
  | .plain found => found.describe
  | .wide value =>
    "integer `" ++ toString value ++ "` as " ++ (if value < 0 then "i128" else "u128")

/-- Why a value is not what was asked for. -/
inductive YamlFault.Cause where
  | wrongType (found : YamlFault.Found) (expected : String)
  | wrongValue (found : YamlFault.Found) (expected : String)
  | unknownVariant (name : String) (expected : List String)
  | missingField (name : String)
  | duplicateField (name : String)
  deriving DecidableEq, Repr

/-- The text of a cause. -/
def YamlFault.Cause.message : YamlFault.Cause → String
  | .wrongType found expected => "invalid type: " ++ found.describe ++ ", expected " ++ expected
  | .wrongValue found expected =>
    "invalid value: " ++ found.describe ++ ", expected " ++ expected
  | .unknownVariant name expected =>
    "unknown variant `" ++ name ++ "`, expected " ++ JsonFault.alternatives expected
  | .missingField name => "missing field `" ++ name ++ "`"
  | .duplicateField name => "duplicate field `" ++ name ++ "`"

/-- Why a YAML text cannot be read. -/
inductive YamlFault where
  /-- The text is not YAML. The context says in what this was noticed, and where that
  starts. -/
  | malformed (problem : String) (mark : Mark) (context : Option (String × Mark))
  /-- A character that no text may hold, after so many bytes. -/
  | badCharacter (offset : Nat)
  /-- A name for a value that was never given. -/
  | unknownAnchor (mark : Mark)
  | moreThanOneDocument
  | noValue
  /-- A value is not what was asked for; it stands at a place under some keys, once these
  are known. -/
  | shape (cause : YamlFault.Cause) (place : Option (Mark × List String))
  deriving DecidableEq, Repr

namespace YamlFault

/-- How the context of a fault is told. -/
def describeContext (mark : Mark) : Option (String × Mark) → String
  | none => ""
  | some (text, start) =>
    let isElsewhere := start.line != mark.line || start.column != mark.column
    ", " ++ text ++ (if isElsewhere then start.described else "")

/-- The text of a fault. -/
def message : YamlFault → String
  | .malformed problem mark context => problem ++ mark.described ++ describeContext mark context
  | .badCharacter offset =>
    "control characters are not allowed"
      ++ (if offset = 0 then "" else " at position " ++ toString offset)
  | .unknownAnchor mark => "unknown anchor" ++ mark.described
  | .moreThanOneDocument =>
    "deserializing from YAML containing more than one document is not supported"
  | .noValue => "EOF while parsing a value"
  | .shape cause none => cause.message
  | .shape cause (some (mark, keys)) =>
    (if keys.isEmpty then "" else String.intercalate "." keys ++ ": ")
      ++ cause.message ++ mark.described

end YamlFault

end Countinghouse
