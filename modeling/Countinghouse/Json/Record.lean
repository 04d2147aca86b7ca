import Countinghouse.Json.Document

/-!
# Records

A `Shape` names the fields of a record and what each holds. `Record` is the type of its
values, a tuple with one component a field, and `Draft` a record that is still being
gathered. A record is read from a JSON object, whose fields come in any order and may
have others among them, or from a JSON list of all its fields in order.
-/

namespace Countinghouse

/-- What a field of a record holds. -/
inductive FieldType where
  | text
  /-- A text that may be absent or null. -/
  | optionalText
  /-- An integer of 64 bits with a sign. -/
  | integer
  deriving DecidableEq, Repr

namespace FieldType

/-- The values of a field. -/
@[reducible] def Value : FieldType → Type
  | .text => String
  | .optionalText => Option String
  | .integer => Int

/-- The value of a field that is not there, if it may be missing. -/
def absent? : (type : FieldType) → Option type.Value
  | .text => none
  | .optionalText => some none
  | .integer => none

end FieldType

/-- The fields of a record, in order. -/
abbrev Fields := List (String × FieldType)

/-- A record's fields under the record's name. -/
structure Shape where
  name : String
  fields : Fields

/-- The values of a record. -/
def Record : Fields → Type
  | [] => Unit
  | (_, type) :: rest => type.Value × Record rest

/-- A record that is still being gathered. -/
def Draft : Fields → Type
  | [] => Unit
  | (_, type) :: rest => Option type.Value × Draft rest

namespace Draft

/-- Nothing gathered yet. -/
def empty : (fields : Fields) → Draft fields
  | [] => ()
  | _ :: rest => (none, empty rest)

/-- The record, or the name of the first field that is missing. -/
def complete : (fields : Fields) → Draft fields → Except String (Record fields)
  | [], () => .ok ()
  | (name, type) :: rest, (value, values) =>
    match value.or type.absent? with
    | none => .error name
    | some value => (complete rest values).map (value, ·)

/-- Gathers the value of the field called `key`. `read` reads it, `other` deals with a key
that is none of the fields', and `again` with a field that was gathered before. -/
def gather {m : Type → Type} [Monad m] (read : (type : FieldType) → m type.Value)
    (other again : m Unit) (key : String) : (fields : Fields) → Draft fields → m (Draft fields)
  | [], () => do other; return ()
  | (name, type) :: rest, (value, values) =>
    if name = key then
      match value with
      | some _ => do again; return (value, values)
      | none => do return (some (← read type), values)
    else do return (value, ← gather read other again key rest values)

end Draft

namespace Shape

/-- What is said to be expected where a record should be. -/
def expectation (shape : Shape) : String := "struct " ++ shape.name

/-- What is said to be expected of a list that is too short. -/
def listExpectation (shape : Shape) : String :=
  let count := shape.fields.length
  shape.expectation ++ " with " ++ toString count ++ (if count = 1 then " element" else " elements")

end Shape

namespace Reader

/-- Reads the value at the next token, which is not what is expected, and fails. Of a list
or an object only the kind is looked at. -/
def wrongType {α : Type} (expected : String) : Reader α :=
  located do
    match ← nextOrEnd with
    | 'n' => step; word ['u', 'l', 'l']; refuse (.wrongType .null expected)
    | 't' => step; word ['r', 'u', 'e']; refuse (.wrongType (.bool true) expected)
    | 'f' => step; word ['a', 'l', 's', 'e']; refuse (.wrongType (.bool false) expected)
    | '"' => step; refuse (.wrongType (.text (← text)) expected)
    | '[' => refuse (.wrongType .sequence expected)
    | '\x7b' => refuse (.wrongType .mapping expected)
    | other =>
      if other = '-' ∨ other.isDigit then refuse (.wrongType (← number).found expected)
      else failAhead .expectedValue

/-- Reads a text. -/
def textValue : Reader String := do
  match ← nextToken? with
  | none => failAhead .endOfValue
  | some '"' =>
    step
    text
  | some _ => wrongType "a string"

/-- Reads an integer of 64 bits with a sign. -/
def integerValue : Reader Int := do
  match ← nextToken? with
  | none => failAhead .endOfValue
  | some first =>
    if first = '-' ∨ first.isDigit then
      located do
        match ← number with
        | .natural value =>
          if value ≤ 9223372036854775807 then return value
          refuse (.wrongValue (.integer value) "i64")
        | .negative value => return value
        | .fraction value => refuse (.wrongType (JsonNumber.fraction value).found "i64")
    else wrongType "i64"

/-- Reads the value of a field. -/
def fieldValue : (type : FieldType) → Reader type.Value
  | .text => textValue
  | .integer => integerValue
  | .optionalText => do
    match ← nextToken? with
    | some 'n' =>
      step
      word ['u', 'l', 'l']
      return none
    | _ => return some (← textValue)

/-- Reads the fields of an object. Every field takes at least one byte. -/
def objectFields (fields : Fields) : Nat → Bool → Draft fields → Reader (Draft fields)
  | 0, _, _ => failAhead .endOfObject
  | rounds + 1, isFirst, draft => do
    if !(← hasKey isFirst) then return draft
    step
    let key ← text
    let read (type : FieldType) : Reader type.Value := do
      colon
      inside key (fieldValue type)
    let other : Reader Unit := do
      colon
      inside key do let _ ← document
    objectFields fields rounds false
      (← Draft.gather read other (refuse (.duplicateField key)) key fields draft)

/-- Reads the body of an object. -/
def objectBody (fields : Fields) : Reader (Record fields) := do
  let draft ← objectFields fields ((← get).rest.length + 1) true (Draft.empty fields)
  match Draft.complete fields draft with
  | .ok record => return record
  | .error name => refuse (.missingField name)

/-- Reads the items of a list, one for each field; `index` counts those already read. -/
def listBody (expectation : String) : (fields : Fields) → Nat → Reader (Record fields)
  | [], _ => return ()
  | (_, type) :: rest, index => do
    if !(← hasItem (index == 0)) then refuse (.wrongLength index expectation)
    let value ← inside ("[" ++ toString index ++ "]") (fieldValue type)
    return (value, ← listBody expectation rest (index + 1))

/-- Reads a record. -/
def record (shape : Shape) : Reader (Record shape.fields) := do
  match ← nextToken? with
  | none => failAhead .endOfValue
  | some '[' => located do
    step
    closedBy (listBody shape.listExpectation shape.fields 0) endList
  | some '\x7b' => located do
    step
    closedBy (objectBody shape.fields) endObject
  | some _ => wrongType shape.expectation

end Reader

end Countinghouse
