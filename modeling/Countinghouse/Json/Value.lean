import Countinghouse.Text.Hex

/-!
# JSON values and their written form

`Json` is the value tree the gateway answers with. Objects keep the order in which
their fields were listed, so the written form is a function of the value alone.
Numbers are integers: no answer of the bank carries a fraction.
-/

namespace Countinghouse

/-- A JSON value whose objects keep their fields in order. -/
inductive Json where
  | null
  | bool (value : Bool)
  | int (value : Int)
  | text (value : String)
  | list (items : List Json)
  | object (fields : List (String × Json))
  deriving Repr, Inhabited

namespace Json

/-- One character inside a quoted text: the quote, the backslash and the control
characters below the blank are escaped, everything else stands for itself. -/
def escapeChar (character : Char) : List Char :=
  if character = '"' then ['\\', '"']
  else if character = '\\' then ['\\', '\\']
  else if character = '\n' then ['\\', 'n']
  else if character = '\r' then ['\\', 'r']
  else if character = '\t' then ['\\', 't']
  else if character.toNat = 8 then ['\\', 'b']
  else if character.toNat = 12 then ['\\', 'f']
  else if character.toNat < 32 then
    ['\\', 'u', '0', '0', Hex.digit (character.toNat / 16), Hex.digit (character.toNat % 16)]
  else [character]

/-- A text between quotes. -/
def quote (value : String) : String :=
  "\"" ++ String.ofList (value.toList.flatMap escapeChar) ++ "\""

mutual

/-- The compact written form: no blanks between tokens. -/
def render : Json → String
  | .null => "null"
  | .bool true => "true"
  | .bool false => "false"
  | .int value => toString value
  | .text value => quote value
  | .list items => "[" ++ String.intercalate "," (renderItems items) ++ "]"
  | .object fields => "\x7b" ++ String.intercalate "," (renderFields fields) ++ "\x7d"

/-- The written forms of a list's items, in order. -/
def renderItems : List Json → List String
  | [] => []
  | item :: rest => render item :: renderItems rest

/-- The written forms of an object's fields, in order. -/
def renderFields : List (String × Json) → List String
  | [] => []
  | (name, value) :: rest => (quote name ++ ":" ++ render value) :: renderFields rest

end

/-- The value of the first field called `name`. -/
def field? (name : String) : Json → Option Json
  | .object fields => (fields.find? (·.1 == name)).map (·.2)
  | _ => none

end Json

end Countinghouse
