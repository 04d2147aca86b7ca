import Countinghouse.Json.Number

/-!
# JSON of any shape

A `Document` is a JSON value as it was written: objects keep repeated keys, and a text
that stands for no characters (half of a pair, or bytes that are not UTF-8) is kept as
absent. `Reader.document` reads one; it keeps its own stack, so nesting is unlimited.
-/

namespace Countinghouse

/-- A JSON value as it was written. -/
inductive Document where
  | null
  | bool (value : Bool)
  /-- A number, with its value if it is an integer of 64 bits. -/
  | number (value : Option Int)
  | text (value : Option String)
  | list (items : List Document)
  | object (fields : List (Option String × Document))
  deriving Inhabited

namespace Document

/-- A list or an object whose end was not met yet; what it holds is in reverse order. -/
inductive Frame where
  | list (items : List Document)
  | object (fields : List (Option String × Document)) (key : Option String)

namespace Frame

/-- The frame with one more value. -/
def add (value : Document) : Frame → Frame
  | .list items => .list (value :: items)
  | .object fields key => .object ((key, value) :: fields) key

/-- The value of a frame whose end was met. -/
def close : Frame → Document
  | .list items => .list items.reverse
  | .object fields _ => .object fields.reverse

/-- The character that ends a frame. -/
def ending : Frame → Char
  | .list _ => ']'
  | .object .. => '\x7d'

/-- The fault of a frame that the text does not end. -/
def cut : Frame → JsonFault.Cause
  | .list _ => .endOfList
  | .object .. => .endOfObject

/-- The fault of two values in a frame with no comma between them. -/
def uncut : Frame → JsonFault.Cause
  | .list _ => .expectedListCommaOrEnd
  | .object .. => .expectedObjectCommaOrEnd

end Frame

end Document

namespace Reader

open Document (Frame)

/-- Reads a key and its colon. -/
def anyKey : Reader (Option String) := do
  match ← nextToken? with
  | some '"' => step
  | some _ => failAhead .keyNotText
  | none => failAhead .endOfObject
  let key ← anyText
  colon
  return key

/-- Makes ready for the next value of a frame: in an object its key is read. -/
def nextIn : Frame → Reader Frame
  | .list items => return .list items
  | .object fields _ => return .object fields (← anyKey)

/-- Puts a value into the frames around it. Answers the whole document, or the frames that
wait for another value. -/
def settle (value : Document) : List Frame → Reader (Document ⊕ List Frame)
  | [] => return .inl value
  | frame :: outer => do
    let frame := frame.add value
    match ← nextToken? with
    | none => failAhead frame.cut
    | some ',' =>
      step
      return .inr ((← nextIn frame) :: outer)
    | some other =>
      if other ≠ frame.ending then failAhead frame.uncut
      step
      settle frame.close outer

/-- Enters a list or an object. Answers as `settle` does when it is empty. -/
def enter (frame : Frame) (outer : List Frame) : Reader (Document ⊕ List Frame) := do
  step
  match ← nextToken? with
  | none => failAhead frame.cut
  | some other =>
    if other = frame.ending then
      step
      settle frame.close outer
    else return .inr ((← nextIn frame) :: outer)

/-- Reads one value and puts it into the frames around it. -/
def valueIn (frames : List Frame) : Reader (Document ⊕ List Frame) := do
  match ← nextToken? with
  | none => failAhead .endOfValue
  | some 'n' => step; word ['u', 'l', 'l']; settle .null frames
  | some 't' => step; word ['r', 'u', 'e']; settle (.bool true) frames
  | some 'f' => step; word ['a', 'l', 's', 'e']; settle (.bool false) frames
  | some '"' => step; settle (.text (← anyText)) frames
  | some '[' => enter (.list []) frames
  | some '\x7b' => enter (.object [] none) frames
  | some other =>
    if other = '-' ∨ other.isDigit then settle (.number (← anyNumber)) frames
    else failAhead .expectedValue

/-- Reads values until the outermost one is complete. Every value takes at least one byte,
so as many rounds as there are bytes are enough. -/
def valuesIn : Nat → List Frame → Reader Document
  | 0, _ => failAhead .endOfValue
  | rounds + 1, frames => do
    match ← valueIn frames with
    | .inl document => return document
    | .inr frames => valuesIn rounds frames

/-- Reads a value of any shape. -/
def document : Reader Document := do valuesIn ((← get).rest.length + 1) []

end Reader

namespace Document

/-- The document that a text consists of. -/
def parse? (bytes : List UInt8) : Option Document := (Reader.readAll Reader.document bytes).toOption

/-! ## Looking into a document -/

/-- The values an object holds under a key. -/
def under (key : String) (fields : List (Option String × Document)) : List Document :=
  (fields.filter (·.1 == some key)).map (·.2)

/-- The only value an object holds under a key. -/
def only? (key : String) (fields : List (Option String × Document)) : Option Document :=
  match under key fields with
  | [value] => some value
  | _ => none

/-- Every key of an object can be read, and none of the given ones is there twice. -/
def hasKeysOnce (keys : List String) (fields : List (Option String × Document)) : Bool :=
  fields.all (·.1.isSome) && keys.all fun key => (under key fields).length ≤ 1

/-- A text that can be read. -/
def text? : Document → Option String
  | .text value => value
  | _ => none

/-- An integer of 64 bits. -/
def integer? : Document → Option Int
  | .number value => value
  | _ => none

/-- The value of the first field of an object that is called `name`. -/
def field? (name : String) : Document → Option Document
  | .object fields => (fields.find? (·.1 == some name)).map (·.2)
  | _ => none

/-- The items of a list; nothing else has any. -/
def items : Document → List Document
  | .list items => items
  | _ => []

/-- Whether a value is a text that can be read. -/
def isText (document : Document) : Bool := document.text?.isSome

/-- Whether a value is a list of texts that can be read. -/
def isTextList : Document → Bool
  | .list items => items.all isText
  | _ => false

end Document

end Countinghouse
