import Countinghouse.Json.Fault
import Countinghouse.Text.Utf8

/-!
# Reading JSON from bytes

A `Cursor` is what is left of a text, with the line and column reached so far. A
`Reader` consumes bytes from a cursor and answers or fails; the cursor it leaves is
known in both cases, because some faults are reported where reading came to a stop and
not where it began. A fault that has no position yet gets one from `Reader.located`.
-/

namespace Countinghouse

/-- What is left of a text, and the line and column of its start. -/
structure Cursor where
  rest : List UInt8
  line : Nat
  column : Nat
  deriving Repr

namespace Cursor

/-- The beginning of a text. -/
def start (bytes : List UInt8) : Cursor := ⟨bytes, 1, 0⟩

/-- The next byte, as a character. -/
def next? (cursor : Cursor) : Option Char := cursor.rest.head?.map (fun byte => Char.ofNat byte.toNat)

/-- The cursor after the next byte. -/
def step (cursor : Cursor) : Cursor :=
  match cursor.rest with
  | [] => cursor
  | byte :: rest => if byte = 10 then ⟨rest, cursor.line + 1, 0⟩ else ⟨rest, cursor.line, cursor.column + 1⟩

/-- The cursor after a number of bytes. -/
def skip : Nat → Cursor → Cursor
  | 0, cursor => cursor
  | count + 1, cursor => cursor.step.skip count

theorem rest_step (cursor : Cursor) : cursor.step.rest = cursor.rest.drop 1 := by
  unfold step
  split
  · simp_all
  · split <;> simp_all

theorem rest_skip (count : Nat) (cursor : Cursor) :
    (cursor.skip count).rest = cursor.rest.drop count := by
  induction count generalizing cursor with
  | zero => rfl
  | succ count inductionHypothesis =>
    rw [skip, inductionHypothesis, rest_step, List.drop_drop, Nat.add_comm]

/-- A byte that may stand between tokens. -/
def isBlank (byte : UInt8) : Bool := byte == 32 || byte == 10 || byte == 9 || byte == 13

/-- The cursor after any blanks. -/
def afterBlanks (cursor : Cursor) : Cursor := from' cursor.rest cursor.line cursor.column
where
  /-- Drops blanks, counting lines. -/
  from' : List UInt8 → Nat → Nat → Cursor
    | [], line, column => ⟨[], line, column⟩
    | byte :: rest, line, column =>
      if byte = 10 then from' rest (line + 1) 0
      else if isBlank byte then from' rest line (column + 1)
      else ⟨byte :: rest, line, column⟩

/-- The digits at the cursor, as numbers. -/
def digits (cursor : Cursor) : List Nat :=
  (cursor.rest.takeWhile fun byte => 48 ≤ byte && byte ≤ 57).map fun byte => byte.toNat - 48

end Cursor

/-- Reads something at a cursor. -/
abbrev Reader (α : Type) := ExceptT JsonFault (StateM Cursor) α

namespace Reader

/-- Fails with no position yet. -/
def refuse {α : Type} (cause : JsonFault.Cause) : Reader α := throw ⟨cause, none, none⟩

/-- Fails where reading has come to. -/
def fail {α : Type} (cause : JsonFault.Cause) : Reader α := do
  let cursor ← get
  throw ⟨cause, some (cursor.line, cursor.column), none⟩

/-- Fails at the next byte. -/
def failAhead {α : Type} (cause : JsonFault.Cause) : Reader α := do
  let ahead := (← get).step
  throw ⟨cause, some (ahead.line, ahead.column), none⟩

/-- Gives a fault that has no position the one that reading has come to. -/
def located {α : Type} (reader : Reader α) : Reader α :=
  tryCatch reader fun fault => do
    match fault.position with
    | some _ => throw fault
    | none =>
      let cursor ← get
      throw { fault with position := some (cursor.line, cursor.column) }

/-- Names the field or item that is being read in a fault that names none. -/
def inside {α : Type} (place : String) (reader : Reader α) : Reader α :=
  tryCatch reader fun fault =>
    throw { fault with place := some (fault.place.getD place) }

/-- The next byte, as a character. -/
def next? : Reader (Option Char) := do return (← get).next?

/-- The next byte, or a character that no token has at the end of the text. -/
def nextOrEnd : Reader Char := do return ((← get).next?).getD '\x00'

/-- Passes over the next byte. -/
def step : Reader Unit := modify Cursor.step

/-- Passes over blanks and looks at the next byte. -/
def nextToken? : Reader (Option Char) := do
  modify Cursor.afterBlanks
  next?

/-- The digits at the cursor, which are passed over. -/
def digits : Reader (List Nat) := do
  let digits := (← get).digits
  modify (Cursor.skip digits.length)
  return digits

/-- Passes over the rest of a word. -/
def word : List Char → Reader Unit
  | [] => pure ()
  | expected :: rest => do
    match ← next? with
    | none => fail .endOfValue
    | some character =>
      step
      if character = expected then word rest else fail .expectedWord

/-! ## Texts -/

/-- The code unit of four hexadecimal digits. -/
def codeUnit? : List UInt8 → Option Nat
  | first :: second :: third :: fourth :: _ =>
    Hex.read? ([first, second, third, fourth].map fun byte => Char.ofNat byte.toNat)
  | _ => none

/-- The outcome of an escape: the bytes it stands for, or none when it stands for half of
a character, and the number of bytes that were read. -/
structure Escaped where
  bytes : Option (List UInt8)
  length : Nat

/-- What an escape's letter stands for. -/
def escapeLetter? : Char → Option UInt8
  | '"' => some 34
  | '\\' => some 92
  | '/' => some 47
  | 'b' => some 8
  | 'f' => some 12
  | 'n' => some 10
  | 'r' => some 13
  | 't' => some 9
  | _ => none

/-- Reads four hexadecimal digits after `length` bytes that were read already. -/
def unitAt (length : Nat) (bytes : List UInt8) : Except (JsonFault.Cause × Nat) Nat :=
  if (bytes.drop (length + 3)).isEmpty then .error (.endOfText, bytes.length)
  else
    match codeUnit? (bytes.drop length) with
    | some unit => .ok unit
    | none => .error (.badEscape, length + 4)

/-- The second half of a character outside the first 65536, whose first half was read. -/
def lowHalf (high : Nat) (bytes : List UInt8) : Except (JsonFault.Cause × Nat) Escaped :=
  match bytes[5]? with
  | none => .error (.endOfText, 5)
  | some first =>
    if first ≠ 92 then .error (.halfSurrogatePair, 6)
    else
      match bytes[6]? with
      | none => .error (.endOfText, 6)
      | some second =>
        if second ≠ 117 then .error (.halfSurrogatePair, 7)
        else do
          let low ← unitAt 7 bytes
          if low < 0xdc00 ∨ 0xdfff < low then throw (.loneSurrogate, 11)
          let code := (high - 0xd800) * 1024 + (low - 0xdc00) + 0x10000
          return ⟨some (String.utf8EncodeChar (Char.ofNat code)), 11⟩

/-- Reads an escape after its backslash. A strict reading insists that halves of
characters come in pairs; another one takes a half that stands alone for no character. A
fault says how many bytes were read. -/
def escape (strict : Bool) (bytes : List UInt8) : Except (JsonFault.Cause × Nat) Escaped :=
  match bytes with
  | [] => .error (.endOfText, 0)
  | letter :: _ =>
    if letter = 117 then do
      let unit ← unitAt 1 bytes
      if unit < 0xd800 ∨ 0xdfff < unit then
        return ⟨some (String.utf8EncodeChar (Char.ofNat unit)), 5⟩
      let pair := if 0xdc00 ≤ unit then .error (.loneSurrogate, 5) else lowHalf unit bytes
      if strict then pair else return pair.toOption.getD ⟨none, 5⟩
    else
      match escapeLetter? (Char.ofNat letter.toNat) with
      | some byte => .ok ⟨some [byte], 1⟩
      | none => .error (.badEscape, 1)

/-- Reads a text up to and with its closing quote. The bytes read so far are in reverse
order; they are lost once half of a character was met. -/
def textFrom (strict : Bool) (cursor : Cursor) (reversed : Option (List UInt8)) :
    Except JsonFault (Option (List UInt8)) × Cursor :=
  match _found : cursor.rest with
  | [] => (.error ⟨.endOfText, some (cursor.line, cursor.column), none⟩, cursor)
  | byte :: rest =>
    if byte = 34 then (.ok (reversed.map List.reverse), cursor.step)
    else if byte = 92 then
      match escape strict rest with
      | .error (cause, count) =>
        let after := cursor.skip (count + 1)
        (.error ⟨cause, some (after.line, after.column), none⟩, after)
      | .ok escaped =>
        let longer := do return (← escaped.bytes).reverse ++ (← reversed)
        textFrom strict (cursor.skip (escaped.length + 1)) longer
    else if byte < 32 then
      let after := if strict then cursor.step else cursor
      (.error ⟨.controlCharacter, some (after.line, after.column), none⟩, after)
    else textFrom strict cursor.step (reversed.map (byte :: ·))
termination_by cursor.rest.length
decreasing_by
  · rw [Cursor.rest_skip, _found]
    simp only [List.drop_succ_cons, List.length_drop, List.length_cons]
    omega
  · rw [Cursor.rest_step, _found]
    simp

/-- Reads a text after its opening quote. Bytes that stand for no characters are noticed
just before the closing quote. -/
def text : Reader String := do
  match (← ExceptT.mk (fun cursor => textFrom true cursor (some []))).bind Utf8.decode? with
  | some text => return text
  | none =>
    let behind ← get
    throw ⟨.badCodePoint, some (behind.line, behind.column - 1), none⟩

/-- Reads a text after its opening quote, whether or not it stands for characters. -/
def anyText : Reader (Option String) := do
  return (← ExceptT.mk (fun cursor => textFrom false cursor (some []))).bind Utf8.decode?

/-! ## Between the values of a list or an object -/

/-- Looks for another item of a list, and passes over the comma before it. -/
def hasItem (isFirst : Bool) : Reader Bool := do
  match ← nextToken? with
  | none => failAhead .endOfList
  | some ']' => return false
  | some other =>
    if isFirst then return true
    if other ≠ ',' then failAhead .expectedListCommaOrEnd
    step
    match ← nextToken? with
    | some ']' => failAhead .trailingComma
    | some _ => return true
    | none => failAhead .endOfValue

/-- Looks for another key of an object, and passes over the comma before it. -/
def hasKey (isFirst : Bool) : Reader Bool := do
  match ← nextToken? with
  | none => failAhead .endOfObject
  | some '\x7d' => return false
  | some other =>
    if isFirst then
      if other = '"' then return true
      failAhead .keyNotText
    if other ≠ ',' then failAhead .expectedObjectCommaOrEnd
    step
    match ← nextToken? with
    | some '"' => return true
    | some '\x7d' => failAhead .trailingComma
    | some _ => failAhead .keyNotText
    | none => failAhead .endOfValue

/-- Passes over the colon after a key. -/
def colon : Reader Unit := do
  match ← nextToken? with
  | some ':' => step
  | some _ => failAhead .expectedColon
  | none => failAhead .endOfObject

/-- Passes over the end of a list. -/
def endList : Reader Unit := do
  match ← nextToken? with
  | some ']' => step
  | some ',' =>
    step
    match ← nextToken? with
    | some ']' => failAhead .trailingComma
    | _ => failAhead .trailingCharacters
  | some _ => failAhead .trailingCharacters
  | none => failAhead .endOfList

/-- Passes over the end of an object. -/
def endObject : Reader Unit := do
  match ← nextToken? with
  | some '\x7d' => step
  | some ',' => failAhead .trailingComma
  | some _ => failAhead .trailingCharacters
  | none => failAhead .endOfObject

/-- Reads a body and then its end. The fault of the body is reported, but only after the
end was looked for. -/
def closedBy {α : Type} (body : Reader α) (ending : Reader Unit) : Reader α :=
  ExceptT.mk do
    let outcome ← body.run
    let ended ← ending.run
    match outcome, ended with
    | .ok value, .ok () => pure (.ok value)
    | .error fault, _ => pure (.error fault)
    | .ok _, .error fault => pure (.error fault)

/-- Insists that nothing but blanks is left. -/
def finish : Reader Unit := do
  if (← nextToken?).isSome then failAhead .trailingCharacters

/-- Reads a whole text. -/
def readAll {α : Type} (reader : Reader α) (bytes : List UInt8) : Except JsonFault α :=
  ((do let value ← reader; finish; return value : Reader α).run (Cursor.start bytes)).1

end Reader

end Countinghouse
