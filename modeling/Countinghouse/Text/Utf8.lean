/-!
# Texts from bytes

`Utf8.decode?` is the text that bytes encode, if they encode one. `Utf8.decodeLossy` is
for texts that must not fail: each stretch of bytes that cannot begin a character is
replaced by one U+FFFD.
-/

namespace Countinghouse.Utf8

/-- The text that bytes encode. -/
def decode? (bytes : List UInt8) : Option String := String.fromUTF8? ⟨bytes.toArray⟩

/-- The bytes of a text. -/
def encode (text : String) : List UInt8 := text.toUTF8.toList

/-- The number of bytes after the first one of a character, and the bounds of the second,
given the first; none when no character begins so. -/
def shape? (first : UInt8) : Option (Nat × UInt8 × UInt8) :=
  if first < 0x80 then some (0, 0, 0)
  else if first < 0xc2 then none
  else if first < 0xe0 then some (1, 0x80, 0xbf)
  else if first = 0xe0 then some (2, 0xa0, 0xbf)
  else if first = 0xed then some (2, 0x80, 0x9f)
  else if first < 0xf0 then some (2, 0x80, 0xbf)
  else if first = 0xf0 then some (3, 0x90, 0xbf)
  else if first < 0xf4 then some (3, 0x80, 0xbf)
  else if first = 0xf4 then some (3, 0x80, 0x8f)
  else none

/-- The longest beginning of a character in the bytes after its first one, up to `count`
bytes of which the next lies between the bounds. -/
def continuation : Nat → UInt8 → UInt8 → List UInt8 → List UInt8
  | count + 1, least, greatest, byte :: rest =>
    if least ≤ byte ∧ byte ≤ greatest then byte :: continuation count 0x80 0xbf rest else []
  | _, _, _, _ => []

/-- The characters that bytes encode, with U+FFFD where they encode none. -/
def decodeLossy (bytes : List UInt8) : List Char :=
  match bytes with
  | [] => []
  | first :: rest =>
    match shape? first with
    | none => '\ufffd' :: decodeLossy rest
    | some (count, least, greatest) =>
      let tail := continuation count least greatest rest
      let character :=
        if tail.length = count then (decode? (first :: tail)).bind (·.toList.head?) else none
      character.getD '\ufffd' :: decodeLossy (rest.drop tail.length)
termination_by bytes.length
decreasing_by
  · simp
  · simp only [List.length_drop, List.length_cons]
    omega

end Countinghouse.Utf8
