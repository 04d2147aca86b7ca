import Countinghouse.Text.Hex

/-!
# Universally unique identifiers

A `Uuid` is a 128-bit number. It is written as five groups of lower-case hexadecimal
digits; `Uuid.parse?` also reads the forms without hyphens, in braces and with the
`urn:uuid:` lead-in, in either case.
-/

namespace Countinghouse

/-- A 128-bit identifier. -/
structure Uuid where
  bits : BitVec 128
  deriving DecidableEq, Repr, Inhabited

namespace Uuid

/-- The 32 hexadecimal digits of an identifier. -/
def digits (id : Uuid) : List Char := Hex.digits 32 id.bits.toNat

/-- Five groups of digits joined by hyphens. -/
def hyphenate (digits : List Char) : List Char :=
  digits.take 8 ++ '-' :: (digits.drop 8).take 4 ++ '-' :: (digits.drop 12).take 4
    ++ '-' :: (digits.drop 16).take 4 ++ '-' :: digits.drop 20

/-- The usual written form: groups of 8, 4, 4, 4 and 12 digits. -/
def render (id : Uuid) : String := String.ofList (hyphenate id.digits)

/-- Reads 32 digits with no hyphens. -/
def readSimple? (text : List Char) : Option Uuid :=
  if text.length = 32 then (Hex.read? text).map (fun value => ⟨BitVec.ofNat 128 value⟩) else none

/-- Reads five groups joined by hyphens. -/
def readHyphenated? (text : List Char) : Option Uuid :=
  if text.length = 36 ∧ [8, 13, 18, 23].all (fun place => text[place]? == some '-') then
    readSimple? (text.filter (· ≠ '-'))
  else none

/-- A lower-case copy of an ASCII letter. -/
def lower (character : Char) : Char :=
  if 'A' ≤ character ∧ character ≤ 'Z' then Char.ofNat (character.toNat + 32) else character

/-- Reads any of the accepted written forms. -/
def parse? (text : String) : Option Uuid :=
  let characters := text.toList
  if characters.length = 32 then readSimple? characters
  else if characters.length = 36 then readHyphenated? characters
  else if characters.length = 38 ∧ characters.head? = some '\x7b'
      ∧ characters.getLast? = some '\x7d' then
    readHyphenated? (characters.drop 1).dropLast
  else if characters.length = 45 ∧ (characters.take 9).map lower = "urn:uuid:".toList then
    readHyphenated? (characters.drop 9)
  else none

/-- The version number carried in the thirteenth digit. -/
def version (id : Uuid) : Nat := id.bits.toNat / Nat.pow 2 76 % 16

/-- Marks 128 arbitrary bits as a random identifier (version 4, variant 1). -/
def ofRandomBits (bits : Nat) : Uuid :=
  let low := bits % Nat.pow 2 62
  let middle := bits / Nat.pow 2 62 % Nat.pow 2 12
  let high := bits / Nat.pow 2 74 % Nat.pow 2 48
  ⟨BitVec.ofNat 128 (high * Nat.pow 2 80 + 4 * Nat.pow 2 76 + middle * Nat.pow 2 64
    + 2 * Nat.pow 2 62 + low)⟩

end Uuid

end Countinghouse
