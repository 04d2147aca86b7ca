/-!
# Labels in ASCII

A label with characters beyond ASCII is written in ASCII by first giving its characters of
ASCII, and after a hyphen where the others come in. That is a list of numbers, each telling
how many steps to go on from the last insertion, counting all places for each code point in
turn. Small numbers take few digits: a `bias` follows the size of the numbers so far.
-/

namespace Countinghouse.Punycode

/-- The digit with a value. -/
def digit (value : Nat) : Char :=
  if value < 26 then Char.ofNat (97 + value) else Char.ofNat (22 + value)

/-- The value of a digit. -/
def digitValue? (character : Char) : Option Nat :=
  if character.isDigit then some (character.toNat - 22)
  else if character.isAlpha then some (character.toLower.toNat - 97)
  else none

/-- The value below which the digit at a place is the last of its number. -/
def threshold (place bias : Nat) : Nat :=
  if place ≤ bias then 1 else if bias + 26 ≤ place then 26 else place - bias

/-- Halves a number until it is small, and counts how often. -/
def reduce (delta places : Nat) : Nat × Nat :=
  if 455 < delta then reduce (delta / 35) (places + 36) else (delta, places)
termination_by delta
decreasing_by exact Nat.div_lt_self (by omega) (by omega)

/-- The bias after a number. -/
def adapt (delta count : Nat) (isFirst : Bool) : Nat :=
  let damped := if isFirst then delta / 700 else delta / 2
  let (rest, places) := reduce (damped + damped / count) 0
  places + 36 * rest / (rest + 38)

theorem threshold_pos (place bias : Nat) : 1 ≤ threshold place bias := by
  unfold threshold
  split
  · omega
  · split <;> omega

/-- The digits of a number, the lowest first. -/
def digits (bias place value : Nat) : List Char :=
  let limit := threshold place bias
  if value < limit then [digit value]
  else
    digit (limit + (value - limit) % (36 - limit))
      :: digits bias (place + 36) ((value - limit) / (36 - limit))
termination_by value
decreasing_by
  have positive := threshold_pos place bias
  have bounded := Nat.div_le_self (value - threshold place bias) (36 - threshold place bias)
  omega

/-- The state of writing a label. -/
structure Writer where
  output : List Char
  delta : Nat
  bias : Nat
  /-- The number of characters written so far. -/
  count : Nat

/-- Goes past a character of the label while those with one code point are written. -/
def Writer.pass (code basicCount : Nat) (writer : Writer) (character : Char) : Writer :=
  if character.toNat < code then { writer with delta := writer.delta + 1 }
  else if character.toNat = code then
    { output := writer.output ++ digits writer.bias 36 writer.delta
      delta := 0
      bias := adapt writer.delta (writer.count + 1) (writer.count = basicCount)
      count := writer.count + 1 }
  else writer

/-- Writes the characters with the given code points, in ascending order. -/
def writeCodes (label : List Char) (basicCount : Nat) : List Nat → Nat → Writer → Writer
  | [], _, writer => writer
  | code :: rest, next, writer =>
    let reached := { writer with delta := writer.delta + (code - next) * (writer.count + 1) }
    let passed := label.foldl (Writer.pass code basicCount) reached
    writeCodes label basicCount rest (code + 1) { passed with delta := passed.delta + 1 }

/-- Whether a character is one of ASCII. -/
def isBasic (character : Char) : Bool := character.toNat < 128

/-- A label written in ASCII. -/
def encode (label : List Char) : List Char :=
  let basic := label.filter isBasic
  let codes := ((label.filter (!isBasic ·)).map Char.toNat).mergeSort.eraseDups
  basic ++ (if basic.isEmpty then [] else ['-'])
    ++ (writeCodes label basic.length codes 128 ⟨[], 0, 72, basic.length⟩).output

/-- Numbers take at most 32 bits. -/
def greatest : Nat := 4294967295

/-- Reads the digits of a number, and adds it to `value`. -/
def readNumber (bias : Nat) (place weight value : Nat) : List Char → Option (Nat × List Char)
  | [] => none
  | character :: rest => do
    let digit ← digitValue? character
    let sum := value + digit * weight
    guard (sum ≤ greatest)
    let limit := threshold place bias
    if digit < limit then return (sum, rest)
    else
      guard (weight * (36 - limit) ≤ greatest)
      readNumber bias (place + 36) (weight * (36 - limit)) sum rest

/-- Puts in the characters that the numbers stand for. The first number bounds the rounds:
each takes a digit or more. -/
def readCodes : Nat → List Char → (bias code place : Nat) → List Char → Option (List Char)
  | _, label, _, _, _, [] => some label
  | 0, _, _, _, _, _ => none
  | rounds + 1, label, bias, code, place, input => do
    let (reached, rest) ← readNumber bias 36 1 place input
    let count := label.length + 1
    let next := code + reached / count
    guard next.isValidChar
    let index := reached % count
    readCodes rounds (label.take index ++ Char.ofNat next :: label.drop index)
      (adapt (reached - place) count (place = 0)) next (index + 1) rest

/-- The label that is written in ASCII. The last hyphen ends the characters of ASCII. -/
def decode? (text : List Char) : Option (List Char) :=
  let coded := (text.reverse.takeWhile (· != '-')).reverse
  let basic := (text.take (text.length - coded.length)).dropLast
  let input := if basic.isEmpty then text else coded
  readCodes input.length basic 72 128 0 input

end Countinghouse.Punycode
