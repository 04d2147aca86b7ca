/-!
# Base64 without padding

Six bits to a character, over an alphabet of 64. `encode` writes bytes, `decode?` reads
exactly what `encode` writes: no padding, no characters outside the alphabet, and no
bits left over. Tokens use the URL alphabet, password hashes the standard one.
-/

namespace Countinghouse.Base64

/-- The two characters that differ between the alphabets. -/
structure Alphabet where
  at62 : Char
  at63 : Char
  deriving DecidableEq, Repr

/-- The alphabet whose characters may stand in a URL. -/
def url : Alphabet := ⟨'-', '_'⟩

/-- The standard alphabet. -/
def standard : Alphabet := ⟨'+', '/'⟩

/-- The character for six bits. -/
def Alphabet.character (alphabet : Alphabet) (sextet : Nat) : Char :=
  if sextet < 26 then Char.ofNat (65 + sextet)
  else if sextet < 52 then Char.ofNat (71 + sextet)
  else if sextet < 62 then Char.ofNat (sextet - 4)
  else if sextet = 62 then alphabet.at62
  else alphabet.at63

/-- The six bits a character stands for. -/
def Alphabet.sextet? (alphabet : Alphabet) (character : Char) : Option Nat :=
  if 'A' ≤ character ∧ character ≤ 'Z' then some (character.toNat - 65)
  else if 'a' ≤ character ∧ character ≤ 'z' then some (character.toNat - 71)
  else if '0' ≤ character ∧ character ≤ '9' then some (character.toNat + 4)
  else if character = alphabet.at62 then some 62
  else if character = alphabet.at63 then some 63
  else none

/-- The characters for a list of bytes, three bytes to four characters. -/
def encode (alphabet : Alphabet) : List UInt8 → List Char
  | first :: second :: third :: rest =>
    let group := first.toNat * 65536 + second.toNat * 256 + third.toNat
    alphabet.character (group / 262144) :: alphabet.character (group / 4096 % 64)
      :: alphabet.character (group / 64 % 64) :: alphabet.character (group % 64)
      :: encode alphabet rest
  | [first, second] =>
    let group := first.toNat * 256 + second.toNat
    [alphabet.character (group / 1024), alphabet.character (group / 16 % 64),
      alphabet.character (group % 16 * 4)]
  | [first] =>
    [alphabet.character (first.toNat / 4), alphabet.character (first.toNat % 4 * 16)]
  | [] => []

/-- The bytes that a list of sextets stands for; fails on left-over bits. -/
def bytesOfSextets? : List Nat → Option (List UInt8)
  | first :: second :: third :: fourth :: rest =>
    let group := first * 262144 + second * 4096 + third * 64 + fourth
    (bytesOfSextets? rest).map fun bytes =>
      UInt8.ofNat (group / 65536) :: UInt8.ofNat (group / 256 % 256)
        :: UInt8.ofNat (group % 256) :: bytes
  | [first, second, third] =>
    let group := first * 4096 + second * 64 + third
    if group % 4 = 0 then
      some [UInt8.ofNat (group / 1024), UInt8.ofNat (group / 4 % 256)]
    else none
  | [first, second] =>
    let group := first * 64 + second
    if group % 16 = 0 then some [UInt8.ofNat (group / 16)] else none
  | [_] => none
  | [] => some []

/-- The bytes a text encodes, if it is the encoding of some bytes. -/
def decode? (alphabet : Alphabet) (text : List Char) : Option (List UInt8) := do
  bytesOfSextets? (← text.mapM alphabet.sextet?)

end Countinghouse.Base64
