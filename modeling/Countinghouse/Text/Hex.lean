/-!
# Hexadecimal digits

The digits of a number to base sixteen. Writing gives lower case; reading takes either.
-/

namespace Countinghouse.Hex

/-- The lower-case hexadecimal digit of a number below sixteen. -/
def digit (value : Nat) : Char :=
  if value < 10 then Char.ofNat (48 + value) else Char.ofNat (87 + value)

/-- The value of a hexadecimal digit. -/
def value? (character : Char) : Option Nat :=
  if '0' ≤ character ∧ character ≤ '9' then some (character.toNat - 48)
  else if 'a' ≤ character ∧ character ≤ 'f' then some (character.toNat - 87)
  else if 'A' ≤ character ∧ character ≤ 'F' then some (character.toNat - 55)
  else none

/-- The number written by a run of hexadecimal digits. -/
def read? (digits : List Char) : Option Nat :=
  digits.foldlM (fun value digit => (value? digit).map (value * 16 + ·)) 0

/-- The last `count` hexadecimal digits of a number. -/
def digits : Nat → Nat → List Char
  | 0, _ => []
  | count + 1, value => digits count (value / 16) ++ [digit (value % 16)]

end Countinghouse.Hex
