import Countinghouse.Text.Hex

/-!
# Percent encoding

A `%` followed by two hexadecimal digits stands for one byte. A `%` that is not followed
by two such digits stands for itself.
-/

namespace Countinghouse.Percent

/-- The byte of two hexadecimal digits. -/
def byte? (high low : UInt8) : Option UInt8 :=
  (Hex.read? [Char.ofNat high.toNat, Char.ofNat low.toNat]).map UInt8.ofNat

/-- The bytes that a text stands for. -/
def decode : List UInt8 → List UInt8
  | [] => []
  | [first] => [first]
  | [first, second] => [first, second]
  | first :: second :: third :: rest =>
    match if first = 37 then byte? second third else none with
    | some byte => byte :: decode rest
    | none => first :: decode (second :: third :: rest)

end Countinghouse.Percent
