import Countinghouse.Decimal.Shortest
import Countinghouse.Text.Integer
import Countinghouse.Yaml.Event

/-!
# What scalars stand for

A plain scalar can stand for nothing, for a truth value, an integer, a number with a
fraction, or for its text. A quoted one stands for its text.
-/

namespace Countinghouse.YamlScalar

/-- Whether a text stands for nothing. -/
def isNull (text : String) : Bool := ["null", "Null", "NULL", "~"].contains text

/-- The truth value that a text stands for. -/
def truth? (text : String) : Option Bool :=
  if ["true", "True", "TRUE"].contains text then some true
  else if ["false", "False", "FALSE"].contains text then some false
  else none

/-- The value of digits to a base, at least one; nothing else may stand between them. -/
def digitsValue? (base : Nat) (digits : List Char) : Option Nat :=
  if digits.isEmpty then none
  else digits.foldlM (fun value character => do
    let digit ← Hex.value? character
    guard (digit < base)
    return value * base + digit) 0

/-- The value of digits after a sign that tells their base. -/
def basedValue? : List Char → Option Nat
  | '0' :: 'x' :: digits => digitsValue? 16 digits
  | '0' :: 'o' :: digits => digitsValue? 8 digits
  | '0' :: 'b' :: digits => digitsValue? 2 digits
  | _ => none

/-- Digits that begin with a zero are no number. -/
def isPadded (digits : List Char) : Bool :=
  digits.head? == some '0' && 1 < digits.length && digits.all Char.isDigit

/-- The value of digits to any base. -/
def magnitude? (digits : List Char) : Option Nat :=
  basedValue? digits <|> (if isPadded digits then none else digitsValue? 10 digits)

/-- The integer that a text stands for. -/
def integer? (text : String) : Option Int :=
  match text.toList with
  | '-' :: digits => (magnitude? digits).map fun value => -(value : Int)
  | '+' :: digits | digits => (magnitude? digits).map fun value => (value : Int)

/-- The number with a fraction or an exponent that digits stand for. -/
def fractionValue? (digits : List Char) : Option Float := do
  let whole := digits.takeWhile Char.isDigit
  let (part, rest) := match digits.drop whole.length with
    | '.' :: more => (more.takeWhile Char.isDigit, more.dropWhile Char.isDigit)
    | more => ([], more)
  guard !(whole ++ part).isEmpty
  let value := (whole ++ part).foldl (fun value digit => value * 10 + (digit.toNat - 48)) 0
  let exponent : Int ← match rest with
    | [] => some 0
    | sign :: more =>
      if sign == 'e' || sign == 'E' then
        match more with
        | '-' :: digits => (digitsValue? 10 digits).map fun value => -(value : Int)
        | '+' :: digits | digits => (digitsValue? 10 digits).map fun value => (value : Int)
      else none
  let shifted := exponent - (part.length : Int)
  let size := shifted + (toString value).length
  if value = 0 ∨ size < -400 then some 0.0
  else if 400 < size then none
  else
    let float := Float.ofScientific value (shifted < 0) shifted.natAbs
    if float.isFinite then some float else none

/-- The number with a fraction that a text stands for, as it reads. -/
def fraction? (text : String) : Option String :=
  if [".inf", ".Inf", ".INF", "+.inf", "+.Inf", "+.INF"].contains text then some "inf"
  else if ["-.inf", "-.Inf", "-.INF"].contains text then some "-inf"
  else if [".nan", ".NaN", ".NAN"].contains text then some "NaN"
  else
    match text.toList with
    | '-' :: digits =>
      (fractionValue? digits).map fun value => Decimal.renderFloat Decimal.inFull (-value)
    | '+' :: digits | digits =>
      (fractionValue? digits).map fun value => Decimal.renderFloat Decimal.inFull value

/-- How an integer is spoken of. -/
def foundInteger (value : Int) : YamlFault.Found :=
  if -9223372036854775808 ≤ value ∧ value ≤ 18446744073709551615 then .plain (.integer value)
  else .wide value

/-- An integer that fits into 128 bits can be spoken of. -/
def isWideEnough (value : Int) : Bool := -(Int.pow 2 127) ≤ value && value < Int.pow 2 128

/-- What a plain scalar turns out to be. -/
def found (text : String) : YamlFault.Found :=
  if text.isEmpty || isNull text then .nothing
  else
    match truth? text, (integer? text).filter isWideEnough with
    | some value, _ => .plain (.bool value)
    | none, some value => foundInteger value
    | none, none =>
      let digits := match text.toList with
        | '-' :: digits | '+' :: digits | digits => digits
      match if isPadded digits then none else fraction? text with
      | some value => .plain (.fraction value)
      | none => .plain (.text text)

end Countinghouse.YamlScalar
