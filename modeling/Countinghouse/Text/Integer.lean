/-!
# Integers from texts

An integer is an optional sign and decimal digits, and has to lie in bounds. The first
character that makes a text no such integer decides what is said to be wrong with it.
-/

namespace Countinghouse

/-- What can be wrong with the text of an integer. -/
inductive IntegerFault where
  | empty
  | badDigit
  | tooLarge
  | tooSmall
  deriving DecidableEq, Repr

namespace IntegerFault

/-- The text of a fault. -/
def message : IntegerFault → String
  | .empty => "cannot parse integer from empty string"
  | .badDigit => "invalid digit found in string"
  | .tooLarge => "number too large to fit in target type"
  | .tooSmall => "number too small to fit in target type"

end IntegerFault

/-- The least and the greatest integer of a kind. -/
structure IntegerBounds where
  least : Int
  greatest : Int

namespace IntegerBounds

/-- 64 bits with a sign. -/
def signed64 : IntegerBounds := ⟨-9223372036854775808, 9223372036854775807⟩

/-- 64 bits without a sign. -/
def unsigned64 : IntegerBounds := ⟨0, 18446744073709551615⟩

/-- 16 bits without a sign. -/
def unsigned16 : IntegerBounds := ⟨0, 65535⟩

/-- Reads digits after those that made up `value`; `sign` is 1 or -1. -/
def readDigits (bounds : IntegerBounds) (sign : Int) :
    List Char → Int → Except IntegerFault Int
  | [], value => .ok value
  | digit :: rest, value =>
    if !digit.isDigit then .error .badDigit
    else
      let next := value * 10 + sign * ((digit.toNat : Int) - 48)
      if bounds.greatest < next then .error .tooLarge
      else if next < bounds.least then .error .tooSmall
      else readDigits bounds sign rest next

/-- Reads an integer. A minus sign is only known where there are integers below zero. -/
def parse (bounds : IntegerBounds) (text : List Char) : Except IntegerFault Int :=
  match text with
  | [] => .error .empty
  | ['+'] | ['-'] => .error .badDigit
  | '+' :: digits => bounds.readDigits 1 digits 0
  | '-' :: digits =>
    if bounds.least < 0 then bounds.readDigits (-1) digits 0 else .error .badDigit
  | digits => bounds.readDigits 1 digits 0

end IntegerBounds

end Countinghouse
