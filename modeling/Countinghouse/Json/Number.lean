import Countinghouse.Decimal.Shortest
import Countinghouse.Json.Reader

/-!
# Numbers in JSON

A number without fraction and exponent that fits into 64 bits is exact. Any other number
becomes a floating-point number: its digits are gathered while they fit into 64 bits,
and the rest only moves the decimal point.
-/

namespace Countinghouse

/-- A number as it was read. -/
inductive JsonNumber where
  /-- From zero up to the greatest number of 64 bits without a sign. -/
  | natural (value : Nat)
  /-- Below zero, and not below the least number of 64 bits with a sign. -/
  | negative (value : Int)
  | fraction (value : Float)

namespace JsonNumber

/-- What a number is spoken of as. -/
def found : JsonNumber → JsonFault.Found
  | .natural value => .integer value
  | .negative value => .integer value
  | .fraction value => .fraction (Decimal.renderFloat Decimal.plain value)

/-- The greatest number of 64 bits without a sign. -/
def greatest : Nat := 18446744073709551615

/-- Digits gathered so far, with the number of digits that found no room. -/
structure Gathered where
  value : Nat
  dropped : Nat

/-- Adds digits until one finds no room; that one and all after it are dropped. -/
def gather (digits : List Nat) (value : Nat) : Gathered :=
  match digits with
  | [] => ⟨value, 0⟩
  | digit :: rest =>
    if value * 10 + digit ≤ greatest then gather rest (value * 10 + digit)
    else ⟨value, digits.length⟩

/-- A number that fits into 64 bits with a sign stays exact below zero; zero itself and
anything beyond has to be a floating-point number there. -/
def whole (isPositive : Bool) (value : Nat) : JsonNumber :=
  if isPositive then .natural value
  else if value = 0 ∨ 9223372036854775808 < value then .fraction (-(UInt64.ofNat value).toFloat)
  else .negative (-(value : Int))

end JsonNumber

namespace Reader

/-- The floating-point number for gathered digits and the place of the decimal point. -/
def scale (isPositive : Bool) (value : Nat) (exponent : Int) : Reader Float := do
  let signed (magnitude : Float) := if isPositive then magnitude else -magnitude
  let digits := (UInt64.ofNat value).toFloat
  if value = 0 then return signed digits
  if 308 < exponent then fail .outOfRange
  if 0 ≤ exponent then
    let scaled := digits * Float.ofScientific 1 false exponent.toNat
    if scaled.isInf then fail .outOfRange
    return signed scaled
  return signed (shrink digits exponent.natAbs 4)
where
  /-- Divides by a power of ten, in steps that floating-point numbers can hold. -/
  shrink (digits : Float) (count : Nat) : Nat → Float
    | 0 => 0.0
    | steps + 1 =>
      if count ≤ 308 then digits / Float.ofScientific 1 false count
      else shrink (digits / Float.ofScientific 1 false 308) (count - 308) steps

/-- The greatest exponent that is told from a greater one. -/
def greatestExponent : Nat := 2147483647

/-- Reads an exponent and completes the number. -/
def exponent (isPositive : Bool) (value : Nat) (before : Int) : Reader Float := do
  step
  let isUp ← match ← nextOrEnd with
    | '+' => step; pure true
    | '-' => step; pure false
    | _ => pure true
  match ← next? with
  | none => fail .endOfValue
  | some first =>
    if !first.isDigit then
      step
      fail .badNumber
    match overflowAt 0 0 (← get).digits with
    | some count =>
      modify (Cursor.skip count)
      if value ≠ 0 ∧ isUp then fail .outOfRange
      let _ ← digits
      return if isPositive then 0.0 else -0.0
    | none =>
      let size : Nat := (← digits).foldl (fun size digit => size * 10 + digit) 0
      scale isPositive value (if isUp then before + (size : Int) else before - (size : Int))
where
  /-- The number of digits up to the one that makes an exponent too large, if one does. -/
  overflowAt (size count : Nat) : List Nat → Option Nat
    | [] => none
    | digit :: rest =>
      if greatestExponent < size * 10 + digit then some (count + 1)
      else overflowAt (size * 10 + digit) (count + 1) rest

/-- Reads what may follow the digits of a number with a fraction. -/
def afterFraction (isPositive : Bool) (value : Nat) (place : Int) : Reader Float := do
  match ← nextOrEnd with
  | 'e' | 'E' => exponent isPositive value place
  | _ => scale isPositive value place

/-- Reads a fraction and completes the number. -/
def fraction (isPositive : Bool) (value : Nat) (before : Int) : Reader Float := do
  step
  let places ← digits
  if places.isEmpty then
    match ← next? with
    | some _ => failAhead .badNumber
    | none => failAhead .endOfValue
  let gathered := JsonNumber.gather places value
  afterFraction isPositive gathered.value (before - ((places.length - gathered.dropped : Nat) : Int))

/-- Reads a number after its sign. -/
def unsigned (isPositive : Bool) : Reader JsonNumber := do
  match ← next? with
  | none => fail .endOfValue
  | some first =>
    if !first.isDigit then
      step
      fail .badNumber
    if first = '0' then
      step
      if (← nextOrEnd).isDigit then failAhead .badNumber
      rest 0 0
    else
      let gathered := JsonNumber.gather (← digits) 0
      rest gathered.value gathered.dropped
where
  /-- Reads what may follow the whole digits of a number. -/
  rest (value dropped : Nat) : Reader JsonNumber := do
    match ← nextOrEnd with
    | '.' => return .fraction (← fraction isPositive value dropped)
    | 'e' | 'E' => return .fraction (← exponent isPositive value dropped)
    | _ =>
      if dropped = 0 then return JsonNumber.whole isPositive value
      return .fraction (← scale isPositive value dropped)

/-- Reads a number at its sign or first digit. -/
def number : Reader JsonNumber := do
  if (← nextOrEnd) = '-' then
    step
    unsigned false
  else unsigned true

/-- Passes over a number after its sign. -/
def anyUnsigned (isPositive : Bool) : Reader (Option Int) := do
  let first ← nextOrEnd
  if !first.isDigit then
    step
    fail .badNumber
  if first = '0' then
    step
    if (← nextOrEnd).isDigit then failAhead .badNumber
    rest [0]
  else rest (← digits)
where
  /-- Passes over what may follow the whole digits of a number. -/
  rest (whole : List Nat) : Reader (Option Int) := do
    match ← nextOrEnd with
    | '.' =>
      step
      if (← digits).isEmpty then failAhead .badNumber
      match ← nextOrEnd with
      | 'e' | 'E' => passExponent
      | _ => pure ()
      return none
    | 'e' | 'E' =>
      passExponent
      return none
    | _ => return integer? (JsonNumber.gather whole 0)
  /-- The integer of 64 bits that the digits of a number write. -/
  integer? (gathered : JsonNumber.Gathered) : Option Int :=
    if gathered.dropped ≠ 0 then none
    else
      match JsonNumber.whole isPositive gathered.value with
      | .natural value => some value
      | .negative value => some value
      | .fraction _ => none
  /-- Passes over an exponent. -/
  passExponent : Reader Unit := do
    step
    match ← nextOrEnd with
    | '+' | '-' => step
    | _ => pure ()
    let first ← nextOrEnd
    step
    if !first.isDigit then fail .badNumber
    let _ ← digits

/-- Passes over a number whatever its size, and answers the integer it writes, if it has
neither fraction nor exponent and fits into 64 bits. -/
def anyNumber : Reader (Option Int) := do
  if (← nextOrEnd) = '-' then
    step
    anyUnsigned false
  else anyUnsigned true

end Reader

end Countinghouse
