/-!
# The shortest decimal that reads back

`Shortest.ofMagnitude` finds, for a positive binary floating-point number
`mantissa · 2 ^ exponent`, the decimal with the fewest digits that lies closer to it
than to any other such number; of several it takes the nearest. The search tries the
grids of one digit, two digits and so on, and on each grid only the two neighbours of
the number, in exact integer arithmetic.
-/

namespace Countinghouse

/-- A positive decimal number `digits · 10 ^ exponent`. -/
structure Decimal where
  digits : Nat
  exponent : Int
  deriving DecidableEq, Repr, Inhabited

namespace Shortest

/-- A positive rational number, scaled so that comparisons are between integers. -/
structure Ratio where
  above : Nat
  below : Nat

/-- A number times a power of two. -/
def timesTwoTo (value : Nat) (exponent : Int) : Ratio :=
  if 0 ≤ exponent then ⟨value * Nat.pow 2 exponent.toNat, 1⟩
  else ⟨value, Nat.pow 2 (-exponent).toNat⟩

/-- A decimal as a ratio. -/
def ofDecimal (decimal : Decimal) : Ratio :=
  if 0 ≤ decimal.exponent then ⟨decimal.digits * Nat.pow 10 decimal.exponent.toNat, 1⟩
  else ⟨decimal.digits, Nat.pow 10 (-decimal.exponent).toNat⟩

/-- Whether the first ratio is below the second. -/
def Ratio.less (first second : Ratio) : Bool :=
  first.above * second.below < second.above * first.below

/-- The largest multiple of `10 ^ exponent` that is not above a ratio. -/
def floorOnGrid (ratio : Ratio) (exponent : Int) : Nat :=
  if 0 ≤ exponent then ratio.above / (ratio.below * Nat.pow 10 exponent.toNat)
  else ratio.above * Nat.pow 10 (-exponent).toNat / ratio.below

/-- Distance between a ratio and a decimal on the scale of both denominators. -/
def gap (ratio : Ratio) (decimal : Decimal) : Nat :=
  let other := ofDecimal decimal
  let left := ratio.above * other.below
  let right := other.above * ratio.below
  max left right - min left right

/-- The exponent of the leading decimal digit, by trying exponents downwards. -/
def leadingExponent (ratio : Ratio) : Nat → Int → Int
  | 0, exponent => exponent
  | fuel + 1, exponent =>
    if floorOnGrid ratio exponent = 0 then leadingExponent ratio fuel (exponent - 1)
    else exponent

/-- The shortest decimal for `mantissa · 2 ^ exponent`. The interval around it reaches
half way to its neighbours, and contains its ends when the mantissa is even; the
neighbour below is closer when the mantissa is the least one of its exponent. -/
def ofMagnitude (mantissa : Nat) (exponent : Int) (isLeast : Bool) : Decimal :=
  let value := timesTwoTo (4 * mantissa) (exponent - 2)
  let upper := timesTwoTo (4 * mantissa + 2) (exponent - 2)
  let lower := timesTwoTo (4 * mantissa - (if isLeast then 1 else 2)) (exponent - 2)
  let inside (decimal : Decimal) : Bool :=
    let ratio := ofDecimal decimal
    if mantissa % 2 = 0 then !ratio.less lower && !upper.less ratio
    else lower.less ratio && ratio.less upper
  let leading := leadingExponent value 700 310
  let candidate? (count : Nat) : Option Decimal :=
    let grid : Int := leading - (count : Int)
    let below : Decimal := ⟨floorOnGrid value grid, grid⟩
    let above : Decimal := ⟨below.digits + 1, grid⟩
    match inside below && below.digits != 0, inside above with
    | true, true => some (if gap value above < gap value below then above else below)
    | true, false => some below
    | false, true => some above
    | false, false => none
  ((List.range 18).findSome? candidate?).getD ⟨floorOnGrid value (leading - 17), leading - 17⟩

/-- Removes zeros at the end of the digits. -/
def trim : Nat → Decimal → Decimal
  | 0, decimal => decimal
  | fuel + 1, decimal =>
    if decimal.digits ≠ 0 ∧ decimal.digits % 10 = 0 then
      trim fuel ⟨decimal.digits / 10, decimal.exponent + 1⟩
    else decimal

/-- The shortest decimal for a positive finite number given by its 64 bits. -/
def ofBits (bits : Nat) : Decimal :=
  let fraction : Nat := bits % Nat.pow 2 52
  let biased : Nat := bits / Nat.pow 2 52 % 2048
  let found :=
    if biased = 0 then ofMagnitude fraction (-1074) false
    else ofMagnitude (Nat.pow 2 52 + fraction) ((biased : Int) - 1075)
      (fraction == 0 && biased != 1)
  trim 400 found

end Shortest

/-- How a decimal is written: between these exponents of its leading digit without an
exponent, otherwise with one of at least two digits and a sign. -/
structure Decimal.Style where
  leastPlain : Int
  greatestPlain : Int

namespace Decimal

/-- Floating-point numbers are written out from 0.00001 up to sixteen digits. -/
def plain : Style := ⟨-5, 15⟩

/-- The written form of a decimal; a whole number keeps one zero after the point. -/
def render (style : Style) (decimal : Decimal) : String :=
  let digits := toString decimal.digits
  let leading : Int := decimal.exponent + (digits.length : Int) - 1
  if style.leastPlain ≤ leading ∧ leading ≤ style.greatestPlain then
    if 0 ≤ decimal.exponent then
      digits ++ String.ofList (List.replicate decimal.exponent.toNat '0') ++ ".0"
    else if 0 ≤ leading then
      let whole := (leading + 1).toNat
      String.ofList (digits.toList.take whole) ++ "." ++ String.ofList (digits.toList.drop whole)
    else
      "0." ++ String.ofList (List.replicate (-leading - 1).toNat '0') ++ digits
  else
    let fraction := digits.toList.drop 1
    let size := toString leading.natAbs
    String.ofList (digits.toList.take 1)
      ++ (if fraction.isEmpty then "" else "." ++ String.ofList fraction)
      ++ "e" ++ (if leading < 0 then "-" else "+")
      ++ (if size.length < 2 then "0" ++ size else size)

/-- Numbers of any size are written out. -/
def inFull : Style := ⟨-400, 400⟩

/-- The written form of a finite floating-point number. -/
def renderFloat (style : Style) (value : Float) : String :=
  let bits := value.toBits.toNat
  let magnitude := bits % Nat.pow 2 63
  (if bits = magnitude then "" else "-")
    ++ (if magnitude = 0 then "0.0" else render style (Shortest.ofBits magnitude))

end Decimal

end Countinghouse
