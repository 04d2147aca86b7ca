/-!
# Instants and their calendar form

An `Instant` counts nanoseconds from the start of 1970 in universal time. The
calendar is the proleptic Gregorian one. `Instant.earliestSecond` and
`Instant.latestSecond` bound the seconds that have a date, from the start of the year
-262143 to the end of the year 262142.
-/

namespace Countinghouse

/-- A point in time, in nanoseconds since 1970-01-01T00:00:00Z. -/
structure Instant where
  nanos : Int
  deriving DecidableEq, Repr, Inhabited

namespace Instant

/-- Nanoseconds in one second. -/
def nanosPerSecond : Int := 1000000000

/-- The first second that has a calendar date. -/
def earliestSecond : Int := -8334601228800

/-- The last second that has a calendar date. -/
def latestSecond : Int := 8210266876799

/-- The instant at which the given second begins. -/
def ofSeconds (seconds : Int) : Instant := ⟨seconds * nanosPerSecond⟩

/-- The whole second an instant lies in. -/
def seconds (instant : Instant) : Int := instant.nanos / nanosPerSecond

/-- The nanoseconds an instant lies past its whole second. -/
def subsecond (instant : Instant) : Int := instant.nanos % nanosPerSecond

/-- The start of the second an instant lies in. -/
def truncate (instant : Instant) : Instant := ofSeconds instant.seconds

/-- Milliseconds since the start of 1970, rounded down. -/
def milliseconds (instant : Instant) : Int := instant.nanos / 1000000

/-- A second that has a calendar date. -/
def HasDate (seconds : Int) : Prop := earliestSecond ≤ seconds ∧ seconds ≤ latestSecond

instance (seconds : Int) : Decidable (HasDate seconds) := by
  unfold HasDate; infer_instance

/-- The instant that begins a given second, when that second has a date. -/
def ofSeconds? (seconds : Int) : Option Instant :=
  if HasDate seconds then some (ofSeconds seconds) else none

/-- The instant a number of whole seconds later, when its second has a date. -/
def addSeconds? (instant : Instant) (count : Int) : Option Instant :=
  if HasDate (instant.seconds + count) then
    some ⟨instant.nanos + count * nanosPerSecond⟩
  else none

end Instant

/-- A day of the proleptic Gregorian calendar. -/
structure Date where
  year : Int
  month : Nat
  day : Nat
  deriving DecidableEq, Repr, Inhabited

namespace Date

/-- The date a number of days after 1970-01-01. Years are taken to start in March, so
that the leap day is the last of its year and every month's start is a linear step. -/
def ofDays (days : Int) : Date :=
  let shifted := days + 719468
  let era := shifted / 146097
  let dayOfEra := (shifted % 146097).toNat
  let yearOfEra := (dayOfEra - dayOfEra / 1460 + dayOfEra / 36524 - dayOfEra / 146096) / 365
  let dayOfYear := dayOfEra - (365 * yearOfEra + yearOfEra / 4 - yearOfEra / 100)
  let marchMonth := (5 * dayOfYear + 2) / 153
  let day := dayOfYear - (153 * marchMonth + 2) / 5 + 1
  let month := if marchMonth < 10 then marchMonth + 3 else marchMonth - 9
  let year := (yearOfEra : Int) + era * 400 + (if month ≤ 2 then 1 else 0)
  ⟨year, month, day⟩

/-- The number of days from 1970-01-01 to a date. -/
def toDays (date : Date) : Int :=
  let year := if date.month ≤ 2 then date.year - 1 else date.year
  let era := year / 400
  let yearOfEra := (year % 400).toNat
  let marchMonth := if 2 < date.month then date.month - 3 else date.month + 9
  let dayOfYear := (153 * marchMonth + 2) / 5 + date.day - 1
  let dayOfEra := yearOfEra * 365 + yearOfEra / 4 - yearOfEra / 100 + dayOfYear
  era * 146097 + dayOfEra - 719468

end Date

/-- A number written with at least `width` digits, filled up with zeros. -/
def padded (width value : Nat) : String :=
  let digits := toString value
  String.ofList (List.replicate (width - digits.length) '0') ++ digits

namespace Instant

/-- The year: four digits, or a sign and five digits or more after the year 9999, and four or
more before the year 0. -/
def renderYear (year : Int) : String :=
  if 0 ≤ year ∧ year ≤ 9999 then padded 4 year.toNat
  else if 0 ≤ year then "+" ++ padded 5 year.toNat
  else "-" ++ padded 4 year.natAbs

/-- The date and time of day, to the second, with no zone. -/
def renderSeconds (instant : Instant) : String :=
  let seconds := instant.seconds
  let date := Date.ofDays (seconds / 86400)
  let clock := (seconds % 86400).toNat
  renderYear date.year ++ "-" ++ padded 2 date.month ++ "-" ++ padded 2 date.day ++ "T"
    ++ padded 2 (clock / 3600) ++ ":" ++ padded 2 (clock / 60 % 60) ++ ":"
    ++ padded 2 (clock % 60)

/-- The fraction of a second in the fewest of zero, three, six or nine digits. -/
def renderFraction (instant : Instant) : String :=
  let fraction := instant.subsecond.toNat
  if fraction = 0 then ""
  else if fraction % 1000000 = 0 then "." ++ padded 3 (fraction / 1000000)
  else if fraction % 1000 = 0 then "." ++ padded 6 (fraction / 1000)
  else "." ++ padded 9 fraction

/-- The date and time of day in universal time, such as `2024-02-29T23:59:59.500Z`. -/
def render (instant : Instant) : String :=
  instant.renderSeconds ++ instant.renderFraction ++ "Z"

/-! ## Reading -/

/-- The number that a run of digits stands for. -/
def digitsValue? (digits : List Char) : Option Nat :=
  if digits.isEmpty || !digits.all Char.isDigit then none
  else some (digits.foldl (fun value digit => value * 10 + (digit.toNat - 48)) 0)

/-- The seconds that a zone is ahead of universal time: `Z`, or hours and minutes with a
sign. -/
def zoneOffset? : List Char → Option Int
  | ['Z'] => some 0
  | sign :: zone => do
    let hours ← digitsValue? (zone.take 2)
    let minutes ← digitsValue? (zone.drop 3)
    guard (zone.length = 5 ∧ zone[2]? = some ':' ∧ hours < 24 ∧ minutes < 60)
    let seconds : Int := hours * 3600 + minutes * 60
    if sign = '+' then some seconds else if sign = '-' then some (-seconds) else none
  | [] => none

/-- The nanoseconds that the digits after a decimal point stand for. -/
def fractionNanos? (digits : List Char) : Option Nat :=
  digitsValue? ((digits ++ List.replicate 9 '0').take 9)

/-- Reads a date and time of day with the zone that they are in, and any year that has a sign. -/
def parse? (text : String) : Option Instant := do
  let (sign, unsigned) : Int × List Char :=
    match text.toList with
    | '-' :: rest => (-1, rest)
    | '+' :: rest => (1, rest)
    | rest => (1, rest)
  let yearDigits := unsigned.takeWhile Char.isDigit
  let rest := unsigned.drop yearDigits.length
  let field (place : Nat) : Option Nat := digitsValue? ((rest.drop place).take 2)
  guard ([(0, '-'), (3, '-'), (6, 'T'), (9, ':'), (12, ':')].all fun (place, separator) =>
    rest[place]? == some separator)
  let date : Date := ⟨sign * (← digitsValue? yearDigits), ← field 1, ← field 4⟩
  guard (Date.ofDays date.toDays = date)
  let hour ← field 7
  let minute ← field 10
  let second ← field 13
  guard (hour < 24 ∧ minute < 60 ∧ second < 60)
  let (fraction, zone) :=
    match rest.drop 15 with
    | '.' :: more => (more.takeWhile Char.isDigit, more.dropWhile Char.isDigit)
    | zone => ([], zone)
  let clock : Int := hour * 3600 + minute * 60 + second
  let start := ofSeconds (date.toDays * 86400 + clock - (← zoneOffset? zone))
  return ⟨start.nanos + (← fractionNanos? fraction)⟩

end Instant

end Countinghouse
