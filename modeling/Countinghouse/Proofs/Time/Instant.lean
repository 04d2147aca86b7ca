import Countinghouse.Time.Instant
import Mathlib.Data.List.Basic
import Mathlib.Tactic.IntervalCases
import Mathlib.Tactic.SplitIfs

/-!
# Points in time are read back as they were written

Every point in time has a text, whatever its year, and `Instant.parse?` reads that text as the same
point in time. The calendar part is `Date.toDays_ofDays`: a day has one date, and the date says
which day it is.
-/

namespace Countinghouse

/-! ## The calendar -/

namespace Date

/-- The year of an era that a day of the era lies in, with the days that went before. -/
theorem yearOfEra_bounds {day : Nat} (isDay : day < 146097) :
    let year := (day - day / 1460 + day / 36524 - day / 146096) / 365
    year < 400 ∧ 365 * year + year / 4 - year / 100 ≤ day ∧
      day - (365 * year + year / 4 - year / 100) < 366 := by
  intro year
  have isYear : year = (day - day / 1460 + day / 36524 - day / 146096) / 365 := rfl
  clear_value year
  -- The centuries are told apart, since a century's last year may lack the leap day.
  have isCentury : day / 36524 < 5 := by omega
  have isLast : day / 146096 < 2 := by omega
  have isCenturyOfYear : year / 100 < 5 := by omega
  generalize isQuotient : day / 36524 = century at *
  generalize isLastQuotient : day / 146096 = last at *
  generalize isYearQuotient : year / 100 = centuryOfYear at *
  interval_cases century <;> interval_cases last <;> interval_cases centuryOfYear <;> omega

/-- The month of a year that begins in March, with the days that went before. -/
theorem marchMonth_bounds {day : Nat} (isDay : day < 366) :
    let month := (5 * day + 2) / 153
    month < 12 ∧ (153 * month + 2) / 5 ≤ day ∧ day - (153 * month + 2) / 5 < 31 := by
  intro month
  omega

/-- The months and the days of a month have at most two digits. -/
theorem ofDays_bounds (days : Int) : (ofDays days).month < 100 ∧ (ofDays days).day < 100 := by
  unfold ofDays
  extract_lets shifted era dayOfEra yearOfEra dayOfYear marchMonth day month year
  have isDay : dayOfEra < 146097 := by omega
  have isDayOfYear : dayOfYear < 366 := (yearOfEra_bounds isDay).2.2
  obtain ⟨isMonth, -, isDayOfMonth⟩ :
    marchMonth < 12 ∧ _ ∧ dayOfYear - (153 * marchMonth + 2) / 5 < 31 :=
      marchMonth_bounds isDayOfYear
  constructor
  · simp only [month]
    split_ifs <;> omega
  · simp only [day]
    omega

/-- The date of a day says which day it is. -/
theorem toDays_ofDays (days : Int) : (ofDays days).toDays = days := by
  unfold ofDays
  extract_lets shifted era dayOfEra yearOfEra dayOfYear marchMonth day month year
  have isDay : dayOfEra < 146097 := by omega
  -- First of all, as the equations that follow only keep the search busy.
  have sameShifted : era * 146097 + (dayOfEra : Int) = shifted := by omega
  obtain ⟨isYear, yearStarts, isDayOfYear⟩ :
    yearOfEra < 400 ∧ 365 * yearOfEra + yearOfEra / 4 - yearOfEra / 100 ≤ dayOfEra ∧
      dayOfYear < 366 := yearOfEra_bounds isDay
  obtain ⟨isMonth, monthStarts, -⟩ :
    marchMonth < 12 ∧ (153 * marchMonth + 2) / 5 ≤ dayOfYear ∧ _ := marchMonth_bounds isDayOfYear
  have sameMonth : (if 2 < month then month - 3 else month + 9) = marchMonth := by
    simp only [month]
    split_ifs <;> omega
  have sameYear : (if month ≤ 2 then year - 1 else year) = yearOfEra + era * 400 := by
    simp only [year]
    split_ifs <;> omega
  have sameEra : ((yearOfEra : Int) + era * 400) / 400 = era := by omega
  have sameYearOfEra : (((yearOfEra : Int) + era * 400) % 400).toNat = yearOfEra := by omega
  have sameDayOfYear : (153 * marchMonth + 2) / 5 + day - 1 = dayOfYear := by
    simp only [day]
    omega
  have sameDayOfEra :
      yearOfEra * 365 + yearOfEra / 4 - yearOfEra / 100 + dayOfYear = dayOfEra := by
    simp only [dayOfYear]
    omega
  unfold toDays
  simp only [sameMonth, sameYear, sameEra, sameYearOfEra, sameDayOfYear, sameDayOfEra, sameShifted]
  exact Int.add_sub_cancel days 719468

end Date

/-! ## Digits -/

namespace Instant

/-- These characters are digits and stand for a number. -/
structure Writes (value : Nat) (digits : List Char) : Prop where
  isDigit : ∀ digit ∈ digits, digit.isDigit
  isSome : digits ≠ []
  isValue : Nat.ofDigitChars 10 digits 0 = value

theorem Writes.digitsValue? {value : Nat} {digits : List Char} (writes : Writes value digits) :
    digitsValue? digits = some value := by
  have isDigits : digits.all Char.isDigit = true := List.all_eq_true.mpr writes.isDigit
  have isValue := writes.isValue
  unfold Nat.ofDigitChars at isValue
  simp only [Nat.mul_comm 10] at isValue
  rw [Instant.digitsValue?, if_neg (by simp [isDigits, writes.isSome])]
  exact congrArg some isValue

theorem Writes.append_zeros {value : Nat} {digits : List Char} (writes : Writes value digits)
    (count : Nat) : Writes (value * 10 ^ count) (digits ++ List.replicate count '0') where
  isDigit digit member := by
    rcases List.mem_append.mp member with old | new
    · exact writes.isDigit digit old
    · rw [List.eq_of_mem_replicate new]
      rfl
  isSome := by simp [writes.isSome]
  isValue := by
    rw [Nat.ofDigitChars_append, writes.isValue, Nat.ofDigitChars_replicate_zero, Nat.mul_comm]

theorem toList_padded (width value : Nat) :
    (padded width value).toList =
      List.replicate (width - (Nat.toDigits 10 value).length) '0' ++ Nat.toDigits 10 value := by
  simp [padded, Nat.toString_eq_repr, Nat.toList_repr, ← String.length_toList]

theorem writes_padded (width value : Nat) : Writes value (padded width value).toList where
  isDigit digit member := by
    rw [toList_padded] at member
    rcases List.mem_append.mp member with zero | digit
    · rw [List.eq_of_mem_replicate zero]
      rfl
    · exact Nat.isDigit_of_mem_toDigits (by decide) (by decide) digit
  isSome := by simp [toList_padded, Nat.toDigits_ne_nil]
  isValue := by
    rw [toList_padded, Nat.ofDigitChars_append, Nat.ofDigitChars_replicate_zero, Nat.mul_zero,
      Nat.ofDigitChars_toDigits (by decide) (by decide)]

theorem length_padded {width value : Nat} (positive : 0 < width) (fits : value < 10 ^ width) :
    (padded width value).toList.length = width := by
  have short := (Nat.length_toDigits_le_iff (by decide) positive).mpr fits
  rw [toList_padded, List.length_append, List.length_replicate]
  omega

/-- Two digits are read where two digits were written. -/
theorem padded_two {value : Nat} (fits : value < 100) :
    ∃ tens ones, (padded 2 value).toList = [tens, ones] ∧
      digitsValue? [tens, ones] = some value := by
  obtain ⟨tens, ones, isPair⟩ := List.length_eq_two.mp (length_padded (by decide) fits)
  exact ⟨tens, ones, isPair, isPair ▸ (writes_padded 2 value).digitsValue?⟩

/-! ## The parts of a text -/

/-- The sign that a year is written with, and what it is multiplied by. -/
inductive YearSign : List Char → Int → Prop where
  | none : YearSign [] 1
  | plus : YearSign ['+'] 1
  | minus : YearSign ['-'] (-1)

/-- A year is written as digits, after a sign if there is one. -/
theorem renderYear_eq (year : Int) :
    ∃ sign factor digits, (renderYear year).toList = sign ++ digits ∧ YearSign sign factor ∧
      Writes year.natAbs digits ∧ factor * year.natAbs = year := by
  unfold renderYear
  split_ifs with isShort isPositive
  · refine ⟨[], 1, (padded 4 year.toNat).toList, (List.nil_append _).symm, .none, ?_, by omega⟩
    rw [show year.natAbs = year.toNat by omega]
    exact writes_padded 4 year.toNat
  · refine ⟨['+'], 1, (padded 5 year.toNat).toList, by simp, .plus, ?_, by omega⟩
    rw [show year.natAbs = year.toNat by omega]
    exact writes_padded 5 year.toNat
  · exact ⟨['-'], -1, (padded 4 year.natAbs).toList, by simp, .minus, writes_padded 4 _, by omega⟩

/-- A fraction is not written when there is none, and begins with a point otherwise. -/
theorem renderFraction_eq (instant : Instant) :
    (instant.renderFraction = "" ∧ instant.subsecond = 0) ∨
      ∃ digits, instant.renderFraction.toList = '.' :: digits ∧
        (∀ digit ∈ digits, digit.isDigit) ∧
        fractionNanos? digits = some instant.subsecond.toNat := by
  have bounds : 0 ≤ instant.subsecond ∧ instant.subsecond < 1000000000 := by
    unfold subsecond nanosPerSecond
    omega
  have written : ∀ {width value : Nat}, 0 < width → width ≤ 9 → value < 10 ^ width →
      value * 10 ^ (9 - width) = instant.subsecond.toNat →
      ∃ digits, ("." ++ padded width value).toList = '.' :: digits ∧
        (∀ digit ∈ digits, digit.isDigit) ∧
        fractionNanos? digits = some instant.subsecond.toNat := by
    intro width value positive atMost fits isFraction
    refine ⟨(padded width value).toList, by simp, (writes_padded width value).isDigit, ?_⟩
    have isNine : ((padded width value).toList ++ List.replicate 9 '0').take 9 =
        (padded width value).toList ++ List.replicate (9 - width) '0' := by
      rw [List.take_append, length_padded positive fits, List.take_replicate,
        List.take_of_length_le (by rw [length_padded positive fits]; exact atMost)]
      congr 2
      omega
    unfold fractionNanos?
    rw [isNine, ((writes_padded width value).append_zeros (9 - width)).digitsValue?, isFraction]
  unfold renderFraction
  extract_lets fraction
  split_ifs with isNone isMilli isMicro
  · exact .inl ⟨rfl, by omega⟩
  · exact .inr (written (by decide) (by decide) (by omega) (by omega))
  · exact .inr (written (by decide) (by decide) (by omega) (by omega))
  · exact .inr (written (by decide) (by decide) (by omega) (by omega))

/-! ## The whole text -/

/-- How a date and the time of a day are written up to the second. -/
structure Spelling (date : Date) (clock : Nat) (spelling : List Char) : Prop where
  isDate : Date.ofDays date.toDays = date
  isClock : clock < 86400
  isSpelled : ∃ sign factor yearDigits, YearSign sign factor ∧
    Writes date.year.natAbs yearDigits ∧ factor * date.year.natAbs = date.year ∧
    ∃ month month' day day' hour hour' minute minute' second second' : Char,
      digitsValue? [month, month'] = some date.month ∧ digitsValue? [day, day'] = some date.day ∧
      digitsValue? [hour, hour'] = some (clock / 3600) ∧
      digitsValue? [minute, minute'] = some (clock / 60 % 60) ∧
      digitsValue? [second, second'] = some (clock % 60) ∧
      spelling = sign ++ (yearDigits ++ ['-', month, month', '-', day, day', 'T', hour, hour', ':',
        minute, minute', ':', second, second'])

theorem spelling_renderSeconds (instant : Instant) :
    Spelling (Date.ofDays (instant.seconds / 86400)) (instant.seconds % 86400).toNat
      instant.renderSeconds.toList where
  isDate := by rw [Date.toDays_ofDays]
  isClock := by omega
  isSpelled := by
    obtain ⟨isMonth, isDay⟩ := Date.ofDays_bounds (instant.seconds / 86400)
    obtain ⟨sign, factor, yearDigits, isYear, isSign, yearWritten, isProduct⟩ :=
      renderYear_eq (Date.ofDays (instant.seconds / 86400)).year
    obtain ⟨month, month', monthWritten, monthRead⟩ := padded_two isMonth
    obtain ⟨day, day', dayWritten, dayRead⟩ := padded_two isDay
    obtain ⟨hour, hour', hourWritten, hourRead⟩ :=
      padded_two (show (instant.seconds % 86400).toNat / 3600 < 100 by omega)
    obtain ⟨minute, minute', minuteWritten, minuteRead⟩ :=
      padded_two (show (instant.seconds % 86400).toNat / 60 % 60 < 100 by omega)
    obtain ⟨second, second', secondWritten, secondRead⟩ :=
      padded_two (show (instant.seconds % 86400).toNat % 60 < 100 by omega)
    refine ⟨sign, factor, yearDigits, isSign, yearWritten, isProduct, month, month', day, day',
      hour, hour', minute, minute', second, second', monthRead, dayRead, hourRead, minuteRead,
      secondRead, ?_⟩
    simp [renderSeconds, isYear, monthWritten, dayWritten, hourWritten, minuteWritten,
      secondWritten]

/-- The sign of a year is told from its digits. -/
theorem YearSign.split {sign : List Char} {factor : Int} (isSign : YearSign sign factor)
    {year : Nat} {digits rest : List Char} (writes : Writes year digits) :
    (match sign ++ (digits ++ rest) with
      | '-' :: rest => (-1, rest)
      | '+' :: rest => (1, rest)
      | rest => (1, rest) : Int × List Char) = (factor, digits ++ rest) := by
  cases isSign with
  | none =>
      obtain ⟨first, others, rfl⟩ := List.exists_cons_of_ne_nil writes.isSome
      have isDigit := writes.isDigit first List.mem_cons_self
      simp only [List.nil_append, List.cons_append]
      split
      case h_1 atFirst => cases atFirst; cases isDigit
      case h_2 atFirst => cases atFirst; cases isDigit
      case h_3 => rfl
  | plus => rfl
  | minus => rfl

/-- A text is read by its parts: a date and a time of day, then a fraction, in universal time. -/
theorem parse?_of_spelling {date : Date} {clock fraction : Nat} {spelling tail : List Char}
    (spelled : Spelling date clock spelling)
    (isTail : tail = [] ∧ fraction = 0 ∨ ∃ digits, tail = '.' :: digits ∧
      (∀ digit ∈ digits, digit.isDigit) ∧ fractionNanos? digits = some fraction)
    {text : String} (isText : text.toList = spelling ++ (tail ++ ['Z'])) :
    parse? text = some ⟨(date.toDays * 86400 + clock) * nanosPerSecond + fraction⟩ := by
  obtain ⟨isDate, isClock, sign, factor, yearDigits, isSign, yearWritten, isProduct, month, month',
    day, day', hour, hour', minute, minute', second, second', monthRead, dayRead, hourRead,
    minuteRead, secondRead, rfl⟩ := spelled
  have isWhole : text.toList = sign ++ (yearDigits ++ '-' :: month :: month' :: '-' :: day :: day' ::
      'T' :: hour :: hour' :: ':' :: minute :: minute' :: ':' :: second :: second' ::
        (tail ++ ['Z'])) := by
    simp [isText]
  have yearEnds : (yearDigits ++ '-' :: month :: month' :: '-' :: day :: day' ::
      'T' :: hour :: hour' :: ':' :: minute :: minute' :: ':' :: second :: second' ::
        (tail ++ ['Z'])).takeWhile Char.isDigit = yearDigits := by
    rw [List.takeWhile_append_of_pos yearWritten.isDigit]
    simp
  have inDay : clock / 3600 < 24 ∧ clock / 60 % 60 < 60 ∧ clock % 60 < 60 := by omega
  have isTime : ((clock / 3600 : Nat) : Int) * 3600 + ((clock / 60 % 60 : Nat) : Int) * 60 +
      ((clock % 60 : Nat) : Int) = clock := by omega
  unfold parse?
  rw [isWhole]
  split
  case h_1 factorRead unsigned isPair =>
  obtain ⟨rfl, rfl⟩ := Prod.mk.inj (isPair.symm.trans (isSign.split yearWritten))
  have isRead : (⟨factorRead * (date.year.natAbs : Int), date.month, date.day⟩ : Date) = date := by
    rw [isProduct]
  simp only [yearEnds, List.drop_left, yearWritten.digitsValue?, List.drop_succ_cons,
    List.drop_zero, List.take_succ_cons, List.take_zero, monthRead, dayRead, hourRead, minuteRead,
    secondRead, Option.bind_eq_bind, Option.bind_some, isRead, isDate, isTime]
  rcases isTail with ⟨rfl, rfl⟩ | ⟨digits, rfl, isDigits, isFraction⟩
  · have noFraction : fractionNanos? [] = some 0 := rfl
    simp [inDay, zoneOffset?, noFraction, ofSeconds]
  · have fractionEnds : (digits ++ ['Z']).takeWhile Char.isDigit = digits := by
      rw [List.takeWhile_append_of_pos isDigits]
      simp
    have zoneBegins : (digits ++ ['Z']).dropWhile Char.isDigit = ['Z'] := by
      rw [List.dropWhile_append_of_pos isDigits]
      simp
    simp [inDay, fractionEnds, zoneBegins, isFraction, zoneOffset?, ofSeconds]

/-- Whatever point in time is written, reading the text gives it back. -/
theorem parse?_render (instant : Instant) : parse? instant.render = some instant := by
  have isTail : instant.renderFraction.toList = [] ∧ instant.subsecond.toNat = 0 ∨
      ∃ digits, instant.renderFraction.toList = '.' :: digits ∧
        (∀ digit ∈ digits, digit.isDigit) ∧
        fractionNanos? digits = some instant.subsecond.toNat := by
    rcases renderFraction_eq instant with ⟨isNone, isZero⟩ | written
    · exact .inl ⟨by rw [isNone]; rfl, by rw [isZero]; rfl⟩
    · exact .inr written
  have isText : instant.render.toList =
      instant.renderSeconds.toList ++ (instant.renderFraction.toList ++ ['Z']) := by
    simp [render]
  have isWhole : (instant.seconds / 86400 * 86400 + (instant.seconds % 86400).toNat) *
      nanosPerSecond + instant.subsecond.toNat = instant.nanos := by
    unfold seconds subsecond nanosPerSecond
    omega
  rw [parse?_of_spelling (spelling_renderSeconds instant) isTail isText, Date.toDays_ofDays,
    isWhole]

end Instant

end Countinghouse
