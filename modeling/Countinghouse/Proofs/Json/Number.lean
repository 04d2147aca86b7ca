import Countinghouse.Proofs.Json.Reading

/-!
# Whole numbers are read as they were written

The digits of a number are gathered without loss while the number fits into 64 bits, and a
number that is not zero does not begin with one.
-/

namespace Countinghouse

namespace JsonNumber

theorem le_foldl (digits : List Nat) (value : Nat) :
    value ≤ digits.foldl (fun value digit => value * 10 + digit) value := by
  induction digits generalizing value with
  | nil => exact le_rfl
  | cons digit rest inductionHypothesis =>
      have grows : value ≤ value * 10 + digit := by omega
      exact grows.trans (inductionHypothesis _)

/-- No digit is dropped from a number that fits. -/
theorem gather_eq (digits : List Nat) (value : Nat)
    (fits : digits.foldl (fun value digit => value * 10 + digit) value ≤ greatest) :
    gather digits value = ⟨digits.foldl (fun value digit => value * 10 + digit) value, 0⟩ := by
  induction digits generalizing value with
  | nil => rfl
  | cons digit rest inductionHypothesis =>
      have first : value * 10 + digit ≤ greatest := (le_foldl rest _).trans fits
      rw [gather, if_pos first, inductionHypothesis _ fits]
      rfl

theorem gather_toDigits {value : Nat} (fits : value ≤ greatest) :
    gather ((Nat.toDigits 10 value).map fun digit => digit.toNat - 48) 0 = ⟨value, 0⟩ := by
  have isValue : ((Nat.toDigits 10 value).map fun digit => digit.toNat - 48).foldl
      (fun value digit => value * 10 + digit) 0 = value := by
    have read : Nat.ofDigitChars 10 (Nat.toDigits 10 value) 0 = value :=
      Nat.ofDigitChars_toDigits (by decide) (by decide)
    rw [List.foldl_map]
    simp only [Nat.mul_comm _ 10]
    exact read
  rw [gather_eq _ _ (isValue.symm ▸ fits), isValue]

end JsonNumber

namespace Reader

/-- A number that is not zero does not begin with one. -/
theorem toDigits_cons {value : Nat} (positive : 0 < value) :
    ∃ first rest, Nat.toDigits 10 value = first :: rest ∧ first ≠ '0' := by
  induction value using Nat.strongRecOn with
  | ind value inductionHypothesis =>
      by_cases isDigit : value < 10
      · rw [Nat.toDigits_of_lt_base isDigit]
        refine ⟨_, [], rfl, ?_⟩
        interval_cases value <;> decide
      · obtain ⟨first, rest, isFirst, notZero⟩ :=
          inductionHypothesis (value / 10) (by omega) (by omega)
        rw [Nat.toDigits_of_base_le (by decide) (by omega), isFirst]
        exact ⟨first, _, rfl, notZero⟩

/-- Nothing follows, or a character that ends a value. -/
def Delimited (rest : List UInt8) : Prop :=
  rest = [] ∨ ∃ byte more, rest = byte :: more ∧ (byte = 44 ∨ byte = 93 ∨ byte = 125)

theorem Delimited.head_cases {rest : List UInt8} (delimited : Delimited rest) :
    ∀ byte ∈ rest.head?, byte = 44 ∨ byte = 93 ∨ byte = 125 := by
  rcases delimited with rfl | ⟨byte, more, rfl, isEnd⟩
  · simp
  · simpa using isEnd

theorem toNat_digit {value : Nat} {digit : Char} (member : digit ∈ Nat.toDigits 10 value) :
    48 ≤ digit.toNat ∧ digit.toNat ≤ 57 := by
  have isDigit := Nat.isDigit_of_mem_toDigits (by decide) (by decide) member
  simpa [Char.isDigit, UInt32.le_iff_toNat_le] using isDigit

/-- The digits of a number are read up to its end. -/
theorem reads_toDigits (value : Nat) {rest : List UInt8} (delimited : Delimited rest) :
    Reads Reader.digits (Utf8.bytes (Nat.toDigits 10 value) ++ rest)
      ((Nat.toDigits 10 value).map fun digit => digit.toNat - 48) rest := by
  have isByte (digit : Char) (member : digit ∈ Nat.toDigits 10 value) :
      (UInt8.ofNat digit.toNat).toNat = digit.toNat := by
    have := toNat_digit member
    rw [UInt8.toNat_ofNat', Nat.mod_eq_of_lt (by omega)]
  rw [Utf8.bytes_of_isAscii fun digit member => by have := toNat_digit member; omega]
  have isValue : ((Nat.toDigits 10 value).map fun digit => digit.toNat - 48) =
      ((Nat.toDigits 10 value).map fun digit => UInt8.ofNat digit.toNat).map
        fun byte => byte.toNat - 48 := by
    rw [List.map_map]
    exact List.map_congr_left fun digit member => by rw [Function.comp_apply, isByte digit member]
  rw [isValue]
  refine reads_digits ?_ ?_
  · intro byte member
    obtain ⟨digit, isDigit, rfl⟩ := List.mem_map.mp member
    have := toNat_digit isDigit
    simp only [Bool.and_eq_true, decide_eq_true_eq, UInt8.le_iff_toNat_le, isByte digit isDigit]
    exact this
  · intro byte isHead
    rcases delimited.head_cases byte isHead with rfl | rfl | rfl <;> rfl

/-- The first digit of a number is at hand. -/
theorem nextOrEnd_toDigits {value : Nat} {first : Char} {others : List Char}
    (isDigits : Nat.toDigits 10 value = first :: others) (rest : List UInt8) :
    Reads nextOrEnd (Utf8.bytes (Nat.toDigits 10 value) ++ rest) first
      (Utf8.bytes (Nat.toDigits 10 value) ++ rest) := by
  have bounds := toNat_digit (isDigits ▸ List.mem_cons_self : first ∈ Nat.toDigits 10 value)
  have atFirst : ((Utf8.bytes (Nat.toDigits 10 value) ++ rest).head?.map
      fun byte => Char.ofNat byte.toNat).getD '\x00' = first := by
    have isAscii : first.toNat < 128 := by omega
    rw [isDigits, Utf8.bytes_cons_of_isAscii isAscii, List.cons_append, List.head?_cons,
      Option.map_some, Option.getD_some, Utf8.ofNat_byte isAscii]
  exact atFirst ▸ reads_nextOrEnd _

/-- What follows the digits of a whole number is not a part of it. -/
theorem reads_rest (isPositive : Bool) (whole : List Nat) {rest : List UInt8}
    (delimited : Delimited rest) :
    Reads (anyUnsigned.rest isPositive whole) rest
      (anyUnsigned.integer? isPositive (JsonNumber.gather whole 0)) rest := by
  refine (reads_nextOrEnd rest).bind ?_
  rcases delimited with rfl | ⟨byte, more, rfl, rfl | rfl | rfl⟩ <;> exact reads_pure _ _

/-- The digits of a number are read as the number. -/
theorem reads_anyUnsigned (isPositive : Bool) {value : Nat} (fits : value ≤ JsonNumber.greatest)
    {rest : List UInt8} (delimited : Delimited rest) :
    Reads (anyUnsigned isPositive) (Utf8.bytes (Nat.toDigits 10 value) ++ rest)
      (anyUnsigned.integer? isPositive ⟨value, 0⟩) rest := by
  rcases Nat.eq_zero_or_pos value with rfl | positive
  · have isZero : Utf8.bytes (Nat.toDigits 10 0) ++ rest = 48 :: rest := rfl
    rw [isZero]
    refine (reads_nextOrEnd _).bind ((reads_step 48 rest).bind ((reads_nextOrEnd rest).bind ?_))
    rcases delimited with rfl | ⟨byte, more, rfl, rfl | rfl | rfl⟩
    · exact reads_rest isPositive [0] (.inl rfl)
    all_goals exact reads_rest isPositive [0] (.inr ⟨_, more, rfl, by simp⟩)
  · obtain ⟨first, others, isDigits, notZero⟩ := toDigits_cons positive
    have isDigit : first.isDigit := Nat.isDigit_of_mem_toDigits (by decide) (by decide)
      (isDigits ▸ List.mem_cons_self : first ∈ Nat.toDigits 10 value)
    have atRest := reads_rest isPositive
      ((Nat.toDigits 10 value).map fun digit => digit.toNat - 48) delimited
    rw [JsonNumber.gather_toDigits fits] at atRest
    refine (nextOrEnd_toDigits isDigits rest).bind ?_
    simp only [isDigit, notZero, Bool.not_true, Bool.false_eq_true, if_false]
    exact (reads_toDigits value delimited).bind atRest

theorem toList_toString_ofNat (number : Nat) :
    (toString (Int.ofNat number)).toList = Nat.toDigits 10 number :=
  Nat.toList_repr

theorem toList_toString_negSucc (number : Nat) :
    (toString (Int.negSucc number)).toList = '-' :: Nat.toDigits 10 (number + 1) := by
  change ("-" ++ (number + 1).repr).toList = _
  rw [String.toList_append, Nat.toList_repr]
  rfl

/-- A number begins with its sign or with a digit. -/
theorem toString_cons (value : Int) : ∃ first others,
    (toString value).toList = first :: others ∧ (first = '-' ∨ first.isDigit) := by
  cases value with
  | ofNat number =>
      obtain ⟨first, others, isCons⟩ := List.exists_cons_of_ne_nil (@Nat.toDigits_ne_nil number 10)
      refine ⟨first, others, (toList_toString_ofNat number).trans isCons, .inr ?_⟩
      exact Nat.isDigit_of_mem_toDigits (by decide) (by decide) (isCons ▸ List.mem_cons_self)
  | negSucc number => exact ⟨'-', _, toList_toString_negSucc number, .inl rfl⟩

/-- The integers that fit into 64 bits, with a sign or without. -/
def FitsNumber (value : Int) : Prop :=
  -9223372036854775808 ≤ value ∧ value ≤ 18446744073709551615

/-- A whole number is read as it is. -/
theorem reads_anyNumber {value : Int} (fits : FitsNumber value) {rest : List UInt8}
    (delimited : Delimited rest) :
    Reads anyNumber (Utf8.bytes (toString value).toList ++ rest) (some value) rest := by
  obtain ⟨least, greatest⟩ := fits
  cases value with
  | ofNat number =>
      obtain ⟨first, others, isCons⟩ := List.exists_cons_of_ne_nil (@Nat.toDigits_ne_nil number 10)
      have notSign : first ≠ '-' := by
        have bounds := toNat_digit (isCons ▸ List.mem_cons_self : first ∈ Nat.toDigits 10 number)
        rintro rfl
        exact absurd bounds.1 (by decide)
      have isNumber : number ≤ JsonNumber.greatest := Int.ofNat_le.mp greatest
      rw [toList_toString_ofNat]
      refine (nextOrEnd_toDigits isCons rest).bind ?_
      rw [if_neg notSign]
      exact reads_anyUnsigned true isNumber delimited
  | negSucc number =>
      have atSign : Utf8.bytes ('-' :: Nat.toDigits 10 (number + 1)) ++ rest =
          45 :: (Utf8.bytes (Nat.toDigits 10 (number + 1)) ++ rest) := rfl
      have isNumber : number + 1 ≤ JsonNumber.greatest := by
        unfold JsonNumber.greatest
        omega
      have isValue : anyUnsigned.integer? false ⟨number + 1, 0⟩ = some (Int.negSucc number) := by
        have notFraction : ¬(number + 1 = 0 ∨ 9223372036854775808 < number + 1) := by omega
        simp only [anyUnsigned.integer?, JsonNumber.whole, notFraction, if_false,
          Bool.false_eq_true, ne_eq, not_true_eq_false]
        rfl
      rw [toList_toString_negSucc, atSign]
      refine (reads_nextOrEnd _).bind ((reads_step 45 _).bind ?_)
      rw [← isValue]
      exact reads_anyUnsigned false isNumber delimited

end Reader

end Countinghouse
