import Countinghouse.Uuid
import Mathlib.Algebra.Group.Nat.Defs

/-!
# Identifiers are read as they were written

Hexadecimal digits are read as the number that they were written for. No digit is a hyphen, so
the hyphens of the usual form are told from the digits between them.
-/

namespace Countinghouse

namespace Hex

theorem value?_digit : ∀ value < 16, value? (digit value) = some value := by decide

theorem digit_ne_hyphen : ∀ value < 16, digit value ≠ '-' := by decide

@[simp] theorem length_digits (count value : Nat) : (digits count value).length = count := by
  induction count generalizing value with
  | zero => rfl
  | succ count inductionHypothesis => simp [digits, inductionHypothesis]

/-- The last digits of a number are read as what it leaves when those before are dropped. -/
theorem read?_digits (count value : Nat) :
    read? (digits count value) = some (value % 16 ^ count) := by
  induction count generalizing value with
  | zero => simp [digits, read?, Nat.mod_one]
  | succ count inductionHypothesis =>
      have earlier := inductionHypothesis (value / 16)
      unfold read? at earlier ⊢
      rw [digits, List.foldlM_append, earlier]
      simp only [List.foldlM_cons, List.foldlM_nil, Option.bind_eq_bind, Option.bind_some,
        value?_digit (value % 16) (Nat.mod_lt _ (by decide)), Option.map_some]
      rw [Nat.pow_succ, Nat.mul_comm (16 ^ count) 16, Nat.mod_mul]
      congr 1
      omega

theorem hyphen_not_mem_digits (count value : Nat) : '-' ∉ digits count value := by
  induction count generalizing value with
  | zero => simp [digits]
  | succ count inductionHypothesis =>
      rw [digits, List.mem_append, List.mem_singleton]
      rintro (inEarlier | isLast)
      · exact inductionHypothesis _ inEarlier
      · exact digit_ne_hyphen _ (Nat.mod_lt _ (by decide)) isLast.symm

end Hex

namespace Uuid

theorem readSimple?_digits (id : Uuid) : readSimple? id.digits = some id := by
  unfold readSimple? digits
  rw [if_pos (Hex.length_digits 32 _), Hex.read?_digits, Option.map_some]
  have isBits : BitVec.ofNat 128 (id.bits.toNat % 16 ^ 32) = id.bits := by
    have inRange : id.bits.toNat < 16 ^ 32 := id.bits.isLt
    rw [Nat.mod_eq_of_lt inRange, BitVec.ofNat_toNat, BitVec.setWidth_eq]
  rw [isBits]

/-- Without its hyphens the usual form is the digits. -/
theorem filter_hyphenate {digits : List Char} (noHyphen : '-' ∉ digits) :
    (hyphenate digits).filter (· ≠ '-') = digits := by
  have kept (part : List Char) (inDigits : part ⊆ digits) : part.filter (· ≠ '-') = part := by
    refine List.filter_eq_self.mpr fun character member => decide_eq_true fun isHyphen => ?_
    exact noHyphen (isHyphen ▸ inDigits member)
  have passed (rest : List Char) : ('-' :: rest).filter (· ≠ '-') = rest.filter (· ≠ '-') := rfl
  have middle (start count : Nat) : ((digits.drop start).take count).filter (· ≠ '-') =
      (digits.drop start).take count :=
    kept _ fun _ member => List.mem_of_mem_drop (List.mem_of_mem_take member)
  have joined (start count : Nat) :
      (digits.drop start).take count ++ digits.drop (start + count) = digits.drop start := by
    rw [← List.drop_drop, List.take_append_drop]
  unfold hyphenate
  simp only [List.cons_append, List.append_assoc, List.filter_append, passed, middle]
  rw [kept _ fun _ member => List.mem_of_mem_take member,
    kept _ fun _ member => List.mem_of_mem_drop member]
  rw [joined 16 4, joined 12 4, joined 8 4, List.take_append_drop]

/-- The hyphens of the usual form are in their places and nowhere else. -/
theorem readHyphenated?_hyphenate {digits : List Char} (isLength : digits.length = 32)
    (noHyphen : '-' ∉ digits) : readHyphenated? (hyphenate digits) = readSimple? digits := by
  have isWhole : (hyphenate digits).length = 36 := by simp [hyphenate, isLength]
  unfold readHyphenated?
  rw [if_pos ⟨isWhole, by simp [hyphenate, List.getElem?_append, isLength]⟩,
    filter_hyphenate noHyphen]

/-- An identifier is read back from its written form. -/
theorem parse?_render (id : Uuid) : parse? id.render = some id := by
  have isLength : id.digits.length = 32 := Hex.length_digits 32 _
  have isWhole : (hyphenate id.digits).length = 36 := by simp [hyphenate, isLength]
  unfold parse? render
  dsimp only
  rw [String.toList_ofList, if_neg (by omega), if_pos isWhole,
    readHyphenated?_hyphenate isLength (Hex.hyphen_not_mem_digits 32 _), readSimple?_digits]

end Uuid

end Countinghouse
