import Countinghouse.Json.Number
import Countinghouse.Json.Value
import Countinghouse.Proofs.Text.Utf8
import Mathlib.Tactic.IntervalCases

/-!
# What a reader makes of bytes

`Reader.Reads` says what a reader answers and what it leaves, whatever the line and column it
stands at. One rule for each way to build a reader follows, so that what a reader makes of a
text can be followed from token to token.

The tokens that a JSON value is written with are then read one by one: a text in quotes, with
its escapes, and a whole number.
-/

namespace Countinghouse

namespace Reader

variable {α β : Type}

/-- From these bytes on the reader answers the value and leaves the rest. -/
def Reads (reader : Reader α) (bytes : List UInt8) (value : α) (rest : List UInt8) : Prop :=
  ∀ cursor : Cursor, cursor.rest = bytes →
    ∃ left : Cursor, reader.run cursor = (.ok value, left) ∧ left.rest = rest

theorem reads_pure (value : α) (bytes : List UInt8) : Reads (pure value) bytes value bytes :=
  fun cursor atBytes => ⟨cursor, rfl, atBytes⟩

/-- One reader after another. -/
theorem Reads.bind {reader : Reader α} {next : α → Reader β} {bytes between rest : List UInt8}
    {middle : α} {value : β} (first : reader.Reads bytes middle between)
    (second : (next middle).Reads between value rest) :
    Reads (reader >>= next) bytes value rest := by
  intro cursor atBytes
  obtain ⟨halfway, ran, atBetween⟩ := first cursor atBytes
  obtain ⟨left, ranOn, atRest⟩ := second halfway atBetween
  refine ⟨left, ?_, atRest⟩
  change ExceptT.bindCont next (reader.run cursor).1 (reader.run cursor).2 = _
  rw [ran]
  exact ranOn

theorem reads_modify {change : Cursor → Cursor} {bytes rest : List UInt8}
    (leaves : ∀ cursor : Cursor, cursor.rest = bytes → (change cursor).rest = rest) :
    Reads (modify change) bytes () rest :=
  fun cursor atBytes => ⟨change cursor, rfl, leaves cursor atBytes⟩

theorem reads_step (byte : UInt8) (rest : List UInt8) : Reads step (byte :: rest) () rest :=
  reads_modify fun cursor atBytes => by rw [Cursor.rest_step, atBytes]; rfl

theorem reads_next? (bytes : List UInt8) :
    Reads next? bytes (bytes.head?.map fun byte => Char.ofNat byte.toNat) bytes :=
  fun cursor atBytes => ⟨cursor, by rw [← atBytes]; rfl, atBytes⟩

theorem reads_nextOrEnd (bytes : List UInt8) :
    Reads nextOrEnd bytes ((bytes.head?.map fun byte => Char.ofNat byte.toNat).getD '\x00') bytes :=
  fun cursor atBytes => ⟨cursor, by rw [← atBytes]; rfl, atBytes⟩

/-- A token that is not preceded by blanks is at hand. -/
theorem reads_nextToken? {byte : UInt8} (notBlank : Cursor.isBlank byte = false)
    (rest : List UInt8) :
    Reads nextToken? (byte :: rest) (some (Char.ofNat byte.toNat)) (byte :: rest) := by
  refine Reads.bind (reads_modify fun cursor atBytes => ?_) (reads_next? (byte :: rest))
  have notLine : byte ≠ 10 := by
    rintro rfl
    cases notBlank
  rw [Cursor.afterBlanks, atBytes, Cursor.afterBlanks.from', if_neg notLine, notBlank]
  rfl

/-- Nothing is left. -/
theorem reads_finish : Reads finish [] () [] := by
  have atEnd : Reads nextToken? [] none [] :=
    Reads.bind (reads_modify fun cursor atBytes => by rw [Cursor.afterBlanks, atBytes]; rfl)
      (reads_next? [])
  exact atEnd.bind (reads_pure () [])

/-- A text that is read up to its end. -/
theorem Reads.readAll {reader : Reader α} {bytes : List UInt8} {value : α}
    (reads : reader.Reads bytes value []) : readAll reader bytes = .ok value := by
  have whole : Reads (reader >>= fun value => finish >>= fun _ => pure value) bytes value [] :=
    reads.bind (reads_finish.bind (reads_pure value []))
  obtain ⟨left, ran, -⟩ := whole (.start bytes) rfl
  exact congrArg Prod.fst ran

/-- The digits at hand are read up to the first byte that is none. -/
theorem reads_digits {digits rest : List UInt8}
    (areDigits : ∀ byte ∈ digits, (48 ≤ byte && byte ≤ 57) = true)
    (noDigit : ∀ byte ∈ rest.head?, (48 ≤ byte && byte ≤ 57) = false) :
    Reads Reader.digits (digits ++ rest) (digits.map fun byte => byte.toNat - 48) rest := by
  intro cursor atBytes
  have taken : (digits ++ rest).takeWhile (fun byte => 48 ≤ byte && byte ≤ 57) = digits := by
    rw [List.takeWhile_append_of_pos areDigits]
    cases rest with
    | nil => simp
    | cons byte rest => simp [noDigit byte rfl]
  have found : cursor.digits = digits.map fun byte => byte.toNat - 48 := by
    rw [Cursor.digits, atBytes, taken]
  refine ⟨cursor.skip cursor.digits.length, ?_, ?_⟩
  · rw [← found]
    rfl
  · rw [Cursor.rest_skip, atBytes, found, List.length_map, List.drop_left]

/-! ## Texts -/

theorem textFrom_cons {strict : Bool} {cursor : Cursor} {reversed : Option (List UInt8)}
    {byte : UInt8} {rest : List UInt8} (atBytes : cursor.rest = byte :: rest) :
    textFrom strict cursor reversed =
      if byte = 34 then (.ok (reversed.map List.reverse), cursor.step)
      else if byte = 92 then
        match escape strict rest with
        | .error (cause, count) =>
          let after := cursor.skip (count + 1)
          (.error ⟨cause, some (after.line, after.column), none⟩, after)
        | .ok escaped =>
          let longer := do return (← escaped.bytes).reverse ++ (← reversed)
          textFrom strict (cursor.skip (escaped.length + 1)) longer
      else if byte < 32 then
        let after := if strict then cursor.step else cursor
        (.error ⟨.controlCharacter, some (after.line, after.column), none⟩, after)
      else textFrom strict cursor.step (reversed.map (byte :: ·)) := by
  rw [textFrom]
  split
  · simp_all
  · next found =>
      obtain ⟨rfl, rfl⟩ := List.cons.inj (atBytes.symm.trans found)
      rfl

/-- Bytes that stand for themselves are taken as they are. -/
theorem textFrom_plain {strict : Bool} {plain rest : List UInt8}
    (isPlain : ∀ byte ∈ plain, byte ≠ 34 ∧ byte ≠ 92 ∧ ¬byte < 32) {cursor : Cursor}
    (reversed : List UInt8) (atBytes : cursor.rest = plain ++ rest) :
    ∃ left : Cursor, left.rest = rest ∧ textFrom strict cursor (some reversed) =
      textFrom strict left (some (plain.reverse ++ reversed)) := by
  induction plain generalizing cursor reversed with
  | nil => exact ⟨cursor, atBytes, rfl⟩
  | cons byte plain inductionHypothesis =>
      obtain ⟨notQuote, notEscape, notControl⟩ := isPlain byte List.mem_cons_self
      have atNext : cursor.step.rest = plain ++ rest := by
        rw [Cursor.rest_step, atBytes]
        rfl
      have othersArePlain := fun other member =>
        isPlain other (List.mem_cons_of_mem byte member)
      obtain ⟨left, atRest, same⟩ := inductionHypothesis othersArePlain (byte :: reversed) atNext
      refine ⟨left, atRest, ?_⟩
      rw [textFrom_cons atBytes, if_neg notQuote, if_neg notEscape, if_neg notControl,
        Option.map_some, same, List.reverse_cons, List.append_assoc, List.singleton_append]

/-- An escape is taken for the bytes that it stands for. -/
theorem textFrom_escape {strict : Bool} {letters bytes rest : List UInt8}
    (stands : escape strict (letters ++ rest) = .ok ⟨some bytes, letters.length⟩) {cursor : Cursor}
    (reversed : List UInt8) (atBytes : cursor.rest = 92 :: (letters ++ rest)) :
    ∃ left : Cursor, left.rest = rest ∧ textFrom strict cursor (some reversed) =
      textFrom strict left (some (bytes.reverse ++ reversed)) := by
  refine ⟨cursor.skip (letters.length + 1), ?_, ?_⟩
  · rw [Cursor.rest_skip, atBytes, List.drop_succ_cons, List.drop_left]
  · rw [textFrom_cons atBytes, if_neg (by decide), if_pos rfl, stands]
    rfl

/-- A control character is written as an escape, and the escape stands for it. -/
theorem escape_control (strict : Bool) {code : Nat} (isControl : code < 32) :
    ∃ letters, Utf8.bytes (Json.escapeChar (Char.ofNat code)) = 92 :: letters ∧
      ∀ more, escape strict (letters ++ more) =
        .ok ⟨some (String.utf8EncodeChar (Char.ofNat code)), letters.length⟩ := by
  interval_cases code <;> exact ⟨_, rfl, fun _ => rfl⟩

/-- A character that is not escaped has only bytes that stand for themselves. -/
theorem plain_utf8EncodeChar {character : Char} (isQuote : character ≠ '"')
    (isEscape : character ≠ '\\') (isControl : ¬character.toNat < 32) :
    ∀ byte ∈ String.utf8EncodeChar character, byte ≠ 34 ∧ byte ≠ 92 ∧ ¬byte < 32 := by
  intro byte member
  rcases Utf8.utf8EncodeChar_cases character with ⟨isAscii, isByte⟩ | isOutside
  · rw [isByte, List.mem_singleton] at member
    have isCode : byte.toNat = character.toNat := by
      rw [member, UInt8.toNat_ofNat', Nat.mod_eq_of_lt (by omega)]
    refine ⟨?_, ?_, ?_⟩
    · rintro rfl
      exact isQuote (Char.toNat_inj.mp isCode.symm)
    · rintro rfl
      exact isEscape (Char.toNat_inj.mp isCode.symm)
    · rw [UInt8.lt_iff_toNat_lt, isCode]
      exact isControl
  · have least := UInt8.le_iff_toNat_le.mp (isOutside byte member)
    refine ⟨?_, ?_, ?_⟩
    · rintro rfl
      exact absurd least (by decide)
    · rintro rfl
      exact absurd least (by decide)
    · rw [UInt8.lt_iff_toNat_lt]
      exact fun isLess => absurd (least.trans_lt isLess) (by decide)

/-- A character as it is written in a text is read as itself. -/
theorem textFrom_escapeChar {strict : Bool} (character : Char) {rest : List UInt8}
    {cursor : Cursor} (reversed : List UInt8)
    (atBytes : cursor.rest = Utf8.bytes (Json.escapeChar character) ++ rest) :
    ∃ left : Cursor, left.rest = rest ∧ textFrom strict cursor (some reversed) =
      textFrom strict left (some ((String.utf8EncodeChar character).reverse ++ reversed)) := by
  by_cases isQuote : character = '"'
  · subst isQuote
    have letters : Utf8.bytes (Json.escapeChar '"') = 92 :: [34] := rfl
    rw [letters] at atBytes
    exact textFrom_escape rfl reversed atBytes
  by_cases isEscape : character = '\\'
  · subst isEscape
    have letters : Utf8.bytes (Json.escapeChar '\\') = 92 :: [92] := rfl
    rw [letters] at atBytes
    exact textFrom_escape rfl reversed atBytes
  by_cases isControl : character.toNat < 32
  · obtain ⟨letters, isLetters, stands⟩ := escape_control strict isControl
    rw [Char.ofNat_toNat] at isLetters stands
    rw [isLetters] at atBytes
    exact textFrom_escape (stands rest) reversed atBytes
  have unescaped : Json.escapeChar character = [character] := by
    have different {other : Char} (low : other.toNat < 32) : character ≠ other :=
      fun same => isControl (same ▸ low)
    unfold Json.escapeChar
    rw [if_neg isQuote, if_neg isEscape, if_neg (different (by decide)),
      if_neg (different (by decide)), if_neg (different (by decide)), if_neg (by omega),
      if_neg (by omega), if_neg isControl]
  rw [unescaped, Utf8.bytes, List.flatMap_singleton] at atBytes
  refine textFrom_plain (plain_utf8EncodeChar isQuote isEscape isControl) reversed atBytes

/-- A text that was written in quotes is read as it is, after its opening quote. -/
theorem textFrom_quote {strict : Bool} (characters : List Char) {rest : List UInt8}
    {cursor : Cursor} (reversed : List UInt8)
    (atBytes : cursor.rest = Utf8.bytes (characters.flatMap Json.escapeChar) ++ 34 :: rest) :
    ∃ left : Cursor, left.rest = rest ∧ textFrom strict cursor (some reversed) =
      (.ok (some (reversed.reverse ++ Utf8.bytes characters)), left) := by
  induction characters generalizing cursor reversed with
  | nil =>
      have atEnd : cursor.rest = 34 :: rest := atBytes
      refine ⟨cursor.step, by rw [Cursor.rest_step, atEnd]; rfl, ?_⟩
      rw [textFrom_cons atEnd, if_pos rfl]
      simp [Utf8.bytes]
  | cons character others inductionHypothesis =>
      have atFirst : cursor.rest = Utf8.bytes (Json.escapeChar character) ++
          (Utf8.bytes (others.flatMap Json.escapeChar) ++ 34 :: rest) := by
        rw [atBytes]
        simp [Utf8.bytes]
      obtain ⟨next, atNext, same⟩ := textFrom_escapeChar character reversed atFirst
      obtain ⟨left, atRest, ends⟩ := inductionHypothesis _ atNext
      refine ⟨left, atRest, ?_⟩
      rw [same, ends]
      simp [Utf8.bytes]

theorem reads_anyText (value : String) (rest : List UInt8) :
    Reads anyText (Utf8.bytes (value.toList.flatMap Json.escapeChar) ++ 34 :: rest) (some value)
      rest := by
  have isText : Reads (ExceptT.mk fun cursor => textFrom false cursor (some []))
      (Utf8.bytes (value.toList.flatMap Json.escapeChar) ++ 34 :: rest)
      (some (Utf8.bytes value.toList)) rest := by
    intro cursor atBytes
    obtain ⟨left, atRest, ends⟩ := textFrom_quote value.toList [] atBytes
    exact ⟨left, ends, atRest⟩
  have isDecoded : (some (Utf8.bytes value.toList)).bind Utf8.decode? = some value := by
    rw [Option.bind_some, Utf8.decode?_bytes, String.ofList_toList]
  exact isText.bind (isDecoded ▸ reads_pure _ rest)

end Reader

end Countinghouse
