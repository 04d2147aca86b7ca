import Countinghouse.Token.Base64

/-!
# Base64 is read as it was written

And it is read only so: a text that can be read is the one that its bytes are written as.
Between bytes and characters lie the `Base64.sextets`, the six bits of each character. That
they are read back is arithmetic, and does not depend on the alphabet. An alphabet only has to
tell its characters apart, which is `Alphabet.IsProper`.
-/

namespace Countinghouse.Base64

/-- The six bits of each character that encodes a list of bytes. -/
def sextets : List UInt8 → List Nat
  | first :: second :: third :: rest =>
    let group := first.toNat * 65536 + second.toNat * 256 + third.toNat
    group / 262144 :: group / 4096 % 64 :: group / 64 % 64 :: group % 64 :: sextets rest
  | [first, second] =>
    let group := first.toNat * 256 + second.toNat
    [group / 1024, group / 16 % 64, group % 16 * 4]
  | [first] => [first.toNat / 4, first.toNat % 4 * 16]
  | [] => []

theorem sextets_lt (bytes : List UInt8) : ∀ sextet ∈ sextets bytes, sextet < 64 := by
  fun_induction sextets bytes with
  | case1 first second third rest group inductionHypothesis =>
      have isFirst := first.toNat_lt
      have isSecond := second.toNat_lt
      have isThird := third.toNat_lt
      intro sextet member
      simp only [List.mem_cons] at member
      rcases member with rfl | rfl | rfl | rfl | inRest
      · omega
      · omega
      · omega
      · omega
      · exact inductionHypothesis sextet inRest
  | case2 first second group =>
      have isFirst := first.toNat_lt
      have isSecond := second.toNat_lt
      simp only [List.mem_cons, List.not_mem_nil, or_false]
      omega
  | case3 first =>
      have isFirst := first.toNat_lt
      simp only [List.mem_cons, List.not_mem_nil, or_false]
      omega
  | case4 => simp

/-- What the bits of a byte are put together to is the byte. -/
theorem ofNat_eq {number : Nat} {byte : UInt8} (same : number = byte.toNat) :
    UInt8.ofNat number = byte := by
  rw [same, UInt8.ofNat_toNat]

theorem bytesOfSextets?_sextets (bytes : List UInt8) :
    bytesOfSextets? (sextets bytes) = some bytes := by
  fun_induction sextets bytes with
  | case1 first second third rest group inductionHypothesis =>
      have isFirst := first.toNat_lt
      have isSecond := second.toNat_lt
      have isThird := third.toNat_lt
      simp only [bytesOfSextets?, inductionHypothesis, Option.map_some]
      rw [@ofNat_eq _ first (by omega), @ofNat_eq _ second (by omega), @ofNat_eq _ third (by omega)]
  | case2 first second group =>
      have isFirst := first.toNat_lt
      have isSecond := second.toNat_lt
      simp only [bytesOfSextets?]
      rw [if_pos (by omega), @ofNat_eq _ first (by omega), @ofNat_eq _ second (by omega)]
  | case3 first =>
      have isFirst := first.toNat_lt
      simp only [bytesOfSextets?]
      rw [if_pos (by omega), @ofNat_eq _ first (by omega)]
  | case4 => rfl

/-- Bytes that are put together from sextets are the ones that the sextets are taken from. -/
theorem sextets_of_bytesOfSextets? {numbers : List Nat} {bytes : List UInt8}
    (small : ∀ number ∈ numbers, number < 64) (read : bytesOfSextets? numbers = some bytes) :
    sextets bytes = numbers := by
  fun_induction bytesOfSextets? numbers generalizing bytes with
  | case1 first second third fourth rest group =>
      rename_i inductionHypothesis
      obtain ⟨others, readRest, rfl⟩ := Option.map_eq_some_iff.mp read
      simp only [List.mem_cons, forall_eq_or_imp] at small
      obtain ⟨isFirst, isSecond, isThird, isFourth, areSmall⟩ := small
      simp only [sextets, inductionHypothesis areSmall readRest, UInt8.toNat_ofNat',
        List.cons.injEq, and_true, group]
      omega
  | case2 first second third group =>
      obtain rfl := Option.some.inj read
      simp only [List.mem_cons, List.not_mem_nil, or_false, forall_eq_or_imp, forall_eq] at small
      simp only [sextets, UInt8.toNat_ofNat', List.cons.injEq, and_true]
      omega
  | case4 first second group =>
      obtain rfl := Option.some.inj read
      simp only [List.mem_cons, List.not_mem_nil, or_false, forall_eq_or_imp, forall_eq] at small
      simp only [sextets, UInt8.toNat_ofNat', List.cons.injEq, and_true]
      omega
  | case3 | case5 | case6 => cases read
  | case7 =>
      obtain rfl := Option.some.inj read
      rfl

/-- Every character of an alphabet is read as the six bits that it is written for. -/
def Alphabet.IsProper (alphabet : Alphabet) : Prop :=
  ∀ sextet < 64, alphabet.sextet? (alphabet.character sextet) = some sextet

theorem url_isProper : url.IsProper := by
  unfold Alphabet.IsProper
  decide

/-- A character that stands for six bits is the character for them. -/
theorem Alphabet.character_of_sextet? {alphabet : Alphabet} {character : Char} {sextet : Nat}
    (stands : alphabet.sextet? character = some sextet) :
    sextet < 64 ∧ alphabet.character sextet = character := by
  have between {low high : Char} (inRange : low ≤ character ∧ character ≤ high) :
      low.toNat ≤ character.toNat ∧ character.toNat ≤ high.toNat := inRange
  have upper : 'A'.toNat = 65 ∧ 'Z'.toNat = 90 := by decide
  have lower : 'a'.toNat = 97 ∧ 'z'.toNat = 122 := by decide
  have digits : '0'.toNat = 48 ∧ '9'.toNat = 57 := by decide
  unfold Alphabet.sextet? at stands
  unfold Alphabet.character
  split at stands
  · next inRange =>
      obtain rfl := Option.some.inj stands
      have bounds := between inRange
      rw [if_pos (by omega), Nat.add_sub_cancel' (by omega), Char.ofNat_toNat]
      exact ⟨by omega, rfl⟩
  split at stands
  · next inRange =>
      obtain rfl := Option.some.inj stands
      have bounds := between inRange
      rw [if_neg (by omega), if_pos (by omega), Nat.add_sub_cancel' (by omega), Char.ofNat_toNat]
      exact ⟨by omega, rfl⟩
  split at stands
  · next inRange =>
      obtain rfl := Option.some.inj stands
      have bounds := between inRange
      rw [if_neg (by omega), if_neg (by omega), if_pos (by omega), Nat.add_sub_cancel,
        Char.ofNat_toNat]
      exact ⟨by omega, rfl⟩
  split at stands
  · next isLast =>
      obtain rfl := Option.some.inj stands
      exact ⟨by decide, isLast.symm⟩
  split at stands
  · next isLast =>
      obtain rfl := Option.some.inj stands
      exact ⟨by decide, isLast.symm⟩
  · cases stands

theorem encode_eq (alphabet : Alphabet) (bytes : List UInt8) :
    encode alphabet bytes = (sextets bytes).map alphabet.character := by
  fun_induction sextets bytes with
  | case1 first second third rest group inductionHypothesis =>
      simp only [encode, inductionHypothesis]
      rfl
  | case2 | case3 | case4 => rfl

/-- What was encoded is decoded. -/
theorem decode?_encode {alphabet : Alphabet} (proper : alphabet.IsProper) (bytes : List UInt8) :
    decode? alphabet (encode alphabet bytes) = some bytes := by
  have read : ∀ numbers : List Nat, (∀ sextet ∈ numbers, sextet < 64) →
      (numbers.map alphabet.character).mapM alphabet.sextet? = some numbers := by
    intro numbers bounded
    induction numbers with
    | nil => rfl
    | cons sextet rest inductionHypothesis =>
        simp [proper sextet (bounded sextet List.mem_cons_self),
          inductionHypothesis fun other member => bounded other (List.mem_cons_of_mem _ member)]
  unfold decode?
  rw [encode_eq, read _ (sextets_lt bytes)]
  exact bytesOfSextets?_sextets bytes

/-- There is one way to write bytes down: what is decoded is what was encoded. -/
theorem encode_of_decode? {alphabet : Alphabet} {text : List Char} {bytes : List UInt8}
    (decoded : decode? alphabet text = some bytes) : text = encode alphabet bytes := by
  obtain ⟨numbers, read, put⟩ := Option.bind_eq_some_iff.mp decoded
  have each : (∀ number ∈ numbers, number < 64) ∧ numbers.map alphabet.character = text := by
    clear put decoded
    induction text generalizing numbers with
    | nil =>
        obtain rfl : [] = numbers := Option.some.inj read
        simp
    | cons character rest inductionHypothesis =>
        obtain ⟨sextet, stands, others, readRest, rfl⟩ : ∃ sextet,
            alphabet.sextet? character = some sextet ∧ ∃ others,
              rest.mapM alphabet.sextet? = some others ∧ sextet :: others = numbers := by
          simpa [List.mapM_cons, Option.bind_eq_some_iff] using read
        obtain ⟨isSmall, isCharacter⟩ := Alphabet.character_of_sextet? stands
        obtain ⟨areSmall, areRest⟩ := inductionHypothesis others readRest
        exact ⟨List.forall_mem_cons.mpr ⟨isSmall, areSmall⟩, by
          rw [List.map_cons, isCharacter, areRest]⟩
  rw [encode_eq, sextets_of_bytesOfSextets? each.1 put, each.2]

/-- No dot is written, so that dots can separate what was encoded. -/
theorem dot_not_mem_encode (bytes : List UInt8) : '.' ∉ encode url bytes := by
  have noneIsDot : ∀ sextet < 64, url.character sextet ≠ '.' := by decide
  rw [encode_eq, List.mem_map]
  rintro ⟨sextet, member, isDot⟩
  exact noneIsDot sextet (sextets_lt bytes sextet member) isDot

end Countinghouse.Base64
