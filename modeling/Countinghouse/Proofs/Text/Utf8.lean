import Countinghouse.Text.Utf8

/-!
# Texts and their bytes

The bytes of a text are the bytes of its characters, one character after the other, and the
text is read back from them.
-/

namespace Countinghouse.Utf8

theorem loop_eq (bytes : ByteArray) (place : Nat) (reversed : List UInt8) :
    ByteArray.toList.loop bytes place reversed =
      reversed.reverse ++ bytes.data.toList.drop place := by
  induction distance : bytes.size - place generalizing place reversed with
  | zero =>
      rw [ByteArray.toList.loop]
      have isEnd : bytes.data.toList.length ≤ place := by
        have : bytes.data.toList.length = bytes.size := by simp
        omega
      rw [if_neg (by omega), List.drop_eq_nil_of_le isEnd, List.append_nil]
  | succ distance inductionHypothesis =>
      rw [ByteArray.toList.loop]
      have inBytes : place < bytes.data.toList.length := by
        have : bytes.data.toList.length = bytes.size := by simp
        omega
      rw [if_pos (by omega), inductionHypothesis _ _ (by omega), List.drop_eq_getElem_cons inBytes]
      have same : bytes.get! place = bytes.data.toList[place] :=
        getElem!_pos bytes.data place inBytes
      simp [same]

theorem toList_eq (bytes : ByteArray) : bytes.toList = bytes.data.toList :=
  loop_eq bytes 0 []

/-- The bytes of a list of characters. -/
def bytes (characters : List Char) : List UInt8 := characters.flatMap String.utf8EncodeChar

theorem encode_ofList (characters : List Char) :
    encode (String.ofList characters) = bytes characters := by
  unfold encode String.toUTF8
  rw [toList_eq, String.toByteArray_ofList, List.utf8Encode, List.toList_data_toByteArray]
  rfl

theorem encode_eq (text : String) : encode text = bytes text.toList := by
  rw [← encode_ofList, String.ofList_toList]

theorem encode_append (first second : String) :
    encode (first ++ second) = encode first ++ encode second := by
  simp only [encode_eq, String.toList_append, bytes, List.flatMap_append]

/-- A text is read back from its bytes. -/
theorem decode?_encode (text : String) : decode? (encode text) = some text := by
  unfold decode? encode
  rw [toList_eq]
  unfold String.fromUTF8? String.toUTF8
  exact dif_pos text.isValidUTF8

theorem decode?_bytes (characters : List Char) :
    decode? (bytes characters) = some (String.ofList characters) := by
  rw [← encode_ofList, decode?_encode]

/-- An ASCII character is one byte. -/
theorem utf8EncodeChar_of_isAscii {character : Char} (isAscii : character.toNat < 128) :
    String.utf8EncodeChar character = [UInt8.ofNat character.toNat] := by
  unfold String.utf8EncodeChar
  exact if_pos (Nat.lt_succ_iff.mp isAscii)

theorem bytes_cons_of_isAscii {character : Char} (isAscii : character.toNat < 128)
    (rest : List Char) :
    bytes (character :: rest) = UInt8.ofNat character.toNat :: bytes rest := by
  unfold bytes
  rw [List.flatMap_cons, utf8EncodeChar_of_isAscii isAscii]
  rfl

theorem bytes_of_isAscii {characters : List Char}
    (areAscii : ∀ character ∈ characters, character.toNat < 128) :
    bytes characters = characters.map fun character => UInt8.ofNat character.toNat := by
  induction characters with
  | nil => rfl
  | cons character rest inductionHypothesis =>
      have others := inductionHypothesis fun other member =>
        areAscii other (List.mem_cons_of_mem character member)
      rw [bytes_cons_of_isAscii (areAscii character List.mem_cons_self), others, List.map_cons]

/-- The byte of an ASCII character is read as the character. -/
theorem ofNat_byte {character : Char} (isAscii : character.toNat < 128) :
    Char.ofNat (UInt8.ofNat character.toNat).toNat = character := by
  rw [UInt8.toNat_ofNat', Nat.mod_eq_of_lt (by omega), Char.ofNat_toNat]

/-- An ASCII character is one byte, and the bytes of any other are outside ASCII. -/
theorem utf8EncodeChar_cases (character : Char) :
    character.toNat < 128 ∧ String.utf8EncodeChar character = [UInt8.ofNat character.toNat] ∨
      ∀ byte ∈ String.utf8EncodeChar character, 128 ≤ byte := by
  have isOutside (number : Nat) (least : 128 ≤ number) (greatest : number < 256) :
      128 ≤ UInt8.ofNat number := by
    rw [UInt8.le_iff_toNat_le, UInt8.toNat_ofNat', Nat.mod_eq_of_lt greatest]
    exact least
  by_cases isAscii : character.toNat < 128
  · exact .inl ⟨isAscii, utf8EncodeChar_of_isAscii isAscii⟩
  · refine .inr fun byte member => ?_
    have notLess : ¬character.val.toNat ≤ 127 := fun isLess => isAscii (Nat.lt_succ_of_le isLess)
    unfold String.utf8EncodeChar at member
    dsimp only at member
    rw [if_neg notLess] at member
    split at member
    · simp only [List.mem_cons, List.not_mem_nil, or_false] at member
      rcases member with rfl | rfl <;> exact isOutside _ (by omega) (by omega)
    · split at member <;> simp only [List.mem_cons, List.not_mem_nil, or_false] at member
      · rcases member with rfl | rfl | rfl <;> exact isOutside _ (by omega) (by omega)
      · rcases member with rfl | rfl | rfl | rfl <;> exact isOutside _ (by omega) (by omega)

end Countinghouse.Utf8
