import Countinghouse.Json.Document
import Countinghouse.Proofs.Json.Number

/-!
# JSON is read as it was written

`Json.toDocument` is what a value is when it is read: a document of the same shape.
`Document.parse?_render` says that this is what the written form of a value is read as, whatever
the value, as long as its numbers fit into 64 bits.

The reader keeps its own stack and reads one value after another, so the induction over a value
says what reading comes to from there on: if the rest of the text is read to some end once the
value is put into the frames around it, then the text is read to that end before the value.
-/

namespace Countinghouse

namespace Json

mutual

/-- A value as it is read. -/
def toDocument : Json → Document
  | .null => .null
  | .bool value => .bool value
  | .int value => .number (some value)
  | .text value => .text (some value)
  | .list items => .list (toDocuments items)
  | .object fields => .object (toFields fields)

/-- The items of a list as they are read. -/
def toDocuments : List Json → List Document
  | [] => []
  | item :: rest => toDocument item :: toDocuments rest

/-- The fields of an object as they are read. -/
def toFields : List (String × Json) → List (Option String × Document)
  | [] => []
  | (name, value) :: rest => (some name, toDocument value) :: toFields rest

end

mutual

/-- All numbers in a value fit into 64 bits. -/
def Fits : Json → Prop
  | .null | .bool _ | .text _ => True
  | .int value => Reader.FitsNumber value
  | .list items => AllFit items
  | .object fields => FieldsFit fields

/-- All numbers in the items of a list fit. -/
def AllFit : List Json → Prop
  | [] => True
  | item :: rest => Fits item ∧ AllFit rest

/-- All numbers in the fields of an object fit. -/
def FieldsFit : List (String × Json) → Prop
  | [] => True
  | (_, value) :: rest => Fits value ∧ FieldsFit rest

end

mutual

/-- The number of values in a value, itself included. -/
def size : Json → Nat
  | .null | .bool _ | .int _ | .text _ => 1
  | .list items => sizes items + 1
  | .object fields => fieldSizes fields + 1

/-- The number of values in the items of a list. -/
def sizes : List Json → Nat
  | [] => 0
  | item :: rest => sizes rest + size item

/-- The number of values in the fields of an object. -/
def fieldSizes : List (String × Json) → Nat
  | [] => 0
  | (_, value) :: rest => fieldSizes rest + size value

end

/-- What is written between two ASCII characters. -/
theorem encode_between {first last : Char} (isAscii : first.toNat < 128 ∧ last.toNat < 128)
    (text : String) : Utf8.encode (String.ofList [first] ++ text ++ String.ofList [last]) =
      UInt8.ofNat first.toNat :: (Utf8.encode text ++ [UInt8.ofNat last.toNat]) := by
  simp only [Utf8.encode_append, Utf8.encode_ofList, Utf8.bytes_cons_of_isAscii isAscii.1,
    Utf8.bytes_cons_of_isAscii isAscii.2]
  rfl

theorem encode_quote (value : String) :
    Utf8.encode (quote value) = 34 :: (Utf8.bytes (value.toList.flatMap escapeChar) ++ [34]) := by
  rw [← Utf8.encode_ofList]
  exact encode_between (by decide : '"'.toNat < 128 ∧ '"'.toNat < 128) _

theorem encode_list (items : List Json) : Utf8.encode (list items).render =
    91 :: (Utf8.encode (String.intercalate "," (renderItems items)) ++ [93]) :=
  encode_between (by decide : '['.toNat < 128 ∧ ']'.toNat < 128) _

theorem encode_object (fields : List (String × Json)) : Utf8.encode (object fields).render =
    123 :: (Utf8.encode (String.intercalate "," (renderFields fields)) ++ [125]) :=
  encode_between (by decide : '\x7b'.toNat < 128 ∧ '\x7d'.toNat < 128) _

theorem encode_intercalate_nil : Utf8.encode (String.intercalate "," []) = [] :=
  Utf8.encode_ofList []

/-- What is written for items is one item after the other, with commas between them. -/
theorem encode_intercalate (first second : String) (rest : List String) :
    Utf8.encode (String.intercalate "," (first :: second :: rest)) =
      Utf8.encode first ++ 44 :: Utf8.encode (String.intercalate "," (second :: rest)) := by
  have comma : Utf8.encode "," = [44] := Utf8.encode_ofList [',']
  rw [String.intercalate_cons_cons, Utf8.encode_append, Utf8.encode_append, comma,
    List.append_assoc, List.singleton_append]

theorem encode_field (name : String) (value : Json) :
    Utf8.encode (quote name ++ ":" ++ value.render) =
      Utf8.encode (quote name) ++ 58 :: Utf8.encode value.render := by
  have colon : Utf8.encode ":" = [58] := Utf8.encode_ofList [':']
  rw [Utf8.encode_append, Utf8.encode_append, colon, List.append_assoc, List.singleton_append]

/-- A byte that a value may begin with: it is no blank, and it ends no list. -/
def Begins (byte : UInt8) : Prop := Cursor.isBlank byte = false ∧ Char.ofNat byte.toNat ≠ ']'

theorem begins_of_number {byte : UInt8}
    (isNumber : Char.ofNat byte.toNat = '-' ∨ (Char.ofNat byte.toNat).isDigit) : Begins byte := by
  constructor
  · by_contra isBlank
    simp only [Cursor.isBlank, Bool.not_eq_false, Bool.or_eq_true, beq_iff_eq] at isBlank
    rcases isBlank with ((rfl | rfl) | rfl) | rfl <;> exact absurd isNumber (by decide)
  · intro isEnd
    exact absurd (isEnd ▸ isNumber) (by decide)

theorem encode_toString_cons (number : Int) :
    ∃ byte more, Utf8.encode (toString number) = byte :: more ∧
      (Char.ofNat byte.toNat = '-' ∨ (Char.ofNat byte.toNat).isDigit) := by
  obtain ⟨first, others, isCons, isNumber⟩ := Reader.toString_cons number
  have isAscii : first.toNat < 128 := by
    rcases isNumber with rfl | isDigit
    · decide
    · simp only [Char.isDigit, Bool.and_eq_true, decide_eq_true_eq, UInt32.le_iff_toNat_le]
        at isDigit
      exact isDigit.2.trans_lt (by decide)
  refine ⟨_, Utf8.bytes others, ?_, (Utf8.ofNat_byte isAscii).symm ▸ isNumber⟩
  rw [Utf8.encode_eq, isCons, Utf8.bytes_cons_of_isAscii isAscii]

theorem encode_render_cons (json : Json) :
    ∃ byte more, Utf8.encode json.render = byte :: more ∧ Begins byte := by
  cases json with
  | null => exact ⟨110, _, Utf8.encode_ofList ['n', 'u', 'l', 'l'], rfl, by decide⟩
  | bool value =>
      cases value with
      | true => exact ⟨116, _, Utf8.encode_ofList ['t', 'r', 'u', 'e'], rfl, by decide⟩
      | false => exact ⟨102, _, Utf8.encode_ofList ['f', 'a', 'l', 's', 'e'], rfl, by decide⟩
  | int value =>
      obtain ⟨byte, more, isCons, isNumber⟩ := encode_toString_cons value
      exact ⟨byte, more, isCons, begins_of_number isNumber⟩
  | text value => exact ⟨34, _, encode_quote value, rfl, by decide⟩
  | list items => exact ⟨91, _, encode_list items, rfl, by decide⟩
  | object fields => exact ⟨123, _, encode_object fields, rfl, by decide⟩

theorem encode_renderItems_cons (first : Json) (others : List Json) : ∃ byte more,
    Utf8.encode (String.intercalate "," (renderItems (first :: others))) = byte :: more ∧
      Begins byte := by
  obtain ⟨byte, more, isCons, begins⟩ := encode_render_cons first
  cases others with
  | nil => exact ⟨byte, more, isCons, begins⟩
  | cons second rest =>
      rw [renderItems, renderItems, encode_intercalate, isCons, List.cons_append]
      exact ⟨byte, _, rfl, begins⟩

theorem encode_renderFields_cons (name : String) (value : Json) (others : List (String × Json)) :
    ∃ more, Utf8.encode (String.intercalate "," (renderFields ((name, value) :: others))) =
      34 :: more := by
  cases others with
  | nil =>
      change ∃ more, Utf8.encode (quote name ++ ":" ++ value.render) = 34 :: more
      rw [encode_field, encode_quote, List.cons_append]
      exact ⟨_, rfl⟩
  | cons second rest =>
      rw [renderFields, renderFields, encode_intercalate, encode_field, encode_quote,
        List.cons_append, List.cons_append]
      exact ⟨_, rfl⟩

mutual

/-- Every value takes at least one byte. -/
theorem size_le : (json : Json) → json.size ≤ (Utf8.encode json.render).length
  | .null | .bool _ | .int _ | .text _ => by
      obtain ⟨byte, more, isCons, -⟩ := encode_render_cons _
      rw [isCons]
      exact Nat.succ_le_succ (Nat.zero_le _)
  | .list items => by
      have inside := sizes_le items
      rw [size, encode_list, List.length_cons, List.length_append]
      omega
  | .object fields => by
      have inside := fieldSizes_le fields
      rw [size, encode_object, List.length_cons, List.length_append]
      omega

theorem sizes_le : (items : List Json) →
    sizes items ≤ (Utf8.encode (String.intercalate "," (renderItems items))).length
  | [] => Nat.zero_le _
  | [only] => by
      have first := size_le only
      rw [sizes, sizes, Nat.zero_add]
      exact first
  | item :: second :: rest => by
      have first := size_le item
      have others := sizes_le (second :: rest)
      rw [renderItems, renderItems, encode_intercalate, List.length_append, List.length_cons, sizes]
      rw [renderItems] at others
      omega

theorem fieldSizes_le : (fields : List (String × Json)) →
    fieldSizes fields ≤ (Utf8.encode (String.intercalate "," (renderFields fields))).length
  | [] => Nat.zero_le _
  | [(name, only)] => by
      have first := size_le only
      change _ ≤ (Utf8.encode (quote name ++ ":" ++ only.render)).length
      rw [encode_field, List.length_append, List.length_cons, fieldSizes, fieldSizes]
      omega
  | (name, value) :: second :: rest => by
      have first := size_le value
      have others := fieldSizes_le (second :: rest)
      rw [renderFields, renderFields, encode_intercalate, List.length_append, List.length_cons,
        encode_field, List.length_append, List.length_cons, fieldSizes]
      rw [renderFields] at others
      omega

end

end Json

namespace Reader

open Document (Frame)

variable {α : Type}

/-- What is done when a value was put into the frames around it. -/
def goOn (rounds : Nat) : Document ⊕ List Frame → Reader Document
  | .inl document => return document
  | .inr frames => valuesIn rounds frames

theorem valuesIn_succ (rounds : Nat) (frames : List Frame) :
    valuesIn (rounds + 1) frames = valueIn frames >>= goOn rounds := by
  rw [valuesIn]
  congr 1

variable {next : Document ⊕ List Frame → Reader α} {frames outer : List Frame}
  {rest left : List UInt8} {value : α}

/-- A word is read as its letters. -/
theorem reads_word {letters : List Char} (areAscii : ∀ letter ∈ letters, letter.toNat < 128)
    (rest : List UInt8) : Reads (word letters) (Utf8.bytes letters ++ rest) () rest := by
  induction letters with
  | nil => exact reads_pure () rest
  | cons letter letters inductionHypothesis =>
      have isAscii := areAscii letter List.mem_cons_self
      have others := inductionHypothesis fun other member =>
        areAscii other (List.mem_cons_of_mem letter member)
      rw [Utf8.bytes_cons_of_isAscii isAscii, List.cons_append]
      refine (reads_next? _).bind ?_
      rw [List.head?_cons, Option.map_some, Utf8.ofNat_byte isAscii]
      refine (reads_step _ _).bind ?_
      rw [if_pos rfl]
      exact others

/-- A text as a value. -/
theorem reads_valueIn_text {content : String}
    (settles : Reads (settle (.text (some content)) frames >>= next) rest value left) :
    Reads (valueIn frames >>= next) (Utf8.encode (Json.quote content) ++ rest) value left := by
  rw [Json.encode_quote, List.cons_append, List.append_assoc, List.singleton_append]
  unfold valueIn
  rw [bind_assoc]
  refine (reads_nextToken? rfl _).bind ?_
  change Reads
    ((step >>= fun _ => anyText >>= fun content => settle (.text content) frames) >>= next) _ _ _
  simp only [bind_assoc]
  exact (reads_step 34 _).bind ((reads_anyText content rest).bind settles)

/-- A number as a value. -/
theorem reads_valueIn_int {number : Int} (fits : FitsNumber number) (delimited : Delimited rest)
    (settles : Reads (settle (.number (some number)) frames >>= next) rest value left) :
    Reads (valueIn frames >>= next) (Utf8.encode (toString number) ++ rest) value left := by
  obtain ⟨byte, more, isCons, isNumber⟩ := Json.encode_toString_cons number
  have reads := reads_anyNumber fits delimited
  rw [← Utf8.encode_eq, isCons] at reads
  unfold valueIn
  rw [bind_assoc, isCons]
  refine (reads_nextToken? (Json.begins_of_number isNumber).1 _).bind ?_
  generalize Char.ofNat byte.toNat = first at isNumber
  split
  case h_1 isNone => cases isNone
  case h_8 other isSome =>
    cases isSome
    rw [if_pos isNumber, bind_assoc]
    exact reads.bind settles
  all_goals
    next isSome =>
      cases isSome
      exact absurd isNumber (by decide)

/-- One of the three words as a value. -/
theorem reads_valueIn_word {first : Char} {letters : List Char} {document : Document}
    {body : Option Char → Reader (Document ⊕ List Frame)}
    (isBody : valueIn frames = nextToken? >>= body)
    (atFirst : body (some first) =
      step >>= fun _ => word letters >>= fun _ => settle document frames)
    (areAscii : (first :: letters).all fun letter => letter.toNat < 128)
    (notBlank : Cursor.isBlank (UInt8.ofNat first.toNat) = false)
    (settles : Reads (settle document frames >>= next) rest value left) :
    Reads (valueIn frames >>= next) (Utf8.bytes (first :: letters) ++ rest) value left := by
  simp only [List.all_eq_true, decide_eq_true_eq] at areAscii
  have isAscii := areAscii first List.mem_cons_self
  rw [isBody, bind_assoc, Utf8.bytes_cons_of_isAscii isAscii, List.cons_append]
  refine (reads_nextToken? notBlank _).bind ?_
  rw [Utf8.ofNat_byte isAscii, atFirst]
  simp only [bind_assoc]
  refine (reads_step _ _).bind ((reads_word ?_ rest).bind settles)
  exact fun letter member => areAscii letter (List.mem_cons_of_mem first member)

theorem reads_valueIn_null (settles : Reads (settle .null frames >>= next) rest value left) :
    Reads (valueIn frames >>= next) (Utf8.bytes ['n', 'u', 'l', 'l'] ++ rest) value left :=
  reads_valueIn_word rfl rfl rfl rfl settles

theorem reads_valueIn_false
    (settles : Reads (settle (.bool false) frames >>= next) rest value left) :
    Reads (valueIn frames >>= next) (Utf8.bytes ['f', 'a', 'l', 's', 'e'] ++ rest) value left :=
  reads_valueIn_word rfl rfl rfl rfl settles

theorem reads_valueIn_true
    (settles : Reads (settle (.bool true) frames >>= next) rest value left) :
    Reads (valueIn frames >>= next) (Utf8.bytes ['t', 'r', 'u', 'e'] ++ rest) value left :=
  reads_valueIn_word rfl rfl rfl rfl settles

/-! ## Lists and objects -/

/-- The byte that ends a frame. -/
def closing : Frame → UInt8
  | .list _ => 93
  | .object .. => 125

theorem nextToken?_closing (frame : Frame) (rest : List UInt8) :
    Reads nextToken? (closing frame :: rest) (some frame.ending) (closing frame :: rest) := by
  cases frame <;> exact reads_nextToken? rfl rest

theorem ending_ne_comma (frame : Frame) : frame.ending ≠ ',' := by
  cases frame with
  | list => exact (by decide : ']' ≠ ',')
  | object => exact (by decide : '\x7d' ≠ ',')

/-- A comma after a value leads to the next value. -/
theorem reads_settle_comma (frame : Frame) {document result : Document} {rounds : Nat}
    (goesOn : Reads (nextIn (frame.add document) >>= fun frame => valuesIn rounds (frame :: outer))
      rest result left) :
    Reads (settle document (frame :: outer) >>= goOn rounds) (44 :: rest) result left := by
  rw [settle]
  simp only [bind_assoc]
  refine (reads_nextToken? rfl rest).bind ?_
  change Reads ((step >>= fun _ => nextIn (frame.add document) >>= fun frame =>
    pure (.inr (frame :: outer))) >>= goOn rounds) _ _ _
  simp only [bind_assoc, pure_bind]
  exact (reads_step 44 rest).bind goesOn

/-- The end of a frame after a value makes a value of the frame. -/
theorem reads_settle_closing (frame : Frame) {document : Document}
    (settles : Reads (settle (frame.add document).close outer >>= next) rest value left) :
    Reads (settle document (frame :: outer) >>= next) (closing frame :: rest) value left := by
  have sameEnd : (frame.add document).ending = frame.ending := by cases frame <;> rfl
  rw [settle]
  simp only [bind_assoc]
  refine (nextToken?_closing frame rest).bind ?_
  have notComma := ending_ne_comma frame
  generalize isEnding : frame.ending = ending at notComma
  split
  · next isNone => cases isNone
  · next isComma => exact absurd (Option.some.inj isComma) notComma
  · next other isOther =>
      obtain rfl := Option.some.inj isOther
      rw [sameEnd, isEnding, if_neg (by simp)]
      simp only [bind_assoc]
      exact (reads_step _ rest).bind settles

/-- An empty list or object. -/
theorem reads_enter_closing (frame : Frame) {mark : UInt8}
    (settles : Reads (settle frame.close outer >>= next) rest value left) :
    Reads (enter frame outer >>= next) (mark :: closing frame :: rest) value left := by
  unfold enter
  simp only [bind_assoc]
  refine (reads_step mark _).bind ((nextToken?_closing frame rest).bind ?_)
  simp only [if_true, bind_assoc]
  exact (reads_step _ rest).bind settles

/-- A list or object with something in it. -/
theorem reads_enter {frame : Frame} {mark first : UInt8} {result : Document} {rounds : Nat}
    (notBlank : Cursor.isBlank first = false) (notEnd : Char.ofNat first.toNat ≠ frame.ending)
    (goesOn : Reads (nextIn frame >>= fun frame => valuesIn rounds (frame :: outer))
      (first :: rest) result left) :
    Reads (enter frame outer >>= goOn rounds) (mark :: first :: rest) result left := by
  unfold enter
  simp only [bind_assoc]
  refine (reads_step mark _).bind ((reads_nextToken? notBlank rest).bind ?_)
  simp only [if_neg notEnd, bind_assoc, pure_bind]
  exact goesOn

theorem reads_valueIn_list {bytes : List UInt8}
    (enters : Reads (enter (.list []) frames >>= next) (91 :: bytes) value left) :
    Reads (valueIn frames >>= next) (91 :: bytes) value left := by
  unfold valueIn
  rw [bind_assoc]
  exact (reads_nextToken? rfl _).bind enters

theorem reads_valueIn_object {bytes : List UInt8}
    (enters : Reads (enter (.object [] none) frames >>= next) (123 :: bytes) value left) :
    Reads (valueIn frames >>= next) (123 :: bytes) value left := by
  unfold valueIn
  rw [bind_assoc]
  exact (reads_nextToken? rfl _).bind enters

/-- A key and its colon. -/
theorem reads_anyKey (name : String) (rest : List UInt8) :
    Reads anyKey (Utf8.encode (Json.quote name) ++ 58 :: rest) (some name) rest := by
  rw [Json.encode_quote, List.cons_append, List.append_assoc, List.singleton_append]
  refine (reads_nextToken? rfl _).bind ((reads_step 34 _).bind ((reads_anyText name _).bind ?_))
  exact Reads.bind ((reads_nextToken? rfl rest).bind (reads_step 58 rest)) (reads_pure _ rest)

/-! ## Values of any shape -/

mutual

/-- What is written for a value is read up to its end. The value is put into the frames around it
there, and `settles` is what reading comes to from then on. -/
theorem reads_render (json : Json) {frames : List Frame} {rest left : List UInt8}
    {result : Document} {rounds : Nat} (fits : json.Fits) (delimited : Delimited rest)
    (settles : Reads (settle json.toDocument frames >>= goOn rounds) rest result left) :
    Reads (valuesIn (rounds + json.size) frames) (Utf8.encode json.render ++ rest) result left := by
  cases json with
  | null =>
      have isWord : Utf8.encode "null" = _ := Utf8.encode_ofList ['n', 'u', 'l', 'l']
      rw [Json.size, valuesIn_succ, Json.render, isWord]
      exact reads_valueIn_null settles
  | bool value =>
      rw [Json.size, valuesIn_succ]
      cases value with
      | false =>
          have isWord : Utf8.encode "false" = _ := Utf8.encode_ofList ['f', 'a', 'l', 's', 'e']
          rw [Json.render, isWord]
          exact reads_valueIn_false settles
      | true =>
          have isWord : Utf8.encode "true" = _ := Utf8.encode_ofList ['t', 'r', 'u', 'e']
          rw [Json.render, isWord]
          exact reads_valueIn_true settles
  | int value =>
      rw [Json.size, valuesIn_succ, Json.render]
      exact reads_valueIn_int fits delimited settles
  | text value =>
      rw [Json.size, valuesIn_succ, Json.render]
      exact reads_valueIn_text settles
  | list items =>
      rw [Json.size, ← Nat.add_assoc, valuesIn_succ, Json.encode_list, List.cons_append,
        List.append_assoc, List.singleton_append]
      refine reads_valueIn_list ?_
      -- An empty list ends where it was entered. Otherwise its first item begins with a byte
      -- that does not end it.
      cases items with
      | nil =>
          rw [Json.renderItems, Json.encode_intercalate_nil]
          exact reads_enter_closing (.list []) settles
      | cons first others =>
          obtain ⟨byte, more, isCons, begins⟩ := Json.encode_renderItems_cons first others
          have items : Reads (valuesIn _ (.list [] :: frames)) _ _ _ :=
            reads_renderItems first others fits settles
          rw [isCons] at items ⊢
          exact reads_enter begins.1 begins.2 items
  | object fields =>
      rw [Json.size, ← Nat.add_assoc, valuesIn_succ, Json.encode_object, List.cons_append,
        List.append_assoc, List.singleton_append]
      refine reads_valueIn_object ?_
      cases fields with
      | nil =>
          rw [Json.renderFields, Json.encode_intercalate_nil]
          exact reads_enter_closing (.object [] none) settles
      | cons first others =>
          cases first with
          | mk name value =>
              obtain ⟨more, isCons⟩ := Json.encode_renderFields_cons name value others
              have fields : Reads (nextIn (.object [] none) >>= _) _ _ _ :=
                reads_renderFields name value others fits settles
              rw [isCons] at fields ⊢
              exact reads_enter rfl (by decide) fields
termination_by sizeOf json

/-- What is written for the items of a list, of which some were read before. -/
theorem reads_renderItems (first : Json) (others : List Json) {outer : List Frame}
    {earlier : List Document} {rest left : List UInt8} {result : Document} {rounds : Nat}
    (fits : Json.AllFit (first :: others))
    (settles : Reads (settle (.list (earlier.reverse ++ Json.toDocuments (first :: others)))
      outer >>= goOn rounds) rest result left) :
    Reads (valuesIn (rounds + Json.sizes (first :: others)) (.list earlier :: outer))
      (Utf8.encode (String.intercalate "," (Json.renderItems (first :: others))) ++ 93 :: rest)
      result left := by
  rw [Json.sizes, ← Nat.add_assoc]
  have collected : earlier.reverse ++ Json.toDocuments (first :: others) =
      (first.toDocument :: earlier).reverse ++ Json.toDocuments others := by
    simp [Json.toDocuments]
  rw [collected] at settles
  cases others with
  | nil =>
      rw [Json.toDocuments, List.append_nil] at settles
      exact reads_render first fits.1 (.inr ⟨93, rest, rfl, by simp⟩)
        (reads_settle_closing (.list earlier) settles)
  | cons second more =>
      rw [Json.renderItems, Json.renderItems, Json.encode_intercalate, List.append_assoc,
        List.cons_append]
      refine reads_render first fits.1 (.inr ⟨44, _, rfl, by simp⟩)
        (reads_settle_comma (.list earlier) ?_)
      exact reads_renderItems second more fits.2 settles
termination_by sizeOf (first :: others)

/-- What is written for the fields of an object, the first key included. -/
theorem reads_renderFields (name : String) (value : Json) (others : List (String × Json))
    {outer : List Frame} {earlier : List (Option String × Document)} {key : Option String}
    {rest left : List UInt8} {result : Document} {rounds : Nat}
    (fits : Json.FieldsFit ((name, value) :: others))
    (settles : Reads (settle (.object (earlier.reverse ++ Json.toFields ((name, value) :: others)))
      outer >>= goOn rounds) rest result left) :
    Reads (nextIn (.object earlier key) >>= fun frame =>
        valuesIn (rounds + Json.fieldSizes ((name, value) :: others)) (frame :: outer))
      (Utf8.encode (String.intercalate "," (Json.renderFields ((name, value) :: others))) ++
        125 :: rest) result left := by
  rw [Json.fieldSizes, ← Nat.add_assoc]
  have collected : earlier.reverse ++ Json.toFields ((name, value) :: others) =
      ((some name, value.toDocument) :: earlier).reverse ++ Json.toFields others := by
    simp [Json.toFields]
  rw [collected] at settles
  rw [nextIn, bind_assoc]
  simp only [pure_bind]
  cases others with
  | nil =>
      rw [Json.toFields, List.append_nil] at settles
      have only : Utf8.encode (String.intercalate "," (Json.renderFields [(name, value)])) =
          Utf8.encode (Json.quote name) ++ 58 :: Utf8.encode value.render :=
        Json.encode_field name value
      rw [only, List.append_assoc, List.cons_append]
      refine (reads_anyKey name _).bind ?_
      exact reads_render value fits.1 (.inr ⟨125, rest, rfl, by simp⟩)
        (reads_settle_closing (.object earlier (some name)) settles)
  | cons second more =>
      rw [Json.renderFields, Json.renderFields, Json.encode_intercalate, Json.encode_field,
        List.append_assoc, List.append_assoc, List.cons_append, List.cons_append]
      refine (reads_anyKey name _).bind ?_
      refine reads_render value fits.1 (.inr ⟨44, _, rfl, by simp⟩)
        (reads_settle_comma (.object earlier (some name)) ?_)
      exact reads_renderFields second.1 second.2 more fits.2 settles
termination_by sizeOf ((name, value) :: others)

end

theorem reads_document {json : Json} (fits : json.Fits) :
    Reads document (Utf8.encode json.render) json.toDocument [] := by
  obtain ⟨spare, enough⟩ := Nat.le.dest (Json.size_le json)
  have settles : Reads (settle json.toDocument [] >>= goOn (spare + 1)) [] json.toDocument [] :=
    reads_pure json.toDocument []
  have values := reads_render json fits (.inl rfl) settles
  rw [List.append_nil] at values
  intro cursor atBytes
  have rounds : cursor.rest.length + 1 = spare + 1 + json.size := by
    rw [atBytes]
    omega
  change ∃ left, (valuesIn (cursor.rest.length + 1) []).run cursor = _ ∧ _
  rw [rounds]
  exact values cursor atBytes

end Reader

/-- What is written for a value is read as the value. -/
theorem Document.parse?_render {json : Json} (fits : json.Fits) :
    Document.parse? (Utf8.encode json.render) = some json.toDocument := by
  unfold Document.parse?
  rw [(Reader.reads_document fits).readAll]
  rfl

end Countinghouse
