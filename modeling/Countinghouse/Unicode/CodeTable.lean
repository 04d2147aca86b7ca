import Countinghouse.Text.Hex

/-!
# Tables of code points

A `CodeTable` gives values to ranges of code points. It is written as a text with one word
for each range: the first and the last code point to base sixteen, with a hyphen between
them, and after a colon the value. Ranges stand in ascending order and do not overlap, so a
range is found by halving the table.
-/

namespace Countinghouse

/-- Values for ranges of code points. -/
structure CodeTable (α : Type) where
  /-- The first and the last code point of each range, and the value. -/
  entries : Array (Nat × Nat × α)

namespace CodeTable

variable {α : Type}

/-- The code point that digits to base sixteen stand for. -/
def code (digits : List Char) : Nat := (Hex.read? digits).getD 0

/-- A table of ranges in ascending order. -/
def ofList (entries : List (Nat × Nat × α)) : CodeTable α := ⟨entries.toArray⟩

/-- Reads one range with its value. -/
def readEntry (readValue : List Char → α) (word : List Char) : Nat × Nat × α :=
  let range := word.takeWhile (· != ':')
  let first := range.takeWhile (· != '-')
  let last := if first.length < range.length then range.drop (first.length + 1) else first
  (code first, code last, readValue (word.drop (range.length + 1)))

/-- The words of a text. -/
def words (text : String) : List (List Char) :=
  (text.toList.splitOnP Char.isWhitespace).filter fun word => !word.isEmpty

/-- Reads a table. -/
def parse (readValue : List Char → α) (text : String) : CodeTable α :=
  .ofList ((words text).map (readEntry readValue))

/-- Reads a table of ranges without values. -/
def ranges (text : String) : CodeTable Unit := parse (fun _ => ()) text

/-- The entry for a code point, among those from `low` up to `high`. -/
def search (table : CodeTable α) (wanted low high : Nat) : Option (Nat × α) :=
  if low < high then
    let middle := (low + high) / 2
    match table.entries[middle]? with
    | some (first, last, value) =>
      if wanted < first then table.search wanted low middle
      else if last < wanted then table.search wanted (middle + 1) high
      else some (first, value)
    | none => none
  else none
termination_by high - low

/-- Where the range of a code point begins, and its value. -/
def find? (table : CodeTable α) (wanted : Nat) : Option (Nat × α) :=
  table.search wanted 0 table.entries.size

/-- The value of a code point. -/
def lookup? (table : CodeTable α) (wanted : Nat) : Option α := (table.find? wanted).map (·.2)

/-- Whether a character is in a range of the table. -/
def has (table : CodeTable α) (character : Char) : Bool := (table.find? character.toNat).isSome

end CodeTable

end Countinghouse
