import Countinghouse.Yaml.Fault

/-!
# Tokens of YAML

A YAML text is read as a sequence of tokens. Indentation is told by tokens of its own, so
that after this step no blank has a meaning any more.
-/

namespace Countinghouse

/-- How a scalar is written. -/
inductive ScalarStyle where
  | plain
  | singleQuoted
  | doubleQuoted
  | literal
  | folded
  deriving DecidableEq, Repr, Inhabited

/-- A token of a YAML text. -/
inductive YamlToken where
  | streamStart
  | streamEnd
  | versionDirective (major minor : Nat)
  | tagDirective (handle lead : String)
  | documentStart
  | documentEnd
  | blockSequenceStart
  | blockMappingStart
  | blockEnd
  | flowSequenceStart
  | flowSequenceEnd
  | flowMappingStart
  | flowMappingEnd
  | blockEntry
  | flowEntry
  | key
  | value
  | alias (name : String)
  | anchor (name : String)
  | tag (handle rest : String)
  | scalar (text : String) (style : ScalarStyle)
  deriving DecidableEq, Repr, Inhabited

/-- Something that stands between two places of a text. -/
structure Placed (α : Type) where
  content : α
  start : Mark
  stop : Mark
  deriving DecidableEq, Repr, Inhabited

/-- A place where the key of a mapping may have begun. -/
structure SimpleKey where
  /-- There has to be a key here, or the text is malformed. -/
  isRequired : Bool
  /-- The number of the token that the key would begin with. -/
  number : Nat
  mark : Mark
  deriving Repr, Inhabited

/-- How far a text was read into tokens. -/
structure Scanner where
  rest : List Char
  mark : Mark
  /-- Tokens that were read and not handed out yet. -/
  queue : List (Placed YamlToken)
  /-- The number of tokens handed out. -/
  taken : Nat
  hasStarted : Bool
  /-- The column of the innermost block; below zero outside of all. -/
  indent : Int
  indents : List Int
  /-- Whether a key may begin here. -/
  mayStartKey : Bool
  /-- The key that may have begun in each of the flow collections around, innermost first,
  and last the one outside of them. -/
  keys : List (Option SimpleKey)
  /-- More than the characters of the text: no loop that reads a character in each of its
  rounds takes as many. -/
  bound : Nat
  deriving Inhabited

/-- Reads tokens. -/
abbrev Scan := StateT Scanner (Except YamlFault)

namespace Scanner

/-- The start of a text. -/
def ofText (text : List Char) : Scanner :=
  ⟨text, .start, [], 0, false, -1, [], true, [none], text.length + 3⟩

/-- Whether reading takes place inside of a flow collection. -/
def isInFlow (scanner : Scanner) : Bool := 1 < scanner.keys.length

end Scanner

namespace Scan

/-! ## Characters -/

/-- A character that ends a line. -/
def isBreak (character : Char) : Bool :=
  character == '\n' || character == '\r' || character.toNat == 0x85
    || character.toNat == 0x2028 || character.toNat == 0x2029

/-- A blank within a line. -/
def isBlank (character : Char) : Bool := character == ' ' || character == '\t'

/-- Whether what comes next separates tokens: a blank, the end of a line or of the text. -/
def separates : List Char → Bool
  | [] => true
  | character :: _ => isBlank character || isBreak character

/-- A character of a name. -/
def isInName (character : Char) : Bool :=
  character.isAlphanum || character == '_' || character == '-'

/-- Whether a text begins with one of the marks between documents. -/
def beginsDocumentMark : List Char → Bool
  | '-' :: '-' :: '-' :: rest | '.' :: '.' :: '.' :: rest => separates rest
  | _ => false

/-! ## Moving on -/

/-- The text that was not read yet. -/
def rest : Scan (List Char) := return (← get).rest

/-- More rounds than a loop that reads a character in each of them takes. -/
def bound : Scan Nat := return (← get).bound

/-- The present place. -/
def mark : Scan Mark := return (← get).mark

/-- The present column. -/
def column : Scan Int := return ((← get).mark.column : Nat)

/-- Fails at the present place. -/
def fail {α : Type} (problem : String) (context : Option (String × Mark)) : Scan α := do
  throw (.malformed problem (← mark) context)

/-- Fails in the middle of something that started before. -/
def failIn {α : Type} (activity : String) (start : Mark) (problem : String) : Scan α :=
  fail problem (some (activity, start))

/-- Passes over characters of one line. -/
def skip (count : Nat) : Scan Unit :=
  modify fun scanner =>
    { scanner with
      rest := scanner.rest.drop count
      mark := { scanner.mark with
        index := scanner.mark.index + count
        column := scanner.mark.column + count } }

/-- Passes over characters of one line as long as they are of a kind, and gives them. -/
def takeWhile (kind : Char → Bool) : Scan (List Char) := do
  let run := (← rest).takeWhile kind
  skip run.length
  return run

/-- Passes over the end of a line, and gives what it stands for; at the end of the text
there is none. -/
def takeBreak : Scan (List Char) := do
  let (count, text) : Nat × List Char :=
    match ← rest with
    | '\r' :: '\n' :: _ => (2, ['\n'])
    | character :: _ =>
      if !isBreak character then (0, [])
      else if 0x2028 ≤ character.toNat then (1, [character])
      else (1, ['\n'])
    | [] => (0, [])
  if count ≠ 0 then
    modify fun scanner =>
      { scanner with
        rest := scanner.rest.drop count
        mark := ⟨scanner.mark.index + count, scanner.mark.line + 1, 0⟩ }
  return text

/-- Passes over blanks and a comment up to the end of the line. -/
def skipComment : Scan Unit := do
  let _ ← takeWhile isBlank
  if (← rest).head? = some '#' then
    let _ ← takeWhile (!isBreak ·)

/-- Two lines as one: the end of the first counts for a blank, unless empty lines follow
it. -/
def fold (first more : List Char) : List Char :=
  if first.head? = some '\n' then (if more.isEmpty then [' '] else more) else first ++ more

end Scan

end Countinghouse
