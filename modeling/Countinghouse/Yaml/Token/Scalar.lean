import Countinghouse.Yaml.Token.Basic

/-!
# Scalars

A scalar is plain, quoted, or a block of lines. Within plain and quoted scalars the end of
a line counts for a blank, and empty lines for ends of lines.
-/

namespace Countinghouse.Scan

/-! ## Blanks and lines between the parts of a scalar -/

/-- What stands between two parts of a scalar. -/
inductive Gap where
  | blanks (text : List Char)
  /-- The end of a line, and the empty lines after it. -/
  | lines (first more : List Char)

namespace Gap

/-- The text that a gap stands for. -/
def text : Gap → List Char
  | .blanks text => text
  | .lines first more => fold first more

/-- Whether a gap goes over the end of a line. -/
def isLines : Gap → Bool
  | .blanks _ => false
  | .lines .. => true

end Gap

/-- Passes over a gap. `onBlank` looks at each blank before it is passed over. -/
def takeGap (onBlank : Gap → Char → Scan Unit) : Nat → Gap → Scan Gap
  | 0, gap => return gap
  | rounds + 1, gap => do
    match (← rest).head? with
    | none => return gap
    | some character =>
      if isBlank character then
        onBlank gap character
        skip 1
        takeGap onBlank rounds (match gap with
          | .blanks text => .blanks (text ++ [character])
          | lines => lines)
      else if isBreak character then
        let line ← takeBreak
        takeGap onBlank rounds (match gap with
          | .blanks _ => .lines line []
          | .lines first more => .lines first (more ++ line))
      else return gap

/-! ## Plain scalars -/

/-- The longest run of characters of a plain scalar, and whether a colon stands after it
where none can. -/
def plainRun (isInFlow : Bool) : List Char → List Char × Bool
  | [] => ([], false)
  | character :: rest =>
    if isBlank character || isBreak character then ([], false)
    else if isInFlow && character == ':' && rest.head?.any (",?[]\x7b\x7d".toList.contains ·) then
      ([], true)
    else if (character == ':' && separates rest)
        || (isInFlow && ",[]\x7b\x7d".toList.contains character) then ([], false)
    else
      let (run, isMisplaced) := plainRun isInFlow rest
      (character :: run, isMisplaced)

/-- Reads the rest of a plain scalar after some text, told backwards, and a gap. -/
def plainParts (start : Mark) (indent : Int) :
    Nat → List Char → Gap → Mark → Scan (List Char × Gap × Mark)
  | 0, text, gap, stop => return (text, gap, stop)
  | rounds + 1, text, gap, stop => do
    let ahead ← rest
    if (← mark).column = 0 && beginsDocumentMark ahead then return (text, gap, stop)
    if ahead.head? = some '#' then return (text, gap, stop)
    let isInFlow := (← get).isInFlow
    let (run, isMisplaced) := plainRun isInFlow ahead
    skip run.length
    if isMisplaced then failIn "while scanning a plain scalar" start "found unexpected ':'"
    let (text, stop) ←
      if run.isEmpty then pure (text, stop) else pure (run.reverse ++ gap.text.reverse ++ text, ← mark)
    let gap := if run.isEmpty then gap else .blanks []
    let after ← rest
    if after.isEmpty || !separates after then return (text, gap, stop)
    let gap ← takeGap
      (fun gap blank => do
        if gap.isLines && (← column) < indent && blank == '\t' then
          failIn "while scanning a plain scalar" start
            "found a tab character that violates indentation")
      (← bound) gap
    if !isInFlow && (← column) < indent then return (text, gap, stop)
    plainParts start indent rounds text gap stop

/-- Reads a plain scalar. A key may begin on the line after it. -/
def plain : Scan (Placed YamlToken) := do
  let scanner ← get
  let start := scanner.mark
  let (text, gap, stop) ← plainParts start (scanner.indent + 1) scanner.bound [] (.blanks []) start
  if gap.isLines then modify ({ · with mayStartKey := true })
  return ⟨.scalar (String.ofList text.reverse) .plain, start, stop⟩

/-! ## Quoted scalars -/

/-- What an escape with one letter stands for. -/
def escapeLetter? : Char → Option Nat
  | '0' => some 0
  | 'a' => some 7
  | 'b' => some 8
  | 't' | '\t' => some 9
  | 'n' => some 10
  | 'v' => some 11
  | 'f' => some 12
  | 'r' => some 13
  | 'e' => some 27
  | ' ' => some 32
  | '"' => some 34
  | '/' => some 47
  | '\\' => some 92
  | 'N' => some 0x85
  | '_' => some 0xa0
  | 'L' => some 0x2028
  | 'P' => some 0x2029
  | _ => none

/-- The number of hexadecimal digits after a letter. -/
def escapeDigits? : Char → Option Nat
  | 'x' => some 2
  | 'u' => some 4
  | 'U' => some 8
  | _ => none

/-- Reads an escape of a double-quoted scalar. -/
def escape (start : Mark) : Scan Char := do
  let failHere {α : Type} (problem : String) : Scan α :=
    failIn "while parsing a quoted scalar" start problem
  let letter := ((← rest)[1]?).getD ' '
  match escapeLetter? letter, escapeDigits? letter with
  | some code, _ =>
    skip 2
    return Char.ofNat code
  | none, none => failHere "found unknown escape character"
  | none, some count =>
    skip 2
    let digits := (← rest).take count
    match Hex.read? digits with
    | none => failHere "did not find expected hexdecimal number"
    | some code =>
      if digits.length < count then failHere "did not find expected hexdecimal number"
      if (0xd800 ≤ code && code ≤ 0xdfff) || 0x10ffff < code then
        failHere "found invalid Unicode character escape code"
      skip count
      return Char.ofNat code

/-- Reads characters of a quoted scalar up to a blank, the end of a line, the closing quote
or an escaped end of a line; the last gives a gap. The text is told backwards. -/
def quotedRun (isSingle : Bool) (start : Mark) :
    Nat → List Char → Scan (List Char × Option Gap)
  | 0, text => return (text, none)
  | rounds + 1, text => do
    match ← rest with
    | [] => return (text, none)
    | character :: more =>
      if isBlank character || isBreak character then return (text, none)
      else if isSingle && character == '\'' && more.head? == some '\'' then
        skip 2
        quotedRun isSingle start rounds ('\'' :: text)
      else if character == (if isSingle then '\'' else '"') then return (text, none)
      else if !isSingle && character == '\\' then
        if more.head?.any isBreak then
          skip 1
          let _ ← takeBreak
          return (text, some (.lines [] []))
        let meaning ← escape start
        quotedRun isSingle start rounds (meaning :: text)
      else
        skip 1
        quotedRun isSingle start rounds (character :: text)

/-- Reads the rest of a quoted scalar after some text, told backwards. -/
def quotedParts (isSingle : Bool) (start : Mark) : Nat → List Char → Scan (List Char)
  | 0, text => return text
  | rounds + 1, text => do
    let failHere {α : Type} (problem : String) : Scan α :=
      failIn "while scanning a quoted scalar" start problem
    let ahead ← rest
    if (← mark).column = 0 && beginsDocumentMark ahead then
      failHere "found unexpected document indicator"
    if ahead.isEmpty then failHere "found unexpected end of stream"
    let (text, opened) ← quotedRun isSingle start (← bound) text
    if opened.isNone && (← rest).head? = some (if isSingle then '\'' else '"') then return text
    let gap ← takeGap (fun _ _ => return ()) (← bound) (opened.getD (.blanks []))
    quotedParts isSingle start rounds (gap.text.reverse ++ text)

/-- Reads a quoted scalar. -/
def quoted (isSingle : Bool) : Scan (Placed YamlToken) := do
  let start ← mark
  skip 1
  let text ← quotedParts isSingle start (← bound) []
  skip 1
  let style := if isSingle then ScalarStyle.singleQuoted else .doubleQuoted
  return ⟨.scalar (String.ofList text.reverse) style, start, ← mark⟩

/-! ## Blocks of lines -/

/-- What happens to the ends of lines at the end of a block. -/
inductive Chomping where
  | strip
  | clip
  | keep
  deriving DecidableEq

/-- Reads the sign that tells what happens at the end of a block, if there is one. -/
def chomping? : Scan (Option Chomping) := do
  match (← rest).head? with
  | some '+' => skip 1; return some .keep
  | some '-' => skip 1; return some .strip
  | _ => return none

/-- Reads the digit that tells how far a block is indented, if there is one. -/
def increment? (start : Mark) : Scan (Option Nat) := do
  match (← rest).head? with
  | some digit =>
    if !digit.isDigit then return none
    if digit == '0' then
      failIn "while scanning a block scalar" start "found an indentation indicator equal to 0"
    skip 1
    return some (digit.toNat - 48)
  | none => return none

/-- Passes over empty lines and the indentation of the next line. Gives the ends of lines,
the widest column that was met, and where the last line ended. -/
def blockBreaks (start : Mark) (indent : Option Nat) :
    Nat → List Char → Nat → Mark → Scan (List Char × Nat × Mark)
  | 0, breaks, widest, stop => return (breaks, widest, stop)
  | rounds + 1, breaks, widest, stop => do
    let here := (← mark).column
    let spaces := ((← rest).takeWhile (· == ' ')).length
    skip (match indent with
      | none => spaces
      | some limit => min spaces (limit - here))
    let reached := (← mark).column
    let widest := max widest reached
    let ahead := (← rest).head?
    if indent.all (reached < ·) && ahead == some '\t' then
      failIn "while scanning a block scalar" start
        "found a tab character where an indentation space is expected"
    if !ahead.any isBreak then return (breaks, widest, stop)
    let line ← takeBreak
    blockBreaks start indent rounds (breaks ++ line) widest (← mark)

/-- How the lines of a block go together: as far as they were read, told backwards, the end
of the last line, the empty lines after it, and whether the last line began with a blank. -/
structure BlockText where
  text : List Char
  lastBreak : List Char
  emptyLines : List Char
  wasIndented : Bool

/-- A block with one more line. Lines are folded unless one of them begins with a blank. -/
def BlockText.add (isLiteral : Bool) (line lineBreak : List Char) (block : BlockText) :
    BlockText :=
  let isIndented := line.head?.any isBlank
  let joint :=
    if !isLiteral && block.lastBreak.head? == some '\n' && !block.wasIndented && !isIndented then
      (if block.emptyLines.isEmpty then [' '] else []) ++ block.emptyLines
    else block.lastBreak ++ block.emptyLines
  ⟨line.reverse ++ joint.reverse ++ block.text, lineBreak, [], isIndented⟩

/-- Reads the lines of a block. -/
def blockLines (isLiteral : Bool) (start : Mark) (indent : Nat) :
    Nat → BlockText → Mark → Scan (BlockText × Mark)
  | 0, block, stop => return (block, stop)
  | rounds + 1, block, stop => do
    if (← mark).column ≠ indent || (← rest).isEmpty then return (block, stop)
    let line ← takeWhile (!isBreak ·)
    let lineBreak ← takeBreak
    let block := block.add isLiteral line lineBreak
    let (breaks, _, stop) ←
      blockBreaks start (some indent) (← bound) [] 0 (← mark)
    blockLines isLiteral start indent rounds { block with emptyLines := breaks } stop

/-- Reads a block of lines. -/
def block (isLiteral : Bool) : Scan (Placed YamlToken) := do
  let start ← mark
  skip 1
  let signBefore ← chomping?
  let increment ← increment? start
  let signAfter ← if signBefore.isNone && increment.isSome then chomping? else pure none
  skipComment
  let ahead ← rest
  if !ahead.isEmpty && !ahead.head?.any isBreak then
    failIn "while scanning a block scalar" start "did not find expected comment or line break"
  let _ ← takeBreak
  let outer := (← get).indent
  let given := increment.map fun count => (max outer 0).toNat + count
  let (breaks, widest, stop) ← blockBreaks start given (← bound) [] 0 (← mark)
  let indent := given.getD (max widest (max (outer + 1).toNat 1))
  let (block, stop) ←
    blockLines isLiteral start indent (← bound) ⟨[], [], breaks, false⟩ stop
  let ending := match (signBefore <|> signAfter).getD .clip with
    | .strip => []
    | .clip => block.lastBreak
    | .keep => block.lastBreak ++ block.emptyLines
  return ⟨.scalar (String.ofList (block.text.reverse ++ ending))
    (if isLiteral then .literal else .folded), start, stop⟩

end Countinghouse.Scan
