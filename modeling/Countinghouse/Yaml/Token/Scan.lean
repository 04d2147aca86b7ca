import Countinghouse.Yaml.Token.Scalar
import Countinghouse.Yaml.Token.Tag

/-!
# Reading tokens

`Scan.tokens` reads a text as tokens, up to its end or to the first fault. Whether some
token begins a key is known only once the colon after it is met, so tokens wait until that
is decided. Where a block is left or entered, tokens are put in for it.
-/

namespace Countinghouse.Scan

/-- Adds a token to those that wait. -/
def emit (token : Placed YamlToken) : Scan Unit :=
  modify fun scanner => { scanner with queue := scanner.queue ++ [token] }

/-- Adds a token that takes no room. -/
def emitHere (token : YamlToken) : Scan Unit := do
  let here ← mark
  emit ⟨token, here, here⟩

/-- Passes over characters and adds the token that they are. -/
def emitIndicator (count : Nat) (token : YamlToken) : Scan Unit := do
  let start ← mark
  skip count
  emit ⟨token, start, ← mark⟩

/-- Puts a token before those that wait, at the place of the token with a number. -/
def insertAt (number : Nat) (token : Placed YamlToken) : Scan Unit :=
  modify fun scanner =>
    let place := number - scanner.taken
    { scanner with queue := scanner.queue.take place ++ token :: scanner.queue.drop place }

/-! ## Keys -/

/-- A key that had to be here was not completed. -/
def failKey {α : Type} (key : SimpleKey) : Scan α :=
  failIn "while scanning a simple key" key.mark "could not find expected ':'"

/-- Whether it is too late for a key: it has to be on one line and not too long. -/
def isStale (here : Mark) (key : SimpleKey) : Bool :=
  key.mark.line < here.line || key.mark.index + 1024 < here.index

/-- Gives up the keys for which it is too late. -/
def dropStaleKeys : Scan Unit := do
  let here ← mark
  match (← get).keys.reverse.find? (·.any fun key => isStale here key && key.isRequired) with
  | some (some key) => failKey key
  | _ => return ()
  modify fun scanner =>
    { scanner with keys := scanner.keys.map (·.filter (!isStale here ·)) }

/-- Puts something in the place of the innermost key. -/
def setKey (key : Option SimpleKey) : Scan Unit :=
  modify fun scanner => { scanner with keys := key :: scanner.keys.drop 1 }

/-- The innermost key. -/
def key? : Scan (Option SimpleKey) := return (← get).keys.head?.join

/-- Gives up the innermost key. -/
def dropKey : Scan Unit := do
  if let some key ← key? then
    if key.isRequired then failKey key
  setKey none

/-- Notes that a key may begin with the next token. -/
def noteKey : Scan Unit := do
  let scanner ← get
  if scanner.mayStartKey then
    dropKey
    setKey (some
      { isRequired := !scanner.isInFlow && scanner.indent == (scanner.mark.column : Int)
        number := scanner.taken + scanner.queue.length
        mark := scanner.mark })

/-- Says whether a key may begin after this. -/
def allowKey (mayStartKey : Bool) : Scan Unit := modify ({ · with mayStartKey })

/-! ## Blocks -/

/-- Enters a block at a column that is further in, with the token that says so. -/
def enterBlock (column : Nat) (begin : Placed YamlToken → Scan Unit) (token : YamlToken)
    (start : Mark) : Scan Unit := do
  let scanner ← get
  if !scanner.isInFlow && scanner.indent < (column : Int) then
    set { scanner with indents := scanner.indent :: scanner.indents, indent := (column : Int) }
    begin ⟨token, start, start⟩

/-- Leaves the blocks that are further in than a column. -/
def leaveBlocks (column : Int) : List Int → Scan Unit
  | [] => return ()
  | outer :: more => do
    if column < (← get).indent then
      emitHere .blockEnd
      modify ({ · with indent := outer, indents := more })
      leaveBlocks column more

/-- Leaves the blocks that are further in than a column, outside of flow collections. -/
def leaveTo (column : Int) : Scan Unit := do
  let scanner ← get
  if !scanner.isInFlow then leaveBlocks column scanner.indents

/-! ## One token after another -/

/-- Passes over blanks, comments and ends of lines. A tab is no indentation. -/
def skipToToken : Nat → Scan Unit
  | 0 => return ()
  | rounds + 1 => do
    if (← mark).index = 0 && (← rest).head?.any (·.toNat == 0xfeff) then skip 1
    let scanner ← get
    let _ ← takeWhile fun character =>
      character == ' ' || (character == '\t' && (scanner.isInFlow || !scanner.mayStartKey))
    if (← rest).head? = some '#' then
      let _ ← takeWhile (!isBreak ·)
    if (← rest).head?.any isBreak then
      let _ ← takeBreak
      if !scanner.isInFlow then allowKey true
      skipToToken rounds

/-- The end of the text. -/
def endStream : Scan Unit := do
  modify fun scanner =>
    if scanner.mark.column = 0 then scanner
    else { scanner with mark := ⟨scanner.mark.index, scanner.mark.line + 1, 0⟩ }
  leaveTo (-1)
  dropKey
  allowKey false
  emitHere .streamEnd

/-- Something at the start of a line that no block can hold. -/
def leaveAll : Scan Unit := do
  leaveTo (-1)
  dropKey
  allowKey false

/-- The start of a flow collection. -/
def openFlow (token : YamlToken) : Scan Unit := do
  noteKey
  modify fun scanner => { scanner with keys := none :: scanner.keys }
  allowKey true
  emitIndicator 1 token

/-- The end of a flow collection. -/
def closeFlow (token : YamlToken) : Scan Unit := do
  dropKey
  modify fun scanner =>
    if scanner.isInFlow then { scanner with keys := scanner.keys.drop 1 } else scanner
  allowKey false
  emitIndicator 1 token

/-- Enters a block for an indicator, which needs to stand where a key may. -/
def enterFor (token : YamlToken) (problem : String) : Scan Unit := do
  let scanner ← get
  if !scanner.isInFlow then
    if !scanner.mayStartKey then fail problem none
    enterBlock scanner.mark.column emit token scanner.mark

/-- The sign before an item of a block. -/
def blockEntry : Scan Unit := do
  enterFor .blockSequenceStart "block sequence entries are not allowed in this context"
  dropKey
  allowKey true
  emitIndicator 1 .blockEntry

/-- The sign before a key that is not simple. -/
def complexKey : Scan Unit := do
  enterFor .blockMappingStart "mapping keys are not allowed in this context"
  dropKey
  allowKey !(← get).isInFlow
  emitIndicator 1 .key

/-- The colon before a value. -/
def valueSign : Scan Unit := do
  match ← key? with
  | some key =>
    insertAt key.number ⟨.key, key.mark, key.mark⟩
    enterBlock key.mark.column (insertAt key.number) .blockMappingStart key.mark
    setKey none
    allowKey false
  | none =>
    enterFor .blockMappingStart "mapping values are not allowed in this context"
    allowKey !(← get).isInFlow
  emitIndicator 1 .value

/-- Reads a token that a key may begin with. -/
def keyToken (read : Scan (Placed YamlToken)) : Scan Unit := do
  noteKey
  allowKey false
  emit (← read)

/-- Reads a block of lines, which no key can begin with. -/
def blockToken (isLiteral : Bool) : Scan Unit := do
  dropKey
  allowKey true
  emit (← block isLiteral)

/-- Whether a plain scalar can begin with a character. -/
def canBeginPlain (isInFlow : Bool) (character : Char) (more : List Char) : Bool :=
  if character == '-' then !more.head?.any isBlank
  else if character == '?' || character == ':' then !isInFlow && !separates more
  else !",[]\x7b\x7d#&*!|>'\"%@`".toList.contains character

/-- Reads at least one token. -/
def fetch : Scan Unit := do
  if !(← get).hasStarted then
    modify ({ · with hasStarted := true })
    return ← emitHere .streamStart
  skipToToken (← bound)
  dropStaleKeys
  leaveTo (← column)
  let scanner ← get
  let isInFlow := scanner.isInFlow
  let isAtStart := scanner.mark.column = 0
  match scanner.rest with
  | [] => endStream
  | character :: more =>
    if isAtStart && character == '%' then
      leaveAll
      emit (← directive)
    else if isAtStart && beginsDocumentMark scanner.rest then
      leaveAll
      emitIndicator 3 (if character == '-' then .documentStart else .documentEnd)
    else if character == '[' then openFlow .flowSequenceStart
    else if character == '\x7b' then openFlow .flowMappingStart
    else if character == ']' then closeFlow .flowSequenceEnd
    else if character == '\x7d' then closeFlow .flowMappingEnd
    else if character == ',' then
      dropKey
      allowKey true
      emitIndicator 1 .flowEntry
    else if character == '-' && separates more then blockEntry
    else if character == '?' && (isInFlow || separates more) then complexKey
    else if character == ':' && (isInFlow || separates more) then valueSign
    else if character == '*' then keyToken (anchorName true)
    else if character == '&' then keyToken (anchorName false)
    else if character == '!' then keyToken tag
    else if character == '|' && !isInFlow then blockToken true
    else if character == '>' && !isInFlow then blockToken false
    else if character == '\'' then keyToken (quoted true)
    else if character == '"' then keyToken (quoted false)
    else if canBeginPlain isInFlow character more && !isBlank character then keyToken plain
    else
      failIn "while scanning for the next token" scanner.mark
        "found character that cannot start any token"

/-- Reads until the first token that waits is not the possible start of a key. -/
def settle : Nat → Scan Unit
  | 0 => return ()
  | rounds + 1 => do
    if !(← get).queue.isEmpty then dropStaleKeys
    let scanner ← get
    let isOpen := scanner.keys.any (·.any (·.number == scanner.taken))
    if scanner.queue.isEmpty || isOpen then
      fetch
      settle rounds

/-- The next token. -/
def next : Scan (Option (Placed YamlToken)) := do
  settle (← bound)
  let scanner ← get
  match scanner.queue with
  | token :: queue =>
    set { scanner with queue, taken := scanner.taken + 1 }
    return some token
  | [] => return none

/-- Reads tokens up to the end of the text or the first fault. -/
def tokensFrom : Nat → Scanner → List (Placed YamlToken) × Option YamlFault
  | 0, _ => ([], none)
  | rounds + 1, scanner =>
    match next.run scanner with
    | .error fault => ([], some fault)
    | .ok (none, _) => ([], none)
    | .ok (some token, after) =>
      if token.content = .streamEnd then ([token], none)
      else
        let (tokens, fault) := tokensFrom rounds after
        (token :: tokens, fault)

/-- A character that a text may hold. -/
def isAllowed (character : Char) : Bool :=
  let code := character.toNat
  code == 9 || code == 10 || code == 13 || (32 ≤ code && code ≤ 126) || code == 0x85
    || (0xa0 ≤ code && code != 0xfffe && code != 0xffff)

/-- The tokens of a text, and the fault that ends them. -/
def tokens (text : String) : List (Placed YamlToken) × Option YamlFault :=
  let characters := text.toList
  let allowed := characters.takeWhile isAllowed
  if allowed.length < characters.length then
    ([], some (.badCharacter (String.ofList allowed).utf8ByteSize))
  else tokensFrom (4 * characters.length + 8) (Scanner.ofText characters)

end Countinghouse.Scan
