import Countinghouse.Yaml.Token.Scan

/-!
# Events of a YAML document

A document is told by events: scalars, and the starts and ends of sequences and mappings.
`YamlDocument.ofText` tells the first document of a text, as far as the text is well
formed.
-/

namespace Countinghouse

/-- What stands before a node. -/
structure NodeProperties where
  anchor : Option String
  tag : Option String
  deriving DecidableEq, Repr, Inhabited

/-- One event of a document. -/
inductive YamlEvent where
  | alias (name : String)
  | scalar (properties : NodeProperties) (text : String) (style : ScalarStyle)
  | sequenceStart (properties : NodeProperties)
  | sequenceEnd
  | mappingStart (properties : NodeProperties)
  | mappingEnd
  deriving DecidableEq, Repr, Inhabited

/-- How far tokens were told as events. -/
structure Teller where
  tokens : List (Placed YamlToken)
  /-- The fault after the last token. -/
  fault : YamlFault
  /-- What the handles of tags stand for. -/
  handles : List (String × String)
  /-- The events so far, latest first. -/
  events : List (YamlEvent × Mark)

/-- Tells tokens as events. What was told before a fault is kept. -/
abbrev Tell := ExceptT YamlFault (StateM Teller)

namespace Tell

/-- The next token. -/
def peek : Tell (Placed YamlToken) := do
  let teller ← get
  match teller.tokens with
  | token :: _ => return token
  | [] => throw teller.fault

/-- Passes over the next token. -/
def advance : Tell Unit := modify fun teller => { teller with tokens := teller.tokens.drop 1 }

/-- Tells an event. -/
def tell (event : YamlEvent) (mark : Mark) : Tell Unit :=
  modify fun teller => { teller with events := (event, mark) :: teller.events }

/-- Tells a scalar that is not written. -/
def tellEmpty (mark : Mark) : Tell Unit := tell (.scalar ⟨none, none⟩ "" .plain) mark

/-- Fails at a token. -/
def fail {α : Type} (token : Placed YamlToken) (problem : String)
    (context : Option (String × Mark)) : Tell α :=
  throw (.malformed problem token.start context)

/-! ## Before a node -/

/-- The tag that a handle and the rest of a tag stand for. -/
def resolveTag (start : Mark) (token : Placed YamlToken) (handle text : String) :
    Tell String := do
  if handle.isEmpty then return text
  match (← get).handles.lookup handle with
  | some lead => return lead ++ text
  | none => fail token "found undefined tag handle" (some ("while parsing a node", start))

/-- Reads an anchor, if there is one. -/
def anchor? : Tell (Option String) := do
  match (← peek).content with
  | .anchor name => advance; return some name
  | _ => return none

/-- Reads the token of a tag, if there is one. -/
def tag? : Tell (Option (Placed YamlToken)) := do
  let token ← peek
  match token.content with
  | .tag .. => advance; return some token
  | _ => return none

/-- Reads what stands before a node, in either order. -/
def properties : Tell NodeProperties := do
  let start := (← peek).start
  let anchorBefore ← anchor?
  let token ← tag?
  let anchorAfter ← if anchorBefore.isNone && token.isSome then anchor? else pure none
  let tag ← match token with
    | some placed =>
      match placed.content with
      | .tag handle text => some <$> resolveTag start placed handle text
      | _ => pure none
    | none => pure none
  return ⟨anchorBefore <|> anchorAfter, tag⟩

/-! ## Nodes -/

/-- What is being told; what follows it is told as well. -/
inductive Task where
  /-- A node. It can be a block, and if so, the items of a sequence may stand at the column
  of the key before it. -/
  | node (isBlock mayBeIndentless : Bool)
  | blockItems (start : Mark)
  | indentlessItems
  | blockPairs (start : Mark)
  | flowItems (start : Mark) (isFirst : Bool)
  | flowPairs (start : Mark) (isFirst : Bool)

/-- Whether a token can stand in the place of a value that is not written, in a block. -/
def endsPair : YamlToken → Bool
  | .key | .value | .blockEnd => true
  | _ => false

/-- Ends a collection at the next token. -/
def finish (event : YamlEvent) : Tell Unit := do
  tell event (← peek).start
  advance

/-- Tells something. -/
def perform : Nat → Task → Tell Unit
  | 0, _ => return ()
  | rounds + 1, .node isBlock mayBeIndentless => do
    let first ← peek
    if let .alias name := first.content then
      tell (.alias name) first.start
      return ← advance
    let properties ← properties
    let token ← peek
    let start := first.start
    let failHere : Tell Unit :=
      fail token "did not find expected node content"
        (some (if isBlock then "while parsing a block node" else "while parsing a flow node",
          start))
    match token.content with
    | .scalar text style =>
      tell (.scalar properties text style) start
      advance
    | .flowSequenceStart =>
      tell (.sequenceStart properties) start
      advance
      perform rounds (.flowItems token.start true)
    | .flowMappingStart =>
      tell (.mappingStart properties) start
      advance
      perform rounds (.flowPairs token.start true)
    | other =>
      if mayBeIndentless && other == .blockEntry then
        tell (.sequenceStart properties) start
        perform rounds .indentlessItems
      else if isBlock && other == .blockSequenceStart then
        tell (.sequenceStart properties) start
        advance
        perform rounds (.blockItems token.start)
      else if isBlock && other == .blockMappingStart then
        tell (.mappingStart properties) start
        advance
        perform rounds (.blockPairs token.start)
      else if properties.anchor.isSome || properties.tag.isSome then
        tell (.scalar properties "" .plain) start
      else failHere
  | rounds + 1, .blockItems start => do
    let token ← peek
    match token.content with
    | .blockEntry =>
      advance
      let next ← peek
      if next.content == .blockEntry || next.content == .blockEnd then tellEmpty token.stop
      else perform rounds (.node true false)
      perform rounds (.blockItems start)
    | .blockEnd => finish .sequenceEnd
    | _ =>
      fail token "did not find expected '-' indicator"
        (some ("while parsing a block collection", start))
  | rounds + 1, .indentlessItems => do
    let token ← peek
    match token.content with
    | .blockEntry =>
      advance
      let next ← peek
      if next.content == .blockEntry || endsPair next.content then tellEmpty token.stop
      else perform rounds (.node true false)
      perform rounds .indentlessItems
    | _ => tell .sequenceEnd token.start
  | rounds + 1, .blockPairs start => do
    let token ← peek
    match token.content with
    | .key =>
      advance
      if endsPair (← peek).content then tellEmpty token.stop
      else perform rounds (.node true true)
      let sign ← peek
      if sign.content == .value then
        advance
        if endsPair (← peek).content then tellEmpty sign.stop
        else perform rounds (.node true true)
      else tellEmpty sign.start
      perform rounds (.blockPairs start)
    | .blockEnd => finish .mappingEnd
    | _ =>
      fail token "did not find expected key" (some ("while parsing a block mapping", start))
  | rounds + 1, .flowItems start isFirst => do
    let token ← peek
    if token.content == .flowSequenceEnd then return ← finish .sequenceEnd
    if !isFirst then
      if token.content != .flowEntry then
        fail token "did not find expected ',' or ']'"
          (some ("while parsing a flow sequence", start))
      advance
    let token ← peek
    match token.content with
    | .flowSequenceEnd => finish .sequenceEnd
    | .key =>
      tell (.mappingStart ⟨none, none⟩) token.start
      advance
      let next ← peek
      match next.content with
      | .value | .flowEntry | .flowSequenceEnd =>
        advance
        tellEmpty next.stop
      | _ => perform rounds (.node false false)
      let sign ← peek
      if sign.content == .value then advance
      let next ← peek
      match sign.content, next.content with
      | .value, .flowEntry | .value, .flowSequenceEnd => tellEmpty next.start
      | .value, _ => perform rounds (.node false false)
      | _, _ => tellEmpty next.start
      tell .mappingEnd (← peek).start
      perform rounds (.flowItems start false)
    | _ =>
      perform rounds (.node false false)
      perform rounds (.flowItems start false)
  | rounds + 1, .flowPairs start isFirst => do
    let token ← peek
    if token.content == .flowMappingEnd then return ← finish .mappingEnd
    if !isFirst then
      if token.content != .flowEntry then
        fail token "did not find expected ',' or '\x7d'"
          (some ("while parsing a flow mapping", start))
      advance
    let token ← peek
    match token.content with
    | .flowMappingEnd => finish .mappingEnd
    | .key =>
      advance
      let next ← peek
      match next.content with
      | .value | .flowEntry | .flowMappingEnd => tellEmpty next.start
      | _ => perform rounds (.node false false)
      let sign ← peek
      if sign.content == .value then advance
      let next ← peek
      match sign.content, next.content with
      | .value, .flowEntry | .value, .flowMappingEnd => tellEmpty next.start
      | .value, _ => perform rounds (.node false false)
      | _, _ => tellEmpty next.start
      perform rounds (.flowPairs start false)
    | _ =>
      perform rounds (.node false false)
      tellEmpty (← peek).start
      perform rounds (.flowPairs start false)

/-! ## Documents -/

/-- The handles that need no directive. -/
def usualHandles : List (String × String) := [("!", "!"), ("!!", "tag:yaml.org,2002:")]

/-- Reads the directives before a document. -/
def directives : Nat → Bool → Tell Unit
  | 0, _ => return ()
  | rounds + 1, hasVersion => do
    let token ← peek
    match token.content with
    | .versionDirective major minor =>
      if hasVersion then fail token "found duplicate %YAML directive" none
      if major ≠ 1 || (minor ≠ 1 && minor ≠ 2) then
        fail token "found incompatible YAML document" none
      advance
      directives rounds true
    | .tagDirective handle lead =>
      if ((← get).handles.lookup handle).isSome then
        fail token "found duplicate %TAG directive" none
      modify fun teller => { teller with handles := teller.handles ++ [(handle, lead)] }
      advance
      directives rounds hasVersion
    | _ => return ()

/-- Passes over marks of the end of a document. -/
def skipDocumentEnds : Nat → Tell Unit
  | 0 => return ()
  | rounds + 1 => do
    if (← peek).content == .documentEnd then
      advance
      skipDocumentEnds rounds

/-- Reads the start of a document; there is none at the end of the text. A document that is
not the first has to begin with a mark. -/
def documentStart (isFirst : Bool) : Tell Bool := do
  let rounds := (← get).tokens.length
  if !isFirst then skipDocumentEnds rounds
  let token ← peek
  if token.content == .streamEnd then return false
  modify fun teller => { teller with handles := [] }
  directives rounds false
  modify fun teller => { teller with handles := teller.handles ++ usualHandles }
  let next ← peek
  if next.content == .documentStart then
    advance
    match (← peek).content with
    | .versionDirective .. | .tagDirective .. | .documentStart | .documentEnd | .streamEnd =>
      tellEmpty (← peek).start
    | _ => perform (4 * rounds + 4) (.node true false)
  else if isFirst && next.start == token.start then perform (4 * rounds + 4) (.node true false)
  else fail next "did not find expected <document start>" none
  return true

/-- Reads the end of a document. -/
def documentEnd : Tell Unit := do
  if (← peek).content == .documentEnd then advance

end Tell

/-- The first document of a text. -/
structure YamlDocument where
  events : List (YamlEvent × Mark)
  /-- The fault after the last event. -/
  fault : Option YamlFault
  /-- Whether nothing follows the document. -/
  isOnly : Bool

namespace YamlDocument

/-- Tells the first document, and whether another one follows. -/
def tellFirst : Tell Bool := do
  Tell.advance
  if ← Tell.documentStart true then
    Tell.documentEnd
    return true
  else return false

/-- The first document of tokens. A text without a document has one value that is not
written, at its end. -/
def ofTokens (tokens : List (Placed YamlToken)) (fault : Option YamlFault) : YamlDocument :=
  let start : Teller := ⟨tokens, fault.getD .noValue, [], []⟩
  match tellFirst.run.run start with
  | (.error fault, teller) => ⟨teller.events.reverse, some fault, true⟩
  | (.ok false, teller) =>
    let mark := (teller.tokens.head?.map (·.start)).getD .start
    ⟨[(.scalar ⟨none, none⟩ "" .plain, mark)], none, true⟩
  | (.ok true, teller) =>
    let follows := ((Tell.documentStart false).run.run teller).1
    ⟨teller.events.reverse, none, follows matches .ok false⟩

/-- Cuts a document off at the first alias for an anchor that was not given before. -/
def cutAtUnknown (known : List String) :
    List (YamlEvent × Mark) → List (YamlEvent × Mark) × Option YamlFault
  | [] => ([], none)
  | (event, mark) :: rest =>
    let isKnown := match event with
      | .alias name => known.contains name
      | _ => true
    if isKnown then
      let given := match event with
        | .scalar properties .. | .sequenceStart properties | .mappingStart properties =>
          properties.anchor.toList
        | _ => []
      let (kept, fault) := cutAtUnknown (given ++ known) rest
      ((event, mark) :: kept, fault)
    else ([], some (.unknownAnchor mark))

/-- The first document of a text, as far as it is well formed. -/
def ofText (text : String) : YamlDocument :=
  let (tokens, fault) := Scan.tokens text
  let document := ofTokens tokens fault
  match cutAtUnknown [] document.events with
  | (_, none) => document
  | (events, some fault) => ⟨events, some fault, true⟩

end YamlDocument

end Countinghouse
