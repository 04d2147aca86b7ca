import Countinghouse.Yaml.Scalar

/-!
# Reading values from YAML

A `YamlReader` makes a value of the events of a document. A fault of a value is told with
the place of the innermost value around it and the keys that lead there. An alias is read
as what it stands for.
-/

namespace Countinghouse

/-- What a reader reads from. -/
structure YamlSource where
  events : List (YamlEvent × Mark)
  /-- What is wrong when the events come to an end. -/
  fault : YamlFault
  /-- The keys that lead to the value being read. -/
  keys : List String
  /-- The number of events. -/
  size : Nat

/-- Reads a value from events; the state is what was not read yet. -/
abbrev YamlReader := ReaderT YamlSource (StateT (List (YamlEvent × Mark)) (Except YamlFault))

namespace YamlReader

/-- Fails without a place; the value around has one. -/
def refuse {α : Type} (cause : YamlFault.Cause) : YamlReader α := throw (.shape cause none)

/-- The next event. -/
def peek : YamlReader (YamlEvent × Mark) := do
  match ← get with
  | event :: _ => return event
  | [] => throw (← read).fault

/-- Passes over the next event. -/
def advance : YamlReader Unit := modify (·.drop 1)

/-- Gives a fault that has no place the one of a value. -/
def located {α : Type} (mark : Mark) (reader : YamlReader α) : YamlReader α := do
  let keys := (← read).keys
  tryCatch reader fun fault =>
    match fault with
    | .shape cause none => throw (.shape cause (some (mark, keys)))
    | other => throw other

/-- The anchor of an event. -/
def anchorOf : YamlEvent → Option String
  | .scalar properties .. | .sequenceStart properties | .mappingStart properties =>
    properties.anchor
  | _ => none

/-- The events from the last value with an anchor on, among those before an alias. -/
def eventsAt (name : String) (before after : List (YamlEvent × Mark)) : List (YamlEvent × Mark) :=
  match before with
  | [] => []
  | event :: rest =>
    match eventsAt name rest after with
    | [] => if anchorOf event.1 = some name then event :: rest ++ after else []
    | found => found

/-- Reads the value that an alias stands for, and goes on after the alias. -/
def atAnchor {α : Type} (name : String) (reader : YamlReader α) : YamlReader α := do
  let events := (← read).events
  let after ← get
  let before := events.take (events.length - after.length)
  set (eventsAt name before after)
  let value ← reader
  set after
  return value

/-- Reads a value by its first event. -/
def value {α : Type} (reader : YamlEvent → YamlReader α) : YamlReader α := do
  let readOne : YamlReader α := do
    let (event, mark) ← peek
    advance
    located mark (reader event)
  let (event, mark) ← peek
  match event with
  | .alias name => do
    advance
    located mark (atAnchor name readOne)
  | _ => readOne

/-! ## Scalars -/

/-- The tag of a kind of value that every document knows. -/
def coreTag (name : String) : String := "tag:yaml.org,2002:" ++ name

/-- What a scalar turns out to be. -/
def foundScalar (properties : NodeProperties) (text : String) (style : ScalarStyle) :
    YamlFault.Cause ⊕ YamlFault.Found :=
  let asText := YamlFault.Found.plain (.text text)
  match properties.tag with
  | none => .inr (if style = .plain then YamlScalar.found text else asText)
  | some tag =>
    if tag = coreTag "bool" then
      match YamlScalar.truth? text with
      | some value => .inr (.plain (.bool value))
      | none => .inl (.wrongValue asText "a boolean")
    else if tag = coreTag "int" then
      match YamlScalar.integer? text with
      | some value => .inr (YamlScalar.foundInteger value)
      | none => .inl (.wrongValue asText "an integer")
    else if tag = coreTag "float" then
      match YamlScalar.fraction? text with
      | some value => .inr (.plain (.fraction value))
      | none => .inl (.wrongValue asText "a float")
    else if tag = coreTag "null" then
      if YamlScalar.isNull text then .inr .nothing else .inl (.wrongValue asText "null")
    else if tag.startsWith "!" && style = .plain then .inr (YamlScalar.found text)
    else .inr asText

/-- Fails because a value is not what was expected. -/
def wrongType {α : Type} (event : YamlEvent) (expected : String) : YamlReader α :=
  match event with
  | .scalar properties text style =>
    match foundScalar properties text style with
    | .inl cause => refuse cause
    | .inr found => refuse (.wrongType found expected)
  | .sequenceStart _ => refuse (.wrongType (.plain .sequence) expected)
  | _ => refuse (.wrongType (.plain .mapping) expected)

/-- Whether a scalar can stand for more than its text: a plain one can, and a block of lines
whose tag says so. -/
def isOpen (tag : String) (properties : NodeProperties) (style : ScalarStyle) : Bool :=
  style = .plain || (style = .literal && properties.tag == some (coreTag tag))

/-- A text. Every scalar is one. -/
def textAs (expected : String) : YamlReader String :=
  value fun event =>
    match event with
    | .scalar _ text _ => return text
    | other => wrongType other expected

/-- A text. -/
def text : YamlReader String := textAs "a string"

/-- A truth value. -/
def truth : YamlReader Bool :=
  value fun event =>
    match event with
    | .scalar properties text style =>
      match if isOpen "bool" properties style then YamlScalar.truth? text else none with
      | some value => return value
      | none => wrongType event "a boolean"
    | _ => wrongType event "a boolean"

/-- An integer that is read within wide bounds, and then has to be in narrow ones. A minus
sign is only known where there are integers below zero. -/
def integer (wide narrow : IntegerBounds) (expected : String) : YamlReader Int :=
  value fun event =>
    match event with
    | .scalar properties text style =>
      let isKnown := isOpen "int" properties style && (wide.least < 0 || !text.startsWith "-")
      match if isKnown then YamlScalar.integer? text else none with
      | some value =>
        if value < wide.least ∨ wide.greatest < value then wrongType event expected
        else if value < narrow.least ∨ narrow.greatest < value then
          refuse (.wrongValue (YamlScalar.foundInteger value) expected)
        else return value
      | none => wrongType event expected
    | _ => wrongType event expected

/-- One of some names. A tag can tell the name as well, and then there is no value. -/
def choice {α : Type} (expected : String) (choices : List (String × α)) : YamlReader α :=
  value fun event =>
    let tag? : Option String := match event with
      | .scalar properties .. | .sequenceStart properties | .mappingStart properties =>
        properties.tag.filter fun tag => tag.startsWith "!"
      | _ => none
    let choose (name : String) : YamlReader α :=
      match choices.lookup name with
      | some chosen => return chosen
      | none => refuse (.unknownVariant name (choices.map (·.1)))
    match tag?, event with
    | some tag, .scalar _ text style => do
      let chosen ← choose (if tag = "!" then tag else (tag.drop 1).toString)
      if style = ScalarStyle.plain && (text.isEmpty || YamlScalar.isNull text) then return chosen
      wrongType event "unit"
    | some tag, _ => do
      let _ ← choose (if tag = "!" then tag else (tag.drop 1).toString)
      wrongType event "unit"
    | none, .scalar _ text _ => choose text
    | none, _ => wrongType event expected

/-! ## Records -/

/-- A field of a record: how its value becomes part of a draft. -/
structure YamlField (δ : Type) where
  name : String
  read : YamlReader (δ → δ)

/-- Passes over a value, inside of so many collections. -/
def ignore : Nat → Nat → YamlReader Unit
  | 0, _ => return ()
  | rounds + 1, depth => do
    let (event, _) ← peek
    advance
    match event with
    | .sequenceStart _ | .mappingStart _ => ignore rounds (depth + 1)
    | .sequenceEnd | .mappingEnd => if 1 < depth then ignore rounds (depth - 1)
    | _ => if 0 < depth then ignore rounds depth

/-- Reads the fields of a record to its end. Others are passed over, and none may come
twice. -/
def fieldsOf {δ : Type} (fields : List (YamlField δ)) :
    Nat → List String → δ → YamlReader δ
  | 0, _, draft => return draft
  | rounds + 1, seen, draft => do
    let (event, _) ← peek
    if event = .mappingEnd then
      advance
      return draft
    let name ← textAs "field identifier"
    match fields.find? (·.name == name) with
    | none =>
      ignore ((← read).size + 1) 0
      fieldsOf fields rounds seen draft
    | some field =>
      if seen.contains name then refuse (.duplicateField name)
      let change ← withReader
        (fun source => { source with keys := source.keys ++ [name] }) field.read
      fieldsOf fields rounds (name :: seen) (change draft)

/-- A record. A value that is not written is a record without fields. -/
def record {δ α : Type} (expected : String) (fields : List (YamlField δ)) (empty : δ)
    (complete : δ → Except String α) : YamlReader α :=
  let close (draft : δ) : YamlReader α :=
    match complete draft with
    | .ok value => return value
    | .error name => refuse (.missingField name)
  value fun event => do
    match event with
    | .mappingStart _ => close (← fieldsOf fields ((← read).size + 1) [] empty)
    | .scalar _ text style =>
      if text.isEmpty && style = .plain then close empty else wrongType event expected
    | _ => wrongType event expected

/-- Reads the value that a text consists of. What is wrong with the value counts before
what is wrong after it. -/
def readText {α : Type} (reader : YamlReader α) (text : String) : Except YamlFault α := do
  let document := YamlDocument.ofText text
  let source : YamlSource := ⟨document.events, document.fault.getD .noValue, [], document.events.length⟩
  let (value, _) ← (reader.run source).run document.events
  if let some fault := document.fault then throw fault
  if !document.isOnly then throw .moreThanOneDocument
  return value

end YamlReader

end Countinghouse
