import Countinghouse.Event
import Countinghouse.Text.Integer

/-!
# Which events are logged

A `LogFilter` is written as directives with commas between them, such as
`warn,bank_api=info`. A directive says how much detail is let through from the parts of the
program whose names begin with its target. Of the directives that speak about an event, the
most specific one decides; an event that none speaks about is not logged.
-/

namespace Countinghouse

/-- How much detail is let through: nothing, or everything up to a level. -/
abbrev LogLimit := Option Level

namespace LogLimit

/-- The limits with their names. -/
def names : List (String × LogLimit) :=
  [("off", none), ("error", some .error), ("warn", some .warn), ("info", some .info),
    ("debug", some .debug), ("trace", some .trace)]

/-- The limit that a number or a name stands for; letters may be of either case. -/
def ofText? (text : String) : Option LogLimit :=
  match IntegerBounds.unsigned64.parse text.toList with
  | .ok number => (names[number.toNat]?).map (·.2)
  | .error _ => names.lookup text.toLower

/-- Whether events of a level are let through. -/
def allows (level : Level) : LogLimit → Bool
  | none => false
  | some greatest => level.rank ≤ greatest.rank

end LogLimit

/-- Why a directive cannot be read. -/
inductive DirectiveFault where
  | malformed
  | badLimit
  deriving DecidableEq, Repr

/-- The text of a fault. -/
def DirectiveFault.message : DirectiveFault → String
  | .malformed => "invalid filter directive"
  | .badLimit =>
    "error parsing level filter: expected one of \"off\", \"error\", \"warn\", \"info\", "
      ++ "\"debug\", \"trace\", or a number 0-5"

/-- What part of the events a directive is about, and how much of it is let through. -/
structure Directive where
  /-- How the names of the parts begin that the directive is about. -/
  target : String
  /-- Whether the directive is only about what happens inside of an activity. -/
  isInside : Bool
  /-- Fields that an event has to have, and whether a value is asked for. -/
  fields : List (String × Bool)
  limit : LogLimit
  deriving DecidableEq, Repr

namespace Directive

/-- A directive about every event. -/
def general (limit : LogLimit) : Directive := ⟨"", false, [], limit⟩

/-- The limit after an equals sign. All is let through when none is written. -/
def limitAfter (text : List Char) : Except DirectiveFault LogLimit :=
  if text.isEmpty then .ok (some .trace)
  else
    match LogLimit.ofText? (String.ofList text) with
    | some limit => .ok limit
    | none => .error .badLimit

/-- A field with or without a value. -/
def fieldOf (text : List Char) : String × Bool :=
  (String.ofList (text.takeWhile (· != '=')), text.contains '=')

/-- The activity in brackets, with the field that is asked for in braces. The number is the
place after what was read. -/
def activity (text shape : List Char) (start : Nat) :
    Except DirectiveFault (Bool × List (String × Bool) × Nat) :=
  let name := (shape.drop start).takeWhile fun character =>
    character != ']' && character != '\x7b'
  let stop := start + name.length
  match shape[stop]? with
  | some ']' => .ok (true, [], stop + 1)
  | some _ =>
    let field := (shape.drop (stop + 1)).takeWhile (· != '\x7d')
    let after := stop + 1 + field.length
    if field.isEmpty || shape[after + 1]? != some ']' then .error .malformed
    else .ok (stop != start, [fieldOf ((text.drop (stop + 1)).take field.length)], after + 2)
  | none => .error .malformed

/-- Reads a directive. Blanks around it are passed over when its parts are told apart, but
the parts are cut out at the same places of the whole text. -/
def parse (source : String) : Except DirectiveFault Directive := do
  let text := source.toList
  let shape := source.trimAscii.toString.toList
  let head := shape.takeWhile fun character => character != '=' && character != '['
  let target := String.ofList (text.take head.length)
  let isKnown (first : Char) : Bool :=
    first.isAlphanum || 127 < first.toNat || ['-', ':', '_'].contains first
  if !(head.head?.all isKnown) || shape.isEmpty then throw .malformed
  match shape[head.length]? with
  | none =>
    match LogLimit.ofText? source with
    | some limit => return general limit
    | none => return ⟨source, false, [], some .trace⟩
  | some '[' =>
    let (isInside, fields, after) ← activity text shape (head.length + 1)
    match shape[after]? with
    | none => return ⟨target, isInside, fields, some .trace⟩
    | some '=' => return ⟨target, isInside, fields, ← limitAfter (text.drop (after + 1))⟩
    | some _ => throw .malformed
  | some _ =>
    if head.isEmpty then throw .malformed
    return ⟨target, false, [], ← limitAfter (text.drop (head.length + 1))⟩

/-- Whether a directive speaks about an event. -/
def speaksAbout (directive : Directive) (event : Event) : Bool :=
  !directive.isInside && event.target.startsWith directive.target
    && directive.fields.all fun (name, hasValue) =>
      !hasValue && (name == "message" || (event.field? name).isSome)

/-- Whether a directive is more specific than another one about the same event: by the
length of its target, then by its fields. -/
def isMoreSpecific (directive other : Directive) : Bool :=
  let fieldNames (directive : Directive) := directive.fields.map (·.1)
  if directive.target.utf8ByteSize != other.target.utf8ByteSize then
    other.target.utf8ByteSize < directive.target.utf8ByteSize
  else if directive.fields.length != other.fields.length then
    other.fields.length < directive.fields.length
  else fieldNames other < fieldNames directive

end Directive

/-- Decides which events are logged. -/
structure LogFilter where
  directives : List Directive
  deriving DecidableEq, Repr

namespace LogFilter

/-- The directive that decides about an event. Of two that are equally specific it is the
later one. -/
def deciding? (filter : LogFilter) (event : Event) : Option Directive :=
  (filter.directives.filter (·.speaksAbout event)).foldl
    (fun chosen? directive =>
      match chosen? with
      | some chosen => some (if chosen.isMoreSpecific directive then chosen else directive)
      | none => some directive) none

/-- Whether an event is logged. -/
def allows (filter : LogFilter) (event : Event) : Bool :=
  match filter.deciding? event with
  | some directive => directive.limit.allows event.level
  | none => false

/-- The directives in a text. -/
def parts (text : String) : List String := (text.splitOn ",").filter (· != "")

/-- Reads a filter, when every directive can be read. -/
def parse (text : String) : Except DirectiveFault LogFilter :=
  LogFilter.mk <$> (parts text).mapM Directive.parse

/-- Reads what can be read of a filter, and tells what cannot. -/
def parseWhatIsKnown (text : String) : LogFilter × List String :=
  (parts text).foldl
    (fun (filter, refused) part =>
      match Directive.parse part with
      | .ok directive => (⟨filter.directives ++ [directive]⟩, refused)
      | .error fault =>
        (filter, refused ++ ["ignoring \x60" ++ part ++ "\x60: " ++ fault.message]))
    (⟨[]⟩, [])

/-- The filter when none is asked for: the database's client says much, so only its
warnings are logged. -/
def usual (level : String) : LogFilter × List String :=
  parseWhatIsKnown (level ++ ",sqlx=warn")

/-- The filter that is asked for, or the usual one when it cannot be read. -/
def choose (asked : Option String) (level : String) : LogFilter × List String :=
  match asked.map parse with
  | some (.ok filter) => (filter, [])
  | _ => usual level

end LogFilter

end Countinghouse
