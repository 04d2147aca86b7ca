import Countinghouse.Json.Value

/-!
# Log events

An `Event` is one line of the log as a value: how serious it is, which part of the bank
reports it, a message, and named fields in the order they were given.
-/

namespace Countinghouse

/-- How serious an event is. -/
inductive Level where
  | error
  | warn
  | info
  | debug
  | trace
  deriving DecidableEq, Repr, Inhabited

namespace Level

/-- The name a level is logged under. -/
def name : Level → String
  | .error => "ERROR"
  | .warn => "WARN"
  | .info => "INFO"
  | .debug => "DEBUG"
  | .trace => "TRACE"

/-- More detail has a higher rank. -/
def rank : Level → Nat
  | .error => 1
  | .warn => 2
  | .info => 3
  | .debug => 4
  | .trace => 5

end Level

/-- The value of a field. -/
inductive Field where
  | int (value : Int)
  | text (value : String)
  deriving DecidableEq, Repr, Inhabited

namespace Field

/-- A field's value in JSON. -/
def toJson : Field → Json
  | .int value => .int value
  | .text value => .text value

end Field

/-- One event of the log. -/
structure Event where
  level : Level
  /-- The part of the bank that reports the event. -/
  target : String
  message : String
  fields : List (String × Field)
  deriving DecidableEq, Repr, Inhabited

namespace Event

/-- The value of a field, if the event has it. -/
def field? (event : Event) (name : String) : Option Field :=
  (event.fields.find? (·.1 == name)).map (·.2)

/-- An event that reports a failure of a component's action. -/
def warning (component action message : String) (fields : List (String × Field)) : Event :=
  ⟨.warn, "bank_api::" ++ component ++ "::service", message,
    ("component", .text component) :: ("action", .text action) :: fields⟩

/-- An event that reports what a component did. -/
def notice (component message : String) (fields : List (String × Field)) : Event :=
  ⟨.info, "bank_api::" ++ component ++ "::service", message, fields⟩

end Event

end Countinghouse
