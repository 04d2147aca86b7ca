import Countinghouse.Text.Integer

/-!
# The command line

The bank is started with the name of an environment and, where the configured port does not
suit, another one: `--env prod --port 9090`. Whatever else is given has no meaning.
-/

namespace Countinghouse

/-- The arguments the program is started with. -/
abbrev Arguments := List String

namespace Arguments

/-- What comes right after the first of some names that anything comes after. -/
def valueOf? (names : List String) : Arguments → Option String
  | name :: value :: rest =>
    if names.contains name then some value else valueOf? names (value :: rest)
  | _ => none

/-- The environment to run in. -/
def environment (arguments : Arguments) : String :=
  (arguments.valueOf? ["--env", "-e"]).getD "dev"

/-- The port to listen on in place of the configured one. What is no port is passed over. -/
def port? (arguments : Arguments) : Option Nat := do
  let text ← arguments.valueOf? ["--port"]
  match IntegerBounds.unsigned16.parse text.toList with
  | .ok port => some port.toNat
  | .error _ => none

end Arguments

end Countinghouse
