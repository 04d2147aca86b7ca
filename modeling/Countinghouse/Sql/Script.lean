import Countinghouse.Sql.Dialog

/-!
# A database server that follows a script

A `Script` stands in for a database server: it answers with what was prepared and keeps
what it was told. Each prepared answer is a `Cue` for one `Occasion`; what no cue is ready
for succeeds and finds nothing.
-/

namespace Countinghouse

/-- What a prepared answer can be given to. -/
inductive Occasion where
  /-- Someone connects. -/
  | connect
  | begin
  | commit
  | rollback
  | statement
  deriving DecidableEq, Repr

/-- The occasion that an exchange is. -/
def Exchange.occasion : Exchange → Occasion
  | .begin => .begin
  | .commit => .commit
  | .rollback => .rollback
  | .execute _ => .statement

/-- A prepared answer. -/
structure Cue where
  occasion : Occasion
  answer : Except SqlFailure SqlOutcome

/-- A server that answers with what was prepared. -/
structure Script where
  isOpen : Bool
  cues : List Cue
  /-- What the server was told, latest first. -/
  heard : List Exchange

namespace Script

/-- Takes the next cue, if it is for this occasion. Another one waits for its own. -/
def take (occasion : Occasion) (script : Script) : Except SqlFailure SqlOutcome × Script :=
  match script.cues with
  | cue :: rest =>
    if cue.occasion = occasion then (cue.answer, { script with cues := rest })
    else (.ok ⟨[], 0⟩, script)
  | [] => (.ok ⟨[], 0⟩, script)

/-- Answers one exchange. A server that is closed hears nothing. -/
def serve (exchange : Exchange) (script : Script) : Except SqlFailure SqlOutcome × Script :=
  if script.isOpen then
    { script with heard := exchange :: script.heard }.take exchange.occasion
  else (.error .poolClosed, script)

end Script

end Countinghouse
