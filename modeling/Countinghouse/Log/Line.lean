import Countinghouse.Configuration.Basic
import Countinghouse.Event
import Countinghouse.Time.Instant

/-!
# Lines of the log

An event becomes one line, in plain text or in JSON. Lines are added to a file whose name
tells the day or the hour it was begun in.
-/

namespace Countinghouse

/-- The moment of an event, with six digits of the fraction of its second. -/
def Instant.renderMicroseconds (instant : Instant) : String :=
  instant.renderSeconds ++ "." ++ padded 6 (instant.subsecond.toNat / 1000) ++ "Z"

/-- The text of a field. -/
def Field.render : Field → String
  | .int value => toString value
  | .text value => value

namespace Event

/-- The line of an event in plain text. -/
def textLine (time : Instant) (event : Event) : String :=
  let level := event.level.name
  let margin := String.ofList (List.replicate (5 - level.length) ' ')
  let fields := event.fields.map fun (name, value) => " " ++ name ++ "=" ++ value.render
  time.renderMicroseconds ++ " " ++ margin ++ level ++ " " ++ event.message ++ String.join fields

/-- The line of an event in JSON. -/
def jsonLine (time : Instant) (event : Event) : String :=
  let fields := event.fields.map fun (name, value) => (name, value.toJson)
  (Json.object [
    ("timestamp", .text time.renderMicroseconds),
    ("level", .text event.level.name),
    ("fields", .object (("message", .text event.message) :: fields)),
    ("target", .text event.target)]).render

end Event

namespace LogSettings

/-- The line of an event. -/
def line (settings : LogSettings) (time : Instant) (event : Event) : String :=
  if settings.useJson then event.jsonLine time else event.textLine time

/-- What the name of a log file says about when it was begun. A file without a name of its
own always has its day. -/
def period (settings : LogSettings) (time : Instant) : List String :=
  let stamp := time.renderSeconds
  match settings.rotation with
  | .hourly => [(stamp.take 10).toString ++ "-" ++ ((stamp.drop 11).take 2).toString]
  | .daily => [(stamp.take 10).toString]
  | .never => if settings.file.isEmpty then [(stamp.take 10).toString] else []

/-- The log file at a moment. -/
def path (settings : LogSettings) (time : Instant) : String :=
  let parts := [settings.file].filter (· != "") ++ settings.period time
  settings.directory ++ "/" ++ String.intercalate "." parts

end LogSettings

end Countinghouse
