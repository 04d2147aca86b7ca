import Countinghouse.Configuration.Basic
import Countinghouse.Failure

/-!
# Why the bank does not start

A `StartFault` says at which point the start ended. Its report names what lies behind it,
one cause to a line.
-/

namespace Countinghouse

/-- Why no connections are accepted. -/
inductive ListenFault where
  | addressInUse
  | addressNotAvailable
  | unknownHost
  deriving DecidableEq, Repr

/-- The text of a fault. -/
def ListenFault.message : ListenFault → String
  | .addressInUse => "Address already in use (os error 98)"
  | .addressNotAvailable => "Cannot assign requested address (os error 99)"
  | .unknownHost => "failed to lookup address information: Name or service not known"

/-- Where connections are accepted. -/
def GatewaySettings.address (settings : GatewaySettings) : String :=
  settings.host ++ ":" ++ toString settings.port

/-- Why the bank does not start. -/
inductive StartFault where
  | configuration (fault : ConfigurationFault)
  | database (failure : SqlFailure)
  | schema (failure : SqlFailure)
  | token (error : BankError)
  | gateway (settings : GatewaySettings) (fault : ListenFault)

namespace StartFault

/-- The text of a fault. -/
def message : StartFault → String
  | .configuration fault => fault.message
  | .database _ => "Failed to connect to PostgreSQL"
  | .schema _ => "Failed to initialize schema"
  | .token _ => "Invalid token settings"
  | .gateway settings _ => "Failed to bind to " ++ settings.address

/-- The texts of what lies behind a fault, the nearest first. -/
def causes : StartFault → List String
  | .configuration fault => fault.causes
  | .database failure | .schema failure => failure.message :: failure.causes
  | .token error => [error.message]
  | .gateway _ fault => [fault.message]

/-- A text behind a margin. Its further lines stand below the first. -/
def indented (margin text : String) : String :=
  margin ++ text.replace "\n" ("\n" ++ String.ofList (List.replicate margin.length ' '))

/-- The lines about the causes. They are numbered when there are several. -/
def causeLines : List String → List String
  | [cause] => [indented "    " cause]
  | causes => causes.zipIdx.map fun (cause, index) =>
    let number := toString index
    indented (String.ofList (List.replicate (5 - number.length) ' ') ++ number ++ ": ") cause

/-- What is shown to whoever started the bank. -/
def report (fault : StartFault) : String :=
  let about := "Error: " ++ fault.message
  match fault.causes with
  | [] => about
  | causes => String.intercalate "\n" (about :: "" :: "Caused by:" :: causeLines causes)

end StartFault

end Countinghouse
