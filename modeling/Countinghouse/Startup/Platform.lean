import Countinghouse.Configuration.Read
import Countinghouse.Gateway.Handler
import Countinghouse.Log.Filter
import Countinghouse.Log.Line
import Countinghouse.Password.Argon
import Countinghouse.Sql.Schema
import Countinghouse.Sql.Settings
import Countinghouse.Startup.Arguments
import Countinghouse.Startup.Fault

/-!
# Starting the bank

`Startup.run` brings up a bank on a `Platform`: it reads the configuration, opens the log,
connects to the database, creates what is missing of the schema and has requests answered.
The platform is a parameter, so the same program runs on a machine and on a simulated one.
What fails ends the start, and nothing after it happens.
-/

namespace Countinghouse

/-- What a machine does for the bank while it starts. -/
structure Platform (m : Type → Type) where
  readFile : String → m (Except FileFault String)
  /-- The value of a variable that was set for the program. -/
  lookupVariable : String → m (Option String)
  now : m Instant
  /-- Adds text at the end of a file; the file and its directory are made when missing. -/
  appendFile : String → String → m Unit
  /-- Shows a line to whoever started the program. -/
  print : String → m Unit
  /-- Shows a line of complaint. -/
  complain : String → m Unit
  /-- Connects to the database at a place. -/
  connect : String → m (Except SqlFailure Unit)
  /-- Tells the database something. -/
  tell : Exchange → m (Except SqlFailure SqlOutcome)
  /-- Accepts connections. -/
  listen : GatewaySettings → m (Except ListenFault Unit)
  /-- Has a gateway answer the requests that come in. -/
  serve : Gateway → m Unit

namespace Startup

variable {m : Type → Type} [Monad m]

/-- The part of a start that may end it. -/
abbrev Step (m : Type → Type) (α : Type) := ExceptT StartFault m α

/-- Adds an event to the log, and shows it when the log is plain text. -/
def report (platform : Platform m) (settings : LogSettings) (filter : LogFilter)
    (event : Event) : m Unit := do
  if filter.allows event then
    let time ← platform.now
    let line := settings.line time event
    platform.appendFile (settings.path time) (line ++ "\n")
    if !settings.useJson then platform.print line

/-- Opens the log and tells what is logged. -/
def openLog (platform : Platform m) (settings : LogSettings) : m LogFilter := do
  platform.appendFile (settings.path (← platform.now)) ""
  let (filter, complaints) := LogFilter.choose (← platform.lookupVariable "RUST_LOG") settings.level
  complaints.forM platform.complain
  return filter

/-- Goes on with a result, or ends the start. -/
def orEnd {ε α : Type} (toFault : ε → StartFault) (action : m (Except ε α)) : Step m α :=
  ExceptT.mk do return (← action).mapError toFault

/-- Holds a dialog with the database. -/
def hold {α : Type} (platform : Platform m) : Dialog α → m α
  | .done value => return value
  | .send exchange next => do hold platform (next (← platform.tell exchange))

/-- What is logged first. -/
def starting (environment version : String) : Event :=
  ⟨.info, "bank_api", "Starting Bank API",
    [("env", .text environment), ("version", .text version)]⟩

/-- What is logged once connections are accepted. -/
def listening (settings : GatewaySettings) : List Event :=
  [⟨.info, "bank_api::gateway", "Gateway listening", [("addr", .text settings.address)]⟩,
    ⟨.info, "bank_api::gateway", "API Docs: http://" ++ settings.address ++ "/docs", []⟩]

/-- The configuration to start with. -/
def configuration (platform : Platform m) (arguments : Arguments) : Step m Configuration := do
  let environment := arguments.environment
  let content ← platform.readFile (Configuration.path environment)
  let configuration ← orEnd .configuration (return Configuration.ofFile environment content)
  let port := arguments.port?.getD configuration.gateway.port
  return { configuration with gateway := { configuration.gateway with port } }

/-- Connects to the database and creates what is missing of the schema. -/
def prepareDatabase (platform : Platform m) (log : Event → m Unit) (place : String) :
    Step m Unit := do
  orEnd .database (return Sql.checkSettings place)
  orEnd .database (platform.connect place)
  log Sql.connected
  log Schema.started
  orEnd .schema (hold platform Schema.create)
  log Schema.finished

/-- Starts the bank. -/
def run (platform : Platform m) (version : String) (arguments : Arguments) : Step m Unit := do
  let configuration ← configuration platform arguments
  let filter ← (openLog platform configuration.log : m LogFilter)
  let log (event : Event) : m Unit := report platform configuration.log filter event
  log (starting arguments.environment version)
  prepareDatabase platform log configuration.database
  let authority ← orEnd .token (return Authority.make configuration.token)
  let bank : Bank :=
    ⟨authority, Argon2.scheme Argon2.usualCost, configuration.startingBalance⟩
  orEnd (.gateway configuration.gateway) (platform.listen configuration.gateway)
  (listening configuration.gateway).forM fun event => log event
  platform.serve ⟨bank, true, version⟩

end Startup

end Countinghouse
