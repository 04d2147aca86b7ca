import Countinghouse.Simulation.Files
import Countinghouse.Sql.Script
import Countinghouse.Startup.Platform

/-!
# A simulated machine

A `Machine` is what a bank can be started on with no help from outside: files, variables, a
clock that stands still, a database that follows a script, and all ports taken.
-/

namespace Countinghouse

/-- The state of a simulated machine. -/
structure Machine where
  files : FileTree
  «variables» : List (String × String)
  now : Instant
  database : Script
  /-- The lines shown, latest first. -/
  printed : List String
  /-- The lines of complaint, latest first. -/
  complaints : List String

namespace Machine

/-- Whether a host is one of the machine's own. -/
def isOwnHost (host : String) : Bool :=
  host == "localhost" || (Address.parse? host.toList).isSome

/-- What the machine does for a bank while it starts. -/
def platform : Platform (StateM Machine) where
  readFile path := return (← get).files.read path
  lookupVariable name := return (← get).«variables».lookup name
  now := return (← get).now
  appendFile path text := modify fun machine =>
    { machine with files := machine.files.append path text }
  print line := modify fun machine => { machine with printed := line :: machine.printed }
  complain line := modify fun machine =>
    { machine with complaints := line :: machine.complaints }
  connect _ := do
    let (connected, database) := (← get).database.take .connect
    modify fun machine => { machine with database }
    return connected.map fun _ => ()
  tell exchange := do
    let (answer, database) := (← get).database.serve exchange
    modify fun machine => { machine with database }
    return answer
  listen settings :=
    return .error (if isOwnHost settings.host then .addressInUse else .unknownHost)
  serve _ := return ()

/-- Starts a bank. Whatever ends the start is the last complaint. -/
def start (version : String) (arguments : Arguments) (machine : Machine) :
    Except StartFault Unit × Machine :=
  let (result, after) := (Startup.run platform version arguments).run.run machine
  match result with
  | .ok () => (.ok (), after)
  | .error fault =>
    (.error fault, { after with complaints := fault.report :: after.complaints })

end Machine

end Countinghouse
