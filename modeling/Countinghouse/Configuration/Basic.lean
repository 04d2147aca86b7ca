import Countinghouse.Json.Value
import Countinghouse.Token.Authority
import Countinghouse.Yaml.Fault

/-!
# The configuration

What the bank is set up with, and the rules that keep a bank from being set up with a key
or with lifetimes of tokens that are not safe.
-/

namespace Countinghouse

/-- How often a new log file is begun. -/
inductive LogRotation where
  | hourly
  | daily
  | never
  deriving DecidableEq, Repr, Inhabited

namespace LogRotation

/-- The name of a rotation. -/
def name : LogRotation → String
  | .hourly => "hourly"
  | .daily => "daily"
  | .never => "never"

/-- Every rotation by name. -/
def all : List (String × LogRotation) :=
  [LogRotation.hourly, .daily, .never].map fun rotation => (rotation.name, rotation)

end LogRotation

/-- What is logged, and where. -/
structure LogSettings where
  level : String
  directory : String
  file : String
  useJson : Bool
  rotation : LogRotation
  deriving DecidableEq, Repr, Inhabited

/-- Where the gateway listens. -/
structure GatewaySettings where
  host : String
  port : Nat
  deriving DecidableEq, Repr, Inhabited

/-- What the bank is set up with. -/
structure Configuration where
  log : LogSettings
  gateway : GatewaySettings
  /-- Where the database is found. -/
  database : String
  token : TokenSettings
  /-- In minor units of an account's currency. -/
  startingBalance : Int
  deriving DecidableEq, Repr, Inhabited

/-- Why a file cannot be read. -/
inductive FileFault where
  | missing
  | directory
  | nameTooLong
  | underFile
  | notText
  deriving DecidableEq, Repr

/-- The text of a fault. -/
def FileFault.message : FileFault → String
  | .missing => "No such file or directory (os error 2)"
  | .directory => "Is a directory (os error 21)"
  | .nameTooLong => "File name too long (os error 36)"
  | .underFile => "Not a directory (os error 20)"
  | .notText => "stream did not contain valid UTF-8"

/-- Why a configuration cannot be used. -/
inductive ConfigurationFault where
  | unreadable (path : String) (fault : FileFault)
  | notYaml (fault : YamlFault)
  | shortKey (size : Nat)
  | badLifetime (name : String) (seconds : Nat)
  deriving DecidableEq, Repr

namespace Configuration

/-- The least number of bytes of a key. -/
def leastKeySize : Nat := 32

/-- The longest lifetime of a token, in seconds: ten years. -/
def longestLifetime : Nat := 10 * 365 * 24 * 60 * 60

/-- The lifetime of an access token when none is given, in seconds. -/
def usualAccessSeconds : Nat := 15 * 60

/-- The lifetime of a refresh token when none is given, in seconds. -/
def usualRefreshSeconds : Nat := 24 * 60 * 60

/-- The balance of a new account when none is given. -/
def usualStartingBalance : Int := 1000

end Configuration

namespace ConfigurationFault

/-- The text of a fault. -/
def message : ConfigurationFault → String
  | .unreadable path _ => "Failed to read config file: " ++ path
  | .notYaml _ => "Failed to parse config yaml"
  | .shortKey size =>
    "token.symmetric_key must be at least " ++ toString Configuration.leastKeySize
      ++ " bytes, got " ++ toString size
  | .badLifetime name seconds =>
    "token." ++ name ++ " must be between 1 and " ++ toString Configuration.longestLifetime
      ++ " seconds, got " ++ toString seconds

/-- The texts of what lies behind a fault. -/
def causes : ConfigurationFault → List String
  | .unreadable _ fault => [fault.message]
  | .notYaml fault => [fault.message]
  | .shortKey _ | .badLifetime .. => []

end ConfigurationFault

namespace Configuration

/-- Passes when the lifetime of a token is in bounds. -/
def checkLifetime (name : String) (seconds : Nat) : Except ConfigurationFault Unit :=
  if 1 ≤ seconds ∧ seconds ≤ longestLifetime then .ok () else .error (.badLifetime name seconds)

/-- Passes when a configuration can be used. The key is looked at first, then the lifetime
of access tokens. -/
def check (configuration : Configuration) : Except ConfigurationFault Unit := do
  let token := configuration.token
  if token.key.utf8ByteSize < leastKeySize then throw (.shortKey token.key.utf8ByteSize)
  checkLifetime "access_token_duration_secs" token.accessSeconds
  checkLifetime "refresh_token_duration_secs" token.refreshSeconds

/-- The form a configuration is shown in. -/
def toJson (configuration : Configuration) : Json :=
  .object [
    ("log_level", .text configuration.log.level),
    ("log_dir", .text configuration.log.directory),
    ("log_file", .text configuration.log.file),
    ("use_json", .bool configuration.log.useJson),
    ("rotation", .text configuration.log.rotation.name),
    ("gateway", .object [
      ("host", .text configuration.gateway.host),
      ("port", .int configuration.gateway.port)]),
    ("postgres_url", .text configuration.database),
    ("token", .object [
      ("symmetric_key", .text configuration.token.key),
      ("access_token_duration_secs", .int configuration.token.accessSeconds),
      ("refresh_token_duration_secs", .int configuration.token.refreshSeconds)]),
    ("account", .object [("starting_balance", .int configuration.startingBalance)])]

end Configuration

end Countinghouse
