import Countinghouse.Configuration.Basic
import Countinghouse.Yaml.Reader

/-!
# Reading a configuration

A configuration is written in YAML, one file for each environment the bank runs in.
-/

namespace Countinghouse

/-- A configuration of which not everything was read yet. -/
structure ConfigurationDraft where
  level : Option String := none
  directory : Option String := none
  file : Option String := none
  useJson : Option Bool := none
  rotation : Option LogRotation := none
  gateway : Option GatewaySettings := none
  database : Option String := none
  token : Option TokenSettings := none
  startingBalance : Option Int := none

namespace Configuration

open YamlReader

/-- The value of a field that has to be there. -/
def required {α : Type} (name : String) : Option α → Except String α
  | some value => .ok value
  | none => .error name

/-- An integer from zero on. -/
def natural (bounds : IntegerBounds) (expected : String) : YamlReader Nat := do
  return (← integer .unsigned64 bounds expected).toNat

/-- Where the gateway listens. -/
def gatewaySettings : YamlReader GatewaySettings :=
  record "struct GatewayConfig"
    [⟨"host", do let host ← text; return fun draft => (some host, draft.2)⟩,
      ⟨"port", do
        let port ← natural .unsigned16 "u16"
        return fun draft => (draft.1, some port)⟩]
    ((none, none) : Option String × Option Nat)
    fun draft => return ⟨← required "host" draft.1, ← required "port" draft.2⟩

/-- The key and the lifetimes of tokens. -/
def tokenSettings : YamlReader TokenSettings :=
  record "struct TokenConfig"
    [⟨"symmetric_key", do
        let key ← text
        return fun draft => (some key, draft.2)⟩,
      ⟨"access_token_duration_secs", do
        let seconds ← natural .unsigned64 "u64"
        return fun draft => (draft.1, seconds, draft.2.2)⟩,
      ⟨"refresh_token_duration_secs", do
        let seconds ← natural .unsigned64 "u64"
        return fun draft => (draft.1, draft.2.1, seconds)⟩]
    ((none, usualAccessSeconds, usualRefreshSeconds) : Option String × Nat × Nat)
    fun draft => return ⟨← required "symmetric_key" draft.1, draft.2.1, draft.2.2⟩

/-- The balance of a new account. -/
def startingBalanceSetting : YamlReader Int :=
  record "struct AccountConfig"
    [⟨"starting_balance", do
        let balance ← integer .signed64 .signed64 "i64"
        return fun _ => some balance⟩]
    none (required "starting_balance")

/-- The fields of a configuration. -/
def fields : List (YamlField ConfigurationDraft) :=
  [⟨"log_level", do let level ← text; return fun draft => { draft with level }⟩,
    ⟨"log_dir", do let directory ← text; return fun draft => { draft with directory }⟩,
    ⟨"log_file", do let file ← text; return fun draft => { draft with file }⟩,
    ⟨"use_json", do let useJson ← truth; return fun draft => { draft with useJson }⟩,
    ⟨"rotation", do
      let rotation ← choice "enum LogRotation" LogRotation.all
      return fun draft => { draft with rotation }⟩,
    ⟨"gateway", do let gateway ← gatewaySettings; return fun draft => { draft with gateway }⟩,
    ⟨"postgres_url", do let database ← text; return fun draft => { draft with database }⟩,
    ⟨"token", do let token ← tokenSettings; return fun draft => { draft with token }⟩,
    ⟨"account", do
      let startingBalance ← startingBalanceSetting
      return fun draft => { draft with startingBalance }⟩]

/-- The configuration that a draft amounts to. The first field that is missing is told. -/
def ofDraft (draft : ConfigurationDraft) : Except String Configuration := do
  let log := {
    level := ← required "log_level" draft.level
    directory := ← required "log_dir" draft.directory
    file := ← required "log_file" draft.file
    useJson := ← required "use_json" draft.useJson
    rotation := ← required "rotation" draft.rotation }
  return {
    log
    gateway := ← required "gateway" draft.gateway
    database := ← required "postgres_url" draft.database
    token := ← required "token" draft.token
    startingBalance := draft.startingBalance.getD usualStartingBalance }

/-- The configuration that a text tells, when it can be used. -/
def ofYaml (text : String) : Except ConfigurationFault Configuration := do
  let configuration ←
    (YamlReader.readText (record "struct AppConfig" fields {} ofDraft) text).mapError .notYaml
  configuration.check
  return configuration

/-- The file with the configuration of an environment. -/
def path (environment : String) : String := "config/" ++ environment ++ ".yaml"

/-- The configuration of an environment, out of what its file holds. -/
def ofFile (environment : String) (content : Except FileFault String) :
    Except ConfigurationFault Configuration :=
  match content with
  | .ok text => ofYaml text
  | .error fault => .error (.unreadable (path environment) fault)

end Configuration

end Countinghouse
