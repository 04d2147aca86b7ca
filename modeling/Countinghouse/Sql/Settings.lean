import Countinghouse.Event
import Countinghouse.Net.Url
import Countinghouse.Request.Query
import Countinghouse.Sql.Failure
import Countinghouse.Text.Debug

/-!
# Where a database is found

The place of a database is given as a `Url`, whose query holds further settings. What
cannot be used is noticed before anything is sent: `Sql.checkSettings` says whether a
locator can be used, setting by setting in the order in which they are written.
-/

namespace Countinghouse.Sql

/-- The ways to protect a connection. -/
def protections : List String :=
  ["disable", "allow", "prefer", "require", "verify-ca", "verify-full"]

/-- Passes when one setting can be used. A setting that is not known is passed over. -/
def checkSetting : String × String → Except SqlFailure Unit
  | (name, value) =>
    if name = "sslmode" ∨ name = "ssl-mode" then
      if protections.contains value.toLower then .ok ()
      else
        .error (.setting (.settings
          ("unknown value " ++ Debug.quote value ++ " for `ssl_mode`")))
    else if name = "port" then checkInteger .unsigned16 value
    else if name = "statement-cache-capacity" then checkInteger .unsigned64 value
    else if name = "hostaddr" then
      if (Address.parse? value.toList).isSome then .ok ()
      else .error (.settings "invalid IP address syntax")
    else .ok ()
where
  /-- Passes when a text is an integer in bounds. -/
  checkInteger (bounds : IntegerBounds) (value : String) : Except SqlFailure Unit :=
    match bounds.parse value.toList with
    | .ok _ => .ok ()
    | .error fault => .error (.settings fault.message)

/-- Passes when a locator can be used to find a database. -/
def checkSettings (locator : String) : Except SqlFailure Unit :=
  match Url.parse locator with
  | .error fault => .error (.settings fault.message)
  | .ok url => (Query.pairs (Utf8.encode url.query)).forM checkSetting

/-- What is logged once the first connection is made. -/
def connected : Event :=
  ⟨.info, "bank_api::db", "PostgreSQL connection pool established", []⟩

end Countinghouse.Sql
