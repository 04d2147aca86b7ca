/-!
# Failures of a database connection

`SqlFailure` names what can go wrong between the bank and its database server: the
server answers with an error, a row does not hold what was asked for, or there is no
usable connection.
-/

namespace Countinghouse

/-- An error the database server answered with. -/
structure ServerError where
  /-- The five-character SQLSTATE, when the server sent one. -/
  code : Option String
  message : String
  /-- The constraint that was violated, when there is one. -/
  constraint : Option String
  deriving DecidableEq, Repr, Inhabited

/-- What can go wrong when a statement is executed. -/
inductive SqlFailure where
  | rowNotFound
  | poolTimedOut
  | poolClosed
  | workerCrashed
  | columnNotFound (name : String)
  | unexpectedData (text : String)
  /-- The settings of a connection cannot be used. -/
  | settings (text : String)
  /-- One of the settings of a connection cannot be used, for a reason of its own. -/
  | setting (failure : SqlFailure)
  /-- A column held no value where one was needed. -/
  | nullColumn (name : String)
  /-- A currency column held a code the bank has no currency for. -/
  | unknownCurrency
  | server (error : ServerError)
  deriving DecidableEq, Repr, Inhabited

namespace SqlFailure

/-- The text of a failure. -/
def message : SqlFailure → String
  | .rowNotFound => "no rows returned by a query that expected to return at least one row"
  | .poolTimedOut => "pool timed out while waiting for an open connection"
  | .poolClosed => "attempted to acquire a connection on a closed pool"
  | .workerCrashed => "attempted to communicate with a crashed background worker"
  | .columnNotFound name => "no column found for name: " ++ name
  | .unexpectedData text => "encountered unexpected or invalid data: " ++ text
  | .settings text => "error with configuration: " ++ text
  | .setting failure => "error with configuration: " ++ failure.message
  | .nullColumn name =>
    "error occurred while decoding column \"" ++ name
      ++ "\": unexpected null; try decoding as an `Option`"
  | .unknownCurrency =>
    "error occurred while decoding column currency: unprintable error: (unprintable type)"
  | .server error => "error returned from database: " ++ error.message

/-- The texts of what lies behind a failure, one behind the other. -/
def causes : SqlFailure → List String
  | .settings text => [text]
  | .setting failure => failure.message :: failure.causes
  | .server error => [error.message]
  | _ => []

end SqlFailure

end Countinghouse
