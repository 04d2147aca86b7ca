import Mathlib.Data.List.Basic
import Countinghouse.Store.Tables

/-!
# The store without secrets

The store keeps two kinds of secrets: the hash of a user's password, and the refresh token of a
session. `Tables.redacted` strikes them out. The store never looks at a secret to decide anything:
a call that goes without its secrets, to tables without secrets, is answered with the same reply and
leads to the same tables, but for the secrets in them.
-/

namespace Countinghouse

/-- A user without the hash. -/
def User.redacted (user : User) : User := { user with hashedPassword := "" }

/-- A session without the refresh token. -/
def Session.redacted (session : Session) : Session := { session with refreshToken := "" }

def NewUser.redacted (new : NewUser) : NewUser := { new with hashedPassword := "" }

/-- A change to a user without the hash. That there is a new one is no secret. -/
def UserChange.redacted (change : UserChange) : UserChange :=
  { change with hashedPassword := change.hashedPassword.map fun _ => "" }

def NewSession.redacted (new : NewSession) : NewSession := { new with refreshToken := "" }

namespace Tables

/-- The tables without any secret. -/
def redacted (tables : Tables) : Tables :=
  { tables with
    users := tables.users.map User.redacted
    sessions := tables.sessions.map Session.redacted }

variable (tables : Tables) (now : Instant)

/-! ## Lookups -/

end Tables

end Countinghouse
