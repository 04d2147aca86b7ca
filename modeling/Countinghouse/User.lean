import Countinghouse.Json.Value
import Countinghouse.Time.Instant

/-!
# Users

A user is registered under a username that never changes. The password is kept only
as a hash, and no form a user is shown in carries the hash.
-/

namespace Countinghouse

/-- A registered user. -/
structure User where
  username : String
  hashedPassword : String
  fullName : String
  email : String
  passwordChangedAt : Instant
  createdAt : Instant
  deriving DecidableEq, Repr, Inhabited

/-- What registering a user stores. -/
structure NewUser where
  username : String
  hashedPassword : String
  fullName : String
  email : String
  deriving DecidableEq, Repr, Inhabited

/-- A change to a stored user; a field that is absent stays as it is. -/
structure UserChange where
  username : String
  fullName : Option String
  email : Option String
  hashedPassword : Option String
  deriving DecidableEq, Repr, Inhabited

/-- A change to a profile as its owner asks for it. A new password needs the old one. -/
structure ProfileUpdate where
  fullName : Option String
  email : Option String
  oldPassword : Option String
  newPassword : Option String
  deriving DecidableEq, Repr, Inhabited

namespace User

/-- The form a user is shown in. -/
def toJson (user : User) : Json :=
  .object [
    ("username", .text user.username),
    ("full_name", .text user.fullName),
    ("email", .text user.email),
    ("created_at", .text user.createdAt.render),
    ("password_changed_at", .text user.passwordChangedAt.render)]

end User

end Countinghouse
