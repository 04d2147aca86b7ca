import Countinghouse.Sql.Database

/-!
# Users on a database server

How a database server executes the statement that changes a user. It looks for rows of that name,
and sets what the statement gives a value for. That no two users have one email is checked over the
rows as they would be, so it is of no account what a statement asks for that finds no row.
-/

namespace Countinghouse

/-- A user with the columns of its table. -/
def User.row (user : User) : SqlRow :=
  [("username", .text user.username), ("hashed_password", .text user.hashedPassword),
    ("full_name", .text user.fullName), ("email", .text user.email),
    ("password_changed_at", .text user.passwordChangedAt.render),
    ("created_at", .text user.createdAt.render)]

namespace Database

/-- A row with the values of a change. What is null there stays as it is, and the time of the
password goes with the password. -/
def assign (now : Instant) (change : UserChange) (row : User) : User :=
  { row with
    fullName := change.fullName.getD row.fullName
    email := change.email.getD row.email
    hashedPassword := change.hashedPassword.getD row.hashedPassword
    passwordChangedAt :=
      match change.hashedPassword with
      | none => row.passwordChangedAt
      | some _ => now }

/-- Sets the values of a change in all rows of its username. -/
def updateUsers (now : Instant) (change : UserChange) (tables : Tables) :
    Except ServerError SqlOutcome × Tables :=
  let users := tables.users.map fun row =>
    if row.username == change.username then assign now change row else row
  if (users.map (·.email)).Nodup then
    let found := tables.users.filter (·.username == change.username)
    (.ok ⟨found.map fun row => (assign now change row).row, found.length⟩, { tables with users })
  else (.error (.keyViolated "users_email_key"), tables)

/-- Executes what is left to a parameter, if it changes users. -/
def executeUsers (others : Statement → Tables → Except ServerError SqlOutcome × Tables)
    (now : Instant) : Statement → Tables → Except ServerError SqlOutcome × Tables
  | .updateUser change, tables => updateUsers now change tables
  | statement, tables => others statement tables

end Database

end Countinghouse
