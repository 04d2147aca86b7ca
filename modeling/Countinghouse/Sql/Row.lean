import Countinghouse.Ledger.Transfer
import Countinghouse.Sql.Dialog

/-!
# Rows as records

A `RowReader` makes a record of a row. Columns are read one after another in the order in
which the record lists its fields, and the first one that cannot be read is the failure.
A column that is missing counts as one without a value.
-/

namespace Countinghouse

/-- Reads something from a row. -/
abbrev RowReader (α : Type) := ReaderT SqlRow (Except SqlFailure) α

namespace RowReader

/-- The value of a column; none is a failure. -/
def column (name : String) : RowReader SqlValue := do
  match (← read).find? (·.1 == name) with
  | none | some (_, .null) => throw (.nullColumn name)
  | some (_, value) => return value

/-- A column of whole numbers. -/
def integer (name : String) : RowReader Int := do
  match ← column name with
  | .int value => return value
  | _ => throw (.unexpectedData name)

/-- A column of texts. -/
def text (name : String) : RowReader String := do
  match ← column name with
  | .text value => return value
  | _ => throw (.unexpectedData name)

/-- A column of truth values. -/
def truth (name : String) : RowReader Bool := do
  match ← column name with
  | .bool value => return value
  | _ => throw (.unexpectedData name)

/-- A column of identifiers. -/
def identifier (name : String) : RowReader Uuid := do
  match Uuid.parse? (← text name) with
  | some id => return id
  | none => throw (.unexpectedData name)

/-- A column of points in time. -/
def instant (name : String) : RowReader Instant := do
  match Instant.parse? (← text name) with
  | some instant => return instant
  | none => throw (.unexpectedData name)

/-- A column of currency codes. -/
def currency (name : String) : RowReader Currency := do
  match Currency.ofCode? (← text name) with
  | some currency => return currency
  | none => throw .unknownCurrency

/-- A user. -/
def user : RowReader User :=
  return ⟨← text "username", ← text "hashed_password", ← text "full_name", ← text "email",
    ← instant "password_changed_at", ← instant "created_at"⟩

/-- An account. -/
def account : RowReader Account :=
  return ⟨← integer "id", ← text "owner", ← integer "balance", ← currency "currency",
    ← truth "is_deleted", ← instant "created_at"⟩

/-- A transfer. -/
def transfer : RowReader Transfer :=
  return ⟨← integer "id", ← integer "from_account_id", ← integer "to_account_id",
    ← integer "amount", ← instant "created_at"⟩

/-- An entry. -/
def entry : RowReader Entry :=
  return ⟨← integer "id", ← integer "account_id", ← integer "amount", ← instant "created_at"⟩

/-- A session. -/
def session : RowReader Session :=
  return ⟨← identifier "id", ← text "username", ← text "refresh_token",
    ⟨← text "user_agent", ← text "client_ip"⟩, ← truth "is_blocked", ← instant "expires_at",
    ← instant "created_at"⟩

end RowReader

namespace Query

/-- A result of reading; what cannot be read fails the query. -/
def ofRead {α : Type} (result : Except SqlFailure α) : Query α :=
  ExceptT.mk (pure (result.mapError .ofSql))

/-- The first row of a statement's result. -/
def fetch? {α : Type} (reader : RowReader α) (statement : Statement) : Query (Option α) := do
  match (← execute statement).rows with
  | [] => return none
  | row :: _ => return some (← ofRead (reader.run row))

/-- The first row of a statement's result, which has to have one. -/
def fetch {α : Type} (reader : RowReader α) (statement : Statement) : Query α := do
  match ← fetch? reader statement with
  | some record => return record
  | none => throw (.ofSql .rowNotFound)

/-- All rows of a statement's result. -/
def fetchAll {α : Type} (reader : RowReader α) (statement : Statement) : Query (List α) := do
  ofRead ((← execute statement).rows.mapM reader.run)

end Query

end Countinghouse
