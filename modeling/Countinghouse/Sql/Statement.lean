import Countinghouse.Ledger.Account
import Countinghouse.Session

/-!
# Statements sent to a database

A `Statement` is one of the statements that the bank sends to its database server, as a
value: what it is about, not how it is written. `Statement.text` is the wording that the
server reads, with numbered places for values, and `Statement.params` are the values that
take those places.

Identifiers other than numbers and points in time travel as their written form.
-/

namespace Countinghouse

/-- A value that travels between the bank and its database server. -/
inductive SqlValue where
  | null
  | bool (value : Bool)
  | int (value : Int)
  | text (value : String)
  deriving DecidableEq, Repr, Inhabited

namespace SqlValue

/-- A text that may be absent. -/
def ofText? : Option String → SqlValue
  | some value => .text value
  | none => .null

end SqlValue

/-- A part of the schema, to be created where it is missing. -/
inductive SchemaPart where
  /-- A table, with the clauses that define it. -/
  | table (name : String) (clauses : List String)
  /-- An index over one column of a table, named after both. -/
  | index (tableName column : String)
  deriving DecidableEq, Repr

namespace SchemaPart

/-- The statement that creates a part of the schema. -/
def text : SchemaPart → String
  | .table name clauses =>
    "CREATE TABLE IF NOT EXISTS " ++ name ++ " ( " ++ String.intercalate ", " clauses ++ " )"
  | .index tableName column =>
    "CREATE INDEX IF NOT EXISTS " ++ tableName ++ "_" ++ column ++ "_idx ON " ++ tableName
      ++ " (" ++ column ++ ")"

end SchemaPart

/-- A statement that the bank sends to its database server. -/
inductive Statement where
  | insertUser (user : NewUser)
  | selectUser (username : String)
  | updateUser (change : UserChange)
  | insertAccount (account : NewAccount)
  | selectAccount (id : Int)
  /-- The accounts of an owner that are deleted, or those that are not. -/
  | selectAccounts (owner : String) (isDeleted : Bool)
  | markAccount (id : Int) (isDeleted : Bool)
  /-- Adds to the balance of an account that is not deleted. -/
  | addBalance (id delta : Int)
  | insertTransfer (source destination amount : Int)
  | insertEntry (accountId amount : Int)
  | selectTransfer (id : Int)
  | selectEntry (id : Int)
  | selectTransfers (accountId limit offset : Int)
  | insertSession (session : NewSession)
  | selectSession (id : Uuid)
  | blockSession (id : Uuid)
  /-- Asks for nothing but an answer. -/
  | probe
  | create (part : SchemaPart)
  deriving DecidableEq, Repr

namespace Statement

/-- The columns of a user. -/
def userColumns : String :=
  "username, hashed_password, full_name, email, password_changed_at, created_at"

/-- The columns of an account. -/
def accountColumns : String := "id, owner, balance, currency, is_deleted, created_at"

/-- The columns of a transfer. -/
def transferColumns : String := "id, from_account_id, to_account_id, amount, created_at"

/-- The columns of an entry. -/
def entryColumns : String := "id, account_id, amount, created_at"

/-- The columns of a session. -/
def sessionColumns : String :=
  "id, username, refresh_token, user_agent, client_ip, is_blocked, expires_at, created_at"

/-- The wording of a statement. -/
def text : Statement → String
  | .insertUser _ =>
    "INSERT INTO users (username, hashed_password, full_name, email) VALUES ($1, $2, $3, $4) "
      ++ "RETURNING " ++ userColumns
  | .selectUser _ => "SELECT " ++ userColumns ++ " FROM users WHERE username = $1"
  | .updateUser _ =>
    "UPDATE users SET full_name = COALESCE($2, full_name), email = COALESCE($3, email), "
      ++ "hashed_password = COALESCE($4, hashed_password), "
      ++ "password_changed_at = CASE WHEN $4 IS NULL THEN password_changed_at ELSE NOW() END "
      ++ "WHERE username = $1 RETURNING " ++ userColumns
  | .insertAccount _ =>
    "INSERT INTO accounts (owner, balance, currency) VALUES ($1, $2, $3) RETURNING "
      ++ accountColumns
  | .selectAccount _ => "SELECT " ++ accountColumns ++ " FROM accounts WHERE id = $1"
  | .selectAccounts _ isDeleted =>
    "SELECT " ++ accountColumns ++ " FROM accounts WHERE owner = $1 AND is_deleted = "
      ++ (if isDeleted then "TRUE" else "FALSE") ++ " ORDER BY id"
  | .markAccount .. => "UPDATE accounts SET is_deleted = $2 WHERE id = $1"
  | .addBalance .. =>
    "UPDATE accounts SET balance = balance + $2 WHERE id = $1 AND is_deleted = FALSE RETURNING "
      ++ accountColumns
  | .insertTransfer .. =>
    "INSERT INTO transfers (from_account_id, to_account_id, amount) VALUES ($1, $2, $3) "
      ++ "RETURNING " ++ transferColumns
  | .insertEntry .. =>
    "INSERT INTO entries (account_id, amount) VALUES ($1, $2) RETURNING " ++ entryColumns
  | .selectTransfer _ => "SELECT " ++ transferColumns ++ " FROM transfers WHERE id = $1"
  | .selectEntry _ => "SELECT " ++ entryColumns ++ " FROM entries WHERE id = $1"
  | .selectTransfers .. =>
    "SELECT " ++ transferColumns
      ++ " FROM transfers WHERE from_account_id = $1 OR to_account_id = $1 "
      ++ "ORDER BY created_at DESC, id DESC LIMIT $2 OFFSET $3"
  | .insertSession _ =>
    "INSERT INTO sessions (id, username, refresh_token, user_agent, client_ip, expires_at) "
      ++ "VALUES ($1, $2, $3, $4, $5, $6) RETURNING " ++ sessionColumns
  | .selectSession _ => "SELECT " ++ sessionColumns ++ " FROM sessions WHERE id = $1"
  | .blockSession _ => "UPDATE sessions SET is_blocked = TRUE WHERE id = $1"
  | .probe => "SELECT 1"
  | .create part => part.text

/-- The values that take the numbered places of a statement. -/
def params : Statement → List SqlValue
  | .insertUser user =>
    [.text user.username, .text user.hashedPassword, .text user.fullName, .text user.email]
  | .selectUser username => [.text username]
  | .updateUser change =>
    [.text change.username, .ofText? change.fullName, .ofText? change.email,
      .ofText? change.hashedPassword]
  | .insertAccount account =>
    [.text account.owner, .int account.balance, .text account.currency.code]
  | .selectAccounts owner _ => [.text owner]
  | .selectAccount id | .selectTransfer id | .selectEntry id => [.int id]
  | .markAccount id isDeleted => [.int id, .bool isDeleted]
  | .addBalance id delta => [.int id, .int delta]
  | .insertTransfer source destination amount => [.int source, .int destination, .int amount]
  | .insertEntry accountId amount => [.int accountId, .int amount]
  | .selectTransfers accountId limit offset => [.int accountId, .int limit, .int offset]
  | .insertSession session =>
    [.text session.id.render, .text session.username, .text session.refreshToken,
      .text session.client.userAgent, .text session.client.clientIp,
      .text session.expiresAt.render]
  | .selectSession id | .blockSession id => [.text id.render]
  | .probe | .create _ => []

end Statement

end Countinghouse
