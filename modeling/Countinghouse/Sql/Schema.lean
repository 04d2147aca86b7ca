import Countinghouse.Event
import Countinghouse.Sql.Dialog

/-!
# The schema of the database

`Schema.parts` lists the tables and indexes in an order in which each one refers only to
earlier ones. `Schema.create` creates those that are missing and stops at the first that
the server refuses.
-/

namespace Countinghouse.Schema

/-- A column that holds the moment its row was added. -/
def createdAt : String := "created_at TIMESTAMPTZ NOT NULL DEFAULT NOW()"

/-- The table of users. -/
def users : SchemaPart :=
  .table "users" [
    "username VARCHAR(16) PRIMARY KEY",
    "hashed_password TEXT NOT NULL",
    "full_name TEXT NOT NULL",
    "email TEXT NOT NULL UNIQUE",
    "password_changed_at TIMESTAMPTZ NOT NULL DEFAULT NOW()",
    createdAt]

/-- The table of accounts. An owner has one account per currency. -/
def accounts : SchemaPart :=
  .table "accounts" [
    "id BIGSERIAL PRIMARY KEY",
    "owner VARCHAR(16) NOT NULL REFERENCES users (username)",
    "balance BIGINT NOT NULL",
    "currency VARCHAR(3) NOT NULL",
    "is_deleted BOOLEAN NOT NULL DEFAULT FALSE",
    createdAt,
    "CONSTRAINT accounts_owner_currency_key UNIQUE (owner, currency)"]

/-- The table of entries. -/
def entries : SchemaPart :=
  .table "entries" [
    "id BIGSERIAL PRIMARY KEY",
    "account_id BIGINT NOT NULL REFERENCES accounts (id)",
    "amount BIGINT NOT NULL",
    createdAt]

/-- The table of transfers. The amount is positive and the accounts differ. -/
def transfers : SchemaPart :=
  .table "transfers" [
    "id BIGSERIAL PRIMARY KEY",
    "from_account_id BIGINT NOT NULL REFERENCES accounts (id)",
    "to_account_id BIGINT NOT NULL REFERENCES accounts (id)",
    "amount BIGINT NOT NULL CHECK (amount > 0)",
    createdAt,
    "CONSTRAINT transfers_distinct_accounts CHECK (from_account_id <> to_account_id)"]

/-- The table of sessions. -/
def sessions : SchemaPart :=
  .table "sessions" [
    "id UUID PRIMARY KEY",
    "username VARCHAR(16) NOT NULL REFERENCES users (username)",
    "refresh_token TEXT NOT NULL",
    "user_agent TEXT NOT NULL",
    "client_ip TEXT NOT NULL",
    "is_blocked BOOLEAN NOT NULL DEFAULT FALSE",
    "expires_at TIMESTAMPTZ NOT NULL",
    createdAt]

/-- The whole schema. -/
def parts : List SchemaPart :=
  [users, accounts, entries, transfers, sessions, .index "accounts" "owner",
    .index "entries" "account_id", .index "transfers" "from_account_id",
    .index "transfers" "to_account_id", .index "sessions" "username"]

/-- Creates parts of the schema one after another. -/
def createAll : List SchemaPart → Dialog (Except SqlFailure Unit)
  | [] => return .ok ()
  | part :: rest => do
    match ← Dialog.execute (.create part) with
    | .ok _ => createAll rest
    | .error failure => return .error failure

/-- Creates what is missing of the schema. -/
def create : Dialog (Except SqlFailure Unit) := createAll parts

/-- What is logged before the schema is created. -/
def started : Event :=
  ⟨.info, "bank_api::db::schema", "Initializing PostgreSQL schema...", []⟩

/-- What is logged once the schema is complete. -/
def finished : Event :=
  ⟨.info, "bank_api::db::schema", "PostgreSQL schema initialized successfully", []⟩

end Countinghouse.Schema
