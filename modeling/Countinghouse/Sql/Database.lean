import Countinghouse.Sql.Row
import Countinghouse.Store.Tables

/-!
# A database server that executes what it is told

A `Database` is a database server with one connection. It keeps the tables of the bank, executes
the statements of a transfer on them as they are worded, and enforces what the schema says of the
rows: keys, references and checks, each when a statement ends. A statement that fails changes no
row, and what follows it in the same transaction is refused until the transaction ends.

The numbers of rows come from sequences, which are kept in the counters of the tables. What a
sequence gave away does not come back, neither when its statement fails nor when the transaction is
rolled back. All other statements are left to a parameter.
-/

namespace Countinghouse

/-! ## Records as rows -/

/-- An account with the columns of its table. -/
def Account.row (account : Account) : SqlRow :=
  [("id", .int account.id), ("owner", .text account.owner), ("balance", .int account.balance),
    ("currency", .text account.currency.code), ("is_deleted", .bool account.isDeleted),
    ("created_at", .text account.createdAt.render)]

/-- A transfer with the columns of its table. -/
def Transfer.row (transfer : Transfer) : SqlRow :=
  [("id", .int transfer.id), ("from_account_id", .int transfer.fromAccountId),
    ("to_account_id", .int transfer.toAccountId), ("amount", .int transfer.amount),
    ("created_at", .text transfer.createdAt.render)]

/-- An entry with the columns of its table. -/
def Entry.row (entry : Entry) : SqlRow :=
  [("id", .int entry.id), ("account_id", .int entry.accountId), ("amount", .int entry.amount),
    ("created_at", .text entry.createdAt.render)]

/-! ## Errors -/

namespace ServerError

/-- A sequence has given away its last number. -/
def exhausted (sequence : String) : ServerError :=
  ⟨some "2200H",
    "nextval: reached maximum value of sequence \"" ++ sequence ++ "\" (9223372036854775807)",
    none⟩

/-- A row does not satisfy a check. -/
def checkViolated (table constraint : String) : ServerError :=
  ⟨some "23514",
    "new row for relation \"" ++ table ++ "\" violates check constraint \"" ++ constraint ++ "\"",
    some constraint⟩

/-- A key is already in use. -/
def keyViolated (constraint : String) : ServerError :=
  ⟨some "23505", "duplicate key value violates unique constraint \"" ++ constraint ++ "\"",
    some constraint⟩

/-- A row refers to one that is not stored. -/
def referenceViolated (table constraint : String) : ServerError :=
  ⟨some "23503",
    "insert or update on table \"" ++ table ++ "\" violates foreign key constraint \""
      ++ constraint ++ "\"",
    some constraint⟩

/-- A sum does not fit into 64 bits. -/
def outOfRange : ServerError := ⟨some "22003", "bigint out of range", none⟩

/-- An earlier statement of the transaction failed. -/
def aborted : ServerError :=
  ⟨some "25P02",
    "current transaction is aborted, commands ignored until end of transaction block", none⟩

end ServerError

namespace Database

/-! ## Statements -/

/-- The next number of a sequence. -/
def nextNumber (sequence : String) (last : Int) : Except ServerError Int :=
  if last < 9223372036854775807 then .ok (last + 1) else .error (.exhausted sequence)

/-- Passes when an account is stored under the number that a row refers to, deleted or not. -/
def checkReference (tables : Tables) (table constraint : String) (accountId : Int) :
    Except ServerError Unit :=
  if tables.accounts.any (·.id == accountId) then .ok ()
  else .error (.referenceViolated table constraint)

/-- Passes when a transfer may be added. -/
def checkTransfer (tables : Tables) (transfer : Transfer) : Except ServerError Unit := do
  if transfer.amount ≤ 0 then throw (.checkViolated "transfers" "transfers_amount_check")
  if transfer.fromAccountId = transfer.toAccountId then
    throw (.checkViolated "transfers" "transfers_distinct_accounts")
  if tables.transfers.any (·.id == transfer.id) then throw (.keyViolated "transfers_pkey")
  checkReference tables "transfers" "transfers_from_account_id_fkey" transfer.fromAccountId
  checkReference tables "transfers" "transfers_to_account_id_fkey" transfer.toAccountId

/-- Passes when an entry may be added. -/
def checkEntry (tables : Tables) (entry : Entry) : Except ServerError Unit := do
  if tables.entries.any (·.id == entry.id) then throw (.keyViolated "entries_pkey")
  checkReference tables "entries" "entries_account_id_fkey" entry.accountId

/-- Adds a transfer. -/
def insertTransfer (now : Instant) (source destination amount : Int) (tables : Tables) :
    Except ServerError SqlOutcome × Tables :=
  match nextNumber "transfers_id_seq" tables.lastTransferId with
  | .error error => (.error error, tables)
  | .ok id =>
    let numbered := { tables with lastTransferId := id }
    let transfer : Transfer := ⟨id, source, destination, amount, now⟩
    match checkTransfer tables transfer with
    | .error error => (.error error, numbered)
    | .ok () =>
      (.ok ⟨[transfer.row], 1⟩, { numbered with transfers := tables.transfers ++ [transfer] })

/-- Adds an entry. -/
def insertEntry (now : Instant) (accountId amount : Int) (tables : Tables) :
    Except ServerError SqlOutcome × Tables :=
  match nextNumber "entries_id_seq" tables.lastEntryId with
  | .error error => (.error error, tables)
  | .ok id =>
    let numbered := { tables with lastEntryId := id }
    let entry : Entry := ⟨id, accountId, amount, now⟩
    match checkEntry tables entry with
    | .error error => (.error error, numbered)
    | .ok () => (.ok ⟨[entry.row], 1⟩, { numbered with entries := tables.entries ++ [entry] })

/-- Adds to the balance of the account with a number, unless it is deleted. -/
def credit (id delta : Int) (row : Account) : Account :=
  if row.id == id && !row.isDeleted then { row with balance := row.balance + delta } else row

/-- Adds to the balances of all accounts with a number that are not deleted. Either all sums fit,
or none is written. -/
def addBalance (id delta : Int) (tables : Tables) : Except ServerError SqlOutcome × Tables :=
  let found := tables.accounts.filter fun row => row.id == id && !row.isDeleted
  if found.all fun row => Fits (row.balance + delta) then
    (.ok ⟨found.map fun row => (credit id delta row).row, found.length⟩,
      { tables with accounts := tables.accounts.map (credit id delta) })
  else (.error .outOfRange, tables)

/-- Executes a statement. -/
def execute (others : Statement → Tables → Except ServerError SqlOutcome × Tables)
    (now : Instant) : Statement → Tables → Except ServerError SqlOutcome × Tables
  | .insertTransfer source destination amount, tables =>
    insertTransfer now source destination amount tables
  | .insertEntry accountId amount, tables => insertEntry now accountId amount tables
  | .addBalance id delta, tables => addBalance id delta tables
  | statement, tables => others statement tables

end Database

/-! ## Transactions -/

/-- Where the connection stands. -/
inductive Database.Transaction where
  | none
  /-- A transaction was begun on these tables. -/
  | running (before : Tables)
  /-- A statement of it failed. -/
  | failed (before : Tables)
  deriving DecidableEq, Repr

/-- A database server with one connection. -/
structure Database where
  tables : Tables
  transaction : Database.Transaction
  deriving DecidableEq, Repr

namespace Database

/-- The rows as they were before, with the counters as they are now. -/
def undo (before tables : Tables) : Tables :=
  { before with
    lastAccountId := tables.lastAccountId
    lastTransferId := tables.lastTransferId
    lastEntryId := tables.lastEntryId }

/-- Answers one exchange. What is out of place, such as an end without a beginning, does nothing;
a transaction that failed cannot be committed. -/
def serve (others : Statement → Tables → Except ServerError SqlOutcome × Tables) (now : Instant) :
    Exchange → Database → Except SqlFailure SqlOutcome × Database
  | .begin, ⟨tables, .none⟩ => (.ok ⟨[], 0⟩, ⟨tables, .running tables⟩)
  | .begin, database => (.ok ⟨[], 0⟩, database)
  | .commit, ⟨tables, .failed before⟩ => (.ok ⟨[], 0⟩, ⟨undo before tables, .none⟩)
  | .commit, ⟨tables, _⟩ => (.ok ⟨[], 0⟩, ⟨tables, .none⟩)
  | .rollback, ⟨tables, .none⟩ => (.ok ⟨[], 0⟩, ⟨tables, .none⟩)
  | .rollback, ⟨tables, .running before⟩ | .rollback, ⟨tables, .failed before⟩ =>
    (.ok ⟨[], 0⟩, ⟨undo before tables, .none⟩)
  | .execute _, ⟨tables, .failed before⟩ => (.error (.server .aborted), ⟨tables, .failed before⟩)
  | .execute statement, ⟨tables, .none⟩ =>
    let (result, after) := execute others now statement tables
    (result.mapError .server, ⟨after, .none⟩)
  | .execute statement, ⟨tables, .running before⟩ =>
    match execute others now statement tables with
    | (.ok outcome, after) => (.ok outcome, ⟨after, .running before⟩)
    | (.error error, after) => (.error (.server error), ⟨after, .failed before⟩)

end Database

end Countinghouse
