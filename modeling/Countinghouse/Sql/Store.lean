import Countinghouse.Sql.Row
import Countinghouse.Store.Fault

/-!
# The store on a database server

Each call of the store is a dialog with the server. Only a transfer of funds takes more
than one statement, and it is held as one transaction. A transfer changes the two balances
in the order of the accounts' identifiers, so that of transfers that run at the same time
no two wait for each other.
-/

namespace Countinghouse.Sql

/-- Adds to the balance of an account. An account that is missing or deleted is not
available. -/
def addBalance (id delta : Int) : Query Account := do
  match ← Query.fetch? RowReader.account (.addBalance id delta) with
  | some account => return account
  | none => throw (.accountUnavailable id)

/-- Changes the two balances of a transfer, the account with the lesser identifier first. -/
def moveBalances (source destination amount : Int) : Query (Account × Account) :=
  if source < destination then do
    let fromAccount ← addBalance source (-amount)
    let toAccount ← addBalance destination amount
    return (fromAccount, toAccount)
  else do
    let toAccount ← addBalance destination amount
    let fromAccount ← addBalance source (-amount)
    return (fromAccount, toAccount)

/-- Writes everything that belongs to a transfer. -/
def book (source destination amount : Int) : Query Movement := do
  let transfer ← Query.fetch RowReader.transfer (.insertTransfer source destination amount)
  let fromEntry ← Query.fetch RowReader.entry (.insertEntry source (-amount))
  let toEntry ← Query.fetch RowReader.entry (.insertEntry destination amount)
  let (fromAccount, toAccount) ← moveBalances source destination amount
  return ⟨transfer, fromAccount, toAccount, fromEntry, toEntry⟩

/-- Moves funds as one transaction. -/
def transferFunds (source destination amount : Int) : Query Movement :=
  Query.transaction (book source destination amount)

/-- The dialog that answers a call of the store. -/
def perform : (call : StoreCall) → Query call.Reply
  | .createUser user => Query.fetch RowReader.user (.insertUser user)
  | .getUser username => Query.fetch? RowReader.user (.selectUser username)
  | .updateUser change => Query.fetch? RowReader.user (.updateUser change)
  | .createAccount account => Query.fetch RowReader.account (.insertAccount account)
  | .getAccount id => Query.fetch? RowReader.account (.selectAccount id)
  | .listAccounts owner => Query.fetchAll RowReader.account (.selectAccounts owner false)
  | .listDeletedAccounts owner => Query.fetchAll RowReader.account (.selectAccounts owner true)
  | .deleteAccount id => do
    let _ ← Query.execute (.markAccount id true)
    return ()
  | .restoreAccount id => do
    let _ ← Query.execute (.markAccount id false)
    return ()
  | .transferFunds source destination amount => transferFunds source destination amount
  | .getTransfer id => Query.fetch? RowReader.transfer (.selectTransfer id)
  | .getEntry id => Query.fetch? RowReader.entry (.selectEntry id)
  | .listTransfers accountId limit offset =>
    Query.fetchAll RowReader.transfer (.selectTransfers accountId limit offset)
  | .createSession session => Query.fetch RowReader.session (.insertSession session)
  | .getSession id => Query.fetch? RowReader.session (.selectSession id)
  | .blockSession id => do
    let outcome ← Query.execute (.blockSession id)
    return decide (0 < outcome.affected)

/-- The store on a server that has a state. -/
def backend {State : Type}
    (server : Exchange → State → Except SqlFailure SqlOutcome × State) : Backend State :=
  fun call state => (perform call).run.run server state

/-- Asks the server for a sign of life. -/
def ping : Dialog (Except SqlFailure Unit) := do
  return (← Dialog.execute .probe).map fun _ => ()

end Countinghouse.Sql
