import Countinghouse.Bank.Accounts
import Countinghouse.Ledger.Page

/-!
# Moving funds

A transfer is validated against the accounts as they are, and then handed to the store as
one unit. Validation holds nothing in place: a transfer that passes may still fail in the
store when an account changed in between.
-/

namespace Countinghouse.Bank

/-- Logs that a transfer is not valid, and fails. -/
def refuseTransfer {α : Type} (caller : String) (source destination : Int) (error : BankError) :
    Attempt α :=
  Attempt.reject
    (Event.warning "transfer" "validate" "transfer rejected"
      [("from_account", .int source), ("to_account", .int destination),
        ("username", .text caller), ("error", .text error.message)])
    error

/-- The two accounts of a transfer, if the caller may make it. The first of these that does
not hold is reported: the accounts differ, the source exists, the destination exists, the
caller owns the source, the currencies agree, the source is not deleted, the destination
is not deleted. -/
def validateTransfer (caller : String) (source destination : Int) :
    Attempt (Account × Account) := do
  let refuse {α : Type} (error : BankError) : Attempt α :=
    refuseTransfer caller source destination error
  if source = destination then refuse (.sameAccountTransfer source destination)
  let some fromAccount ← Attempt.call (.getAccount source)
    | refuse (.accountNotFound source)
  let some toAccount ← Attempt.call (.getAccount destination)
    | refuse (.accountNotFound destination)
  if !isOwner caller fromAccount then refuse .notAccountOwner
  if fromAccount.currency ≠ toAccount.currency then
    refuse (.currencyMismatch fromAccount.currency toAccount.currency)
  if fromAccount.isDeleted then refuse (.accountDeleted fromAccount.id)
  if toAccount.isDeleted then refuse (.accountDeleted toAccount.id)
  return (fromAccount, toAccount)

/-- Moves an amount between two accounts that were validated. -/
def createTransfer (source destination amount : Int) : Attempt Movement := do
  let parties := [("from_account", Field.int source), ("to_account", Field.int destination),
    ("amount", Field.int amount)]
  if amount ≤ 0 then
    Attempt.reject (Event.warning "transfer" "create" "non-positive amount" parties)
      (.invalidAmount amount)
  match ← ExceptT.lift (Operation.call (.transferFunds source destination amount)) with
  | .error error =>
    Attempt.reject
      (Event.warning "transfer" "create" "transfer_tx failed"
        (parties ++ [("error", .text error.message)]))
      (.storage error)
  | .ok movement => do
    Attempt.report (Event.notice "transfer" "transfer completed"
      (("transfer_id", .int movement.transfer.id) :: parties))
    return movement

/-- Validates a transfer and makes it. -/
def transfer (caller : String) (source destination amount : Int) : Attempt Movement := do
  let (fromAccount, toAccount) ← validateTransfer caller source destination
  createTransfer fromAccount.id toAccount.id amount

/-- One page of the transfers that touch an account of the caller, latest first. -/
def transfersOf (caller : String) (accountId : Int) (page : Page) : Attempt (List Transfer) := do
  let some account ← Attempt.call (.getAccount accountId)
    | Attempt.reject
        (Event.warning "transfer" "list" "account not found"
          [("account_id", .int accountId), ("username", .text caller)])
        (.invalidAccountId accountId)
  if !isOwner caller account then
    refuseAccess "transfer" "list" caller "caller does not own account"
      ("account_id", .int accountId)
  Attempt.call (.listTransfers accountId page.limit page.offset)

/-- Whether the caller owns an account, if there is such an account. -/
def ownsAccount (caller : String) (accountId : Int) : Attempt Bool := do
  return (← Attempt.call (.getAccount accountId)).any (isOwner caller)

/-- A transfer whose source or destination the caller owns. -/
def transferById (caller : String) (id : Int) : Attempt Transfer := do
  let some transfer ← Attempt.call (.getTransfer id)
    | throw (.transferNotFound id)
  if ← ownsAccount caller transfer.fromAccountId then return transfer
  if ← ownsAccount caller transfer.toAccountId then return transfer
  refuseAccess "transfer" "get" caller "caller owns neither endpoint" ("transfer_id", .int id)

end Countinghouse.Bank
