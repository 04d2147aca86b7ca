import Countinghouse.Ledger.Account

/-!
# Transfers and their entries

A transfer moves a positive amount from one account to another and is booked as two
signed entries that sum to zero. `Movement` is what one transfer wrote.
-/

namespace Countinghouse

/-- A completed movement of funds. -/
structure Transfer where
  id : Int
  fromAccountId : Int
  toAccountId : Int
  /-- Always positive, in minor units. -/
  amount : Int
  createdAt : Instant
  deriving DecidableEq, Repr, Inhabited

/-- One signed leg of a transfer. -/
structure Entry where
  id : Int
  accountId : Int
  amount : Int
  createdAt : Instant
  deriving DecidableEq, Repr, Inhabited

/-- Everything one transfer wrote, as it stands when it is done. -/
structure Movement where
  transfer : Transfer
  fromAccount : Account
  toAccount : Account
  fromEntry : Entry
  toEntry : Entry
  deriving DecidableEq, Repr, Inhabited

namespace Transfer

/-- A transfer touches an account when the account is its source or its destination. -/
def touches (transfer : Transfer) (accountId : Int) : Bool :=
  transfer.fromAccountId == accountId || transfer.toAccountId == accountId

/-- The form a transfer is shown in. -/
def toJson (transfer : Transfer) : Json :=
  .object [
    ("id", .int transfer.id),
    ("from_account_id", .int transfer.fromAccountId),
    ("to_account_id", .int transfer.toAccountId),
    ("amount", .int transfer.amount),
    ("created_at", .text transfer.createdAt.render)]

end Transfer

namespace Entry

/-- The form an entry is shown in. -/
def toJson (entry : Entry) : Json :=
  .object [
    ("id", .int entry.id),
    ("account_id", .int entry.accountId),
    ("amount", .int entry.amount),
    ("created_at", .text entry.createdAt.render)]

end Entry

namespace Movement

/-- The form the result of a transfer is shown in. -/
def toJson (movement : Movement) : Json :=
  .object [
    ("transfer", movement.transfer.toJson),
    ("from_account", movement.fromAccount.toJson),
    ("to_account", movement.toAccount.toJson),
    ("from_entry", movement.fromEntry.toJson),
    ("to_entry", movement.toEntry.toJson)]

end Movement

end Countinghouse
