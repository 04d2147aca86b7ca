import Countinghouse.Failure
import Countinghouse.Ledger.Transfer
import Countinghouse.Session

/-!
# What the store can be asked

A `StoreCall` is one request to the store as a value, and `StoreCall.Reply` is the type
of what it answers when it succeeds. Lookups answer `none` for a missing row; it is
for the caller to decide what a missing row means. Every backend of the bank is a
function from calls to replies.
-/

namespace Countinghouse

/-- One request to the store. -/
inductive StoreCall where
  | createUser (user : NewUser)
  | getUser (username : String)
  /-- Answers `none` when there is no such user. -/
  | updateUser (change : UserChange)
  | createAccount (account : NewAccount)
  | getAccount (id : Int)
  /-- The owner's accounts that are not deleted, oldest first. -/
  | listAccounts (owner : String)
  /-- The owner's deleted accounts, oldest first. -/
  | listDeletedAccounts (owner : String)
  | deleteAccount (id : Int)
  | restoreAccount (id : Int)
  /-- Debits, credits and books one transfer as a unit: it is done completely or, when
  it fails, not at all. -/
  | transferFunds (source destination amount : Int)
  | getTransfer (id : Int)
  | getEntry (id : Int)
  /-- The transfers that touch an account, latest first. -/
  | listTransfers (accountId limit offset : Int)
  | createSession (session : NewSession)
  | getSession (id : Uuid)
  /-- Answers whether there is such a session. -/
  | blockSession (id : Uuid)
  deriving DecidableEq, Repr

namespace StoreCall

/-- What the store answers when a call succeeds. -/
@[reducible] def Reply : StoreCall → Type
  | .createUser _ => User
  | .getUser _ | .updateUser _ => Option User
  | .createAccount _ => Account
  | .getAccount _ => Option Account
  | .listAccounts _ | .listDeletedAccounts _ => List Account
  | .deleteAccount _ | .restoreAccount _ => Unit
  | .transferFunds .. => Movement
  | .getTransfer _ => Option Transfer
  | .getEntry _ => Option Entry
  | .listTransfers .. => List Transfer
  | .createSession _ => Session
  | .getSession _ => Option Session
  | .blockSession _ => Bool

/-- The kinds of call, without what they carry. -/
inductive Kind where
  | createUser | getUser | updateUser
  | createAccount | getAccount | listAccounts | listDeletedAccounts
  | deleteAccount | restoreAccount
  | transferFunds | getTransfer | getEntry | listTransfers
  | createSession | getSession | blockSession
  deriving DecidableEq, Repr

/-- Every kind of call. -/
def Kind.all : List Kind :=
  [.createUser, .getUser, .updateUser, .createAccount, .getAccount, .listAccounts,
    .listDeletedAccounts, .deleteAccount, .restoreAccount, .transferFunds, .getTransfer,
    .getEntry, .listTransfers, .createSession, .getSession, .blockSession]

/-- The kind of a call. -/
def kind : StoreCall → Kind
  | .createUser _ => .createUser
  | .getUser _ => .getUser
  | .updateUser _ => .updateUser
  | .createAccount _ => .createAccount
  | .getAccount _ => .getAccount
  | .listAccounts _ => .listAccounts
  | .listDeletedAccounts _ => .listDeletedAccounts
  | .deleteAccount _ => .deleteAccount
  | .restoreAccount _ => .restoreAccount
  | .transferFunds .. => .transferFunds
  | .getTransfer _ => .getTransfer
  | .getEntry _ => .getEntry
  | .listTransfers .. => .listTransfers
  | .createSession _ => .createSession
  | .getSession _ => .getSession
  | .blockSession _ => .blockSession

/-- The reply of a lookup that finds nothing, for the calls that have one. -/
def nothing? : (call : StoreCall) → Option call.Reply
  | .getUser _ | .updateUser _ => some (none : Option User)
  | .getAccount _ => some (none : Option Account)
  | .getTransfer _ => some (none : Option Transfer)
  | .getEntry _ => some (none : Option Entry)
  | .getSession _ => some (none : Option Session)
  | .blockSession _ => some false
  | .listAccounts _ | .listDeletedAccounts _ => some ([] : List Account)
  | .listTransfers .. => some ([] : List Transfer)
  | .deleteAccount _ | .restoreAccount _ => some ()
  | .createUser _ | .createAccount _ | .transferFunds .. | .createSession _ => none

end StoreCall

end Countinghouse
