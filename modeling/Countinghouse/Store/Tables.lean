import Countinghouse.Store.Call

/-!
# The store in memory

`Tables` holds the five tables and the three counters that number rows. Each call is
one function on tables, so calls are atomic and happen one after another.
`Tables.perform` answers any call.

The same constraints hold as in the database schema: usernames and emails are unique,
an owner has one account per currency, and owners and session holders are users.
-/

namespace Countinghouse

/-- The tables of the store, each in the order its rows were added. -/
structure Tables where
  users : List User
  accounts : List Account
  transfers : List Transfer
  entries : List Entry
  sessions : List Session
  lastAccountId : Int
  lastTransferId : Int
  lastEntryId : Int
  deriving DecidableEq, Repr

namespace Tables

/-- No rows, and nothing numbered yet. -/
def empty : Tables := ⟨[], [], [], [], [], 0, 0, 0⟩

instance : Inhabited Tables := ⟨empty⟩

/-! ## Looking up -/

def user? (tables : Tables) (username : String) : Option User :=
  tables.users.find? (·.username == username)

def account? (tables : Tables) (id : Int) : Option Account :=
  tables.accounts.find? (·.id == id)

def transfer? (tables : Tables) (id : Int) : Option Transfer :=
  tables.transfers.find? (·.id == id)

def entry? (tables : Tables) (id : Int) : Option Entry :=
  tables.entries.find? (·.id == id)

def session? (tables : Tables) (id : Uuid) : Option Session :=
  tables.sessions.find? (·.id == id)

/-- The account, when it is stored and not deleted. -/
def activeAccount (tables : Tables) (id : Int) : Except StoreError Account :=
  match tables.account? id with
  | some account => if account.isDeleted then .error (.accountUnavailable id) else .ok account
  | none => .error (.accountUnavailable id)

/-- The transfers that touch an account, latest first. -/
def transfersTouching (tables : Tables) (accountId : Int) : List Transfer :=
  tables.transfers.reverse.filter (·.touches accountId)

/-! ## Users -/

def createUser (now : Instant) (new : NewUser) (tables : Tables) :
    Except StoreError User × Tables :=
  if tables.users.any (·.username == new.username) then
    (.error (.uniqueViolation "users_pkey"), tables)
  else if tables.users.any (·.email == new.email) then
    (.error (.uniqueViolation "users_email_key"), tables)
  else
    let user : User :=
      ⟨new.username, new.hashedPassword, new.fullName, new.email, now, now⟩
    (.ok user, { tables with users := tables.users ++ [user] })

/-- A user with the given fields of a change put in place. -/
def changed (now : Instant) (change : UserChange) (user : User) : User where
  username := user.username
  hashedPassword := change.hashedPassword.getD user.hashedPassword
  fullName := change.fullName.getD user.fullName
  email := change.email.getD user.email
  passwordChangedAt := if change.hashedPassword.isSome then now else user.passwordChangedAt
  createdAt := user.createdAt

/-- Another user already holds the email that a change asks for. -/
def emailTaken (tables : Tables) (change : UserChange) : Bool :=
  match change.email with
  | some email =>
    tables.users.any (fun user => user.email == email && user.username != change.username)
  | none => false

def updateUser (now : Instant) (change : UserChange) (tables : Tables) :
    Except StoreError (Option User) × Tables :=
  if tables.emailTaken change then
    (.error (.uniqueViolation "users_email_key"), tables)
  else
    match tables.user? change.username with
    | none => (.ok none, tables)
    | some user =>
      let users := tables.users.map fun row =>
        if row.username == change.username then changed now change row else row
      (.ok (some (changed now change user)), { tables with users })

/-! ## Accounts -/

def createAccount (now : Instant) (new : NewAccount) (tables : Tables) :
    Except StoreError Account × Tables :=
  if !tables.users.any (·.username == new.owner) then
    (.error (.foreignKeyViolation "accounts_owner_fkey"), tables)
  else if tables.accounts.any
      (fun account => account.owner == new.owner && account.currency == new.currency) then
    (.error (.uniqueViolation "accounts_owner_currency_key"), tables)
  else
    let id := tables.lastAccountId + 1
    let account : Account := ⟨id, new.owner, new.balance, new.currency, false, now⟩
    (.ok account,
      { tables with accounts := tables.accounts ++ [account], lastAccountId := id })

/-- Marks an account as deleted or not; nothing happens when there is no such account. -/
def markDeleted (id : Int) (isDeleted : Bool) (tables : Tables) : Tables :=
  { tables with
    accounts := tables.accounts.map fun account =>
      if account.id == id then { account with isDeleted } else account }

/-! ## Transfers -/

/-- Adds an entry under the next number. -/
def addEntry (now : Instant) (accountId amount : Int) (tables : Tables) : Entry × Tables :=
  let id := tables.lastEntryId + 1
  let entry : Entry := ⟨id, accountId, amount, now⟩
  (entry, { tables with entries := tables.entries ++ [entry], lastEntryId := id })

/-- Writes the balance of a stored account. -/
def writeBalance (id balance : Int) (tables : Tables) : Except StoreError Account × Tables :=
  match tables.account? id with
  | none => (.error (.accountUnavailable id), tables)
  | some account =>
    let accounts := tables.accounts.map fun row =>
      if row.id == id then { row with balance } else row
    (.ok { account with balance }, { tables with accounts })

/-- The two balances after a transfer. Both accounts have to be active and both
balances have to fit; the source is looked at first. -/
def balancesAfter (tables : Tables) (source destination amount : Int) :
    Except StoreError (Int × Int) :=
  match tables.activeAccount source with
  | .error error => .error error
  | .ok fromAccount =>
    match fit? (fromAccount.balance - amount) with
    | none => .error (.internal "balance overflow")
    | some fromBalance =>
      match tables.activeAccount destination with
      | .error error => .error error
      | .ok toAccount =>
        match fit? (toAccount.balance + amount) with
        | none => .error (.internal "balance overflow")
        | some toBalance => .ok (fromBalance, toBalance)

/-- Books a transfer whose balances are known: the transfer row, the two entries, and
then the balances of the source and of the destination. -/
def book (now : Instant) (source destination amount fromBalance toBalance : Int)
    (tables : Tables) : Except StoreError Movement × Tables :=
  let id := tables.lastTransferId + 1
  let transfer : Transfer := ⟨id, source, destination, amount, now⟩
  let numbered :=
    { tables with transfers := tables.transfers ++ [transfer], lastTransferId := id }
  let (fromEntry, debited) := numbered.addEntry now source (-amount)
  let (toEntry, booked) := debited.addEntry now destination amount
  match booked.writeBalance source fromBalance with
  | (.error error, after) => (.error error, after)
  | (.ok fromAccount, half) =>
    match half.writeBalance destination toBalance with
    | (.error error, after) => (.error error, after)
    | (.ok toAccount, after) =>
      (.ok ⟨transfer, fromAccount, toAccount, fromEntry, toEntry⟩, after)

/-- Moves funds. Everything is checked before the first row is written. -/
def transferFunds (now : Instant) (source destination amount : Int) (tables : Tables) :
    Except StoreError Movement × Tables :=
  if source = destination ∨ amount ≤ 0 then
    (.error (.internal "transfers check constraint violated"), tables)
  else
    match tables.balancesAfter source destination amount with
    | .error error => (.error error, tables)
    | .ok (fromBalance, toBalance) =>
      tables.book now source destination amount fromBalance toBalance

/-- At most `limit` of the transfers that touch an account, after the `offset` latest
ones. A negative number counts as zero. -/
def listTransfers (tables : Tables) (accountId limit offset : Int) : List Transfer :=
  ((tables.transfersTouching accountId).drop offset.toNat).take limit.toNat

/-! ## Sessions -/

def createSession (now : Instant) (new : NewSession) (tables : Tables) :
    Except StoreError Session × Tables :=
  if !tables.users.any (·.username == new.username) then
    (.error (.foreignKeyViolation "sessions_username_fkey"), tables)
  else if tables.sessions.any (·.id == new.id) then
    (.error (.uniqueViolation "sessions_pkey"), tables)
  else
    let session : Session :=
      ⟨new.id, new.username, new.refreshToken, new.client, false, new.expiresAt, now⟩
    (.ok session, { tables with sessions := tables.sessions ++ [session] })

/-- Blocks a session; answers whether there is one. -/
def blockSession (id : Uuid) (tables : Tables) : Bool × Tables :=
  if tables.sessions.any (·.id == id) then
    (true,
      { tables with
        sessions := tables.sessions.map fun session =>
          if session.id == id then { session with isBlocked := true } else session })
  else (false, tables)

/-! ## Answering calls -/

/-- Answers one call at the given time. -/
def perform (now : Instant) :
    (call : StoreCall) → Tables → Except StoreError call.Reply × Tables
  | .createUser user, tables => tables.createUser now user
  | .getUser username, tables => (.ok (tables.user? username), tables)
  | .updateUser change, tables => tables.updateUser now change
  | .createAccount account, tables => tables.createAccount now account
  | .getAccount id, tables => (.ok (tables.account? id), tables)
  | .listAccounts owner, tables =>
    (.ok (tables.accounts.filter fun account => account.owner == owner && !account.isDeleted),
      tables)
  | .listDeletedAccounts owner, tables =>
    (.ok (tables.accounts.filter fun account => account.owner == owner && account.isDeleted),
      tables)
  | .deleteAccount id, tables => (.ok (), tables.markDeleted id true)
  | .restoreAccount id, tables => (.ok (), tables.markDeleted id false)
  | .transferFunds source destination amount, tables =>
    tables.transferFunds now source destination amount
  | .getTransfer id, tables => (.ok (tables.transfer? id), tables)
  | .getEntry id, tables => (.ok (tables.entry? id), tables)
  | .listTransfers accountId limit offset, tables =>
    (.ok (tables.listTransfers accountId limit offset), tables)
  | .createSession session, tables => tables.createSession now session
  | .getSession id, tables => (.ok (tables.session? id), tables)
  | .blockSession id, tables =>
    let (found, after) := tables.blockSession id
    (.ok found, after)

end Tables

end Countinghouse
