import Countinghouse.Bank.Basic

/-!
# Opening and keeping accounts

Callers see, delete and restore their own accounts only. Deleting keeps the account and
its history.
-/

namespace Countinghouse.Bank

/-- Logs that a caller is not the owner of an account, and fails. -/
def refuseAccess {α : Type} (component action caller message : String) (subject : String × Field) :
    Attempt α :=
  Attempt.reject
    (Event.warning component action message [subject, ("username", .text caller)])
    .notAccountOwner

/-- Passes when the caller owns the account. -/
def requireOwner (caller : String) (account : Account) (action : String) : Attempt Unit :=
  if isOwner caller account then pure ()
  else
    refuseAccess "account" action caller "caller does not own account"
      ("account_id", .int account.id)

/-- Opens an account in a currency for the caller. -/
def openAccount (bank : Bank) (caller : String) (currency : Currency) : Attempt Account := do
  let call := StoreCall.createAccount ⟨caller, currency, bank.startingBalance⟩
  match ← ExceptT.lift (Operation.call call) with
  | .error error =>
    Attempt.reject
      (Event.warning "account" "create" "create account failed"
        [("username", .text caller), ("currency", .text currency.code),
          ("error", .text error.message)])
      (.storage error)
  | .ok account => do
    Attempt.report (Event.notice "account" "account created"
      [("account_id", .int account.id), ("username", .text caller),
        ("currency", .text currency.code)])
    return account

/-- The account with an identifier, whoever owns it. -/
def anyAccount (id : Int) : Attempt Account := do
  match ← Attempt.call (.getAccount id) with
  | some account => return account
  | none => throw (.accountNotFound id)

/-- An account of the caller. -/
def account (caller : String) (id : Int) : Attempt Account := do
  let account ← anyAccount id
  requireOwner caller account "get"
  return account

/-- The caller's accounts that are not deleted. -/
def accounts (caller : String) : Attempt (List Account) := Attempt.call (.listAccounts caller)

/-- The caller's deleted accounts. -/
def deletedAccounts (caller : String) : Attempt (List Account) :=
  Attempt.call (.listDeletedAccounts caller)

/-- Deletes an account of the caller. -/
def deleteAccount (caller : String) (id : Int) : Attempt Unit := do
  let account ← anyAccount id
  requireOwner caller account "delete"
  Attempt.call (.deleteAccount id)
  Attempt.report (Event.notice "account" "account deleted"
    [("account_id", .int id), ("username", .text caller)])

/-- Restores a deleted account of the caller. -/
def restoreAccount (caller : String) (id : Int) : Attempt Unit := do
  let account ← anyAccount id
  requireOwner caller account "restore"
  Attempt.call (.restoreAccount id)
  Attempt.report (Event.notice "account" "account restored"
    [("account_id", .int id), ("username", .text caller)])

end Countinghouse.Bank
