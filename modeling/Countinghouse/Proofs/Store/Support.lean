import Countinghouse.Proofs.Store.Users

/-!
# What a call relies on

Some failures of the store only guard against calls that nobody ought to make: an account or a
session for somebody who is no user, and a transfer between accounts that are not both there and
active. `Tables.Supports` says when the tables hold what a call relies on, and
`Tables.not_isDefensive_of_perform` that such a call does not fail like this.
-/

namespace Countinghouse

/-- The failure is that of a call that ought not to have been made. -/
inductive StoreError.IsDefensive : StoreError → Prop where
  | foreignKeyViolation (name : String) : IsDefensive (.foreignKeyViolation name)
  | accountUnavailable (id : Int) : IsDefensive (.accountUnavailable id)

namespace Tables

/-- The name is that of a stored user. -/
def IsUser (tables : Tables) (username : String) : Prop := ∃ user, tables.user? username = some user

/-- The account is stored, and it is not deleted. -/
def IsActive (tables : Tables) (id : Int) : Prop := ∃ account, tables.activeAccount id = .ok account

/-- The tables hold what the call relies on. -/
def Supports (tables : Tables) : StoreCall → Prop
  | .createAccount new => tables.IsUser new.owner
  | .createSession new => tables.IsUser new.username
  | .transferFunds source destination _ => tables.IsActive source ∧ tables.IsActive destination
  | _ => True

variable {tables : Tables} {now : Instant} {error : StoreError}

/-- Users are stored for good. -/
theorem IsUser.perform {username : String} (isUser : tables.IsUser username) (now : Instant)
    (call : StoreCall) : (perform now call tables).2.IsUser username := by
  obtain ⟨user, stored⟩ := isUser
  obtain ⟨latest, found, -⟩ := (tables.perform_effect now call).user_change stored
  exact ⟨latest, found⟩

theorem IsUser.any {username : String} (isUser : tables.IsUser username) :
    tables.users.any (·.username == username) = true := by
  obtain ⟨user, stored⟩ := isUser
  obtain ⟨member, isNamed⟩ := user?_some stored
  exact List.any_eq_true.mpr ⟨user, member, beq_iff_eq.mpr isNamed⟩

/-- An account that is stored and not deleted is active. -/
theorem isActive_of_account? {id : Int} {account : Account}
    (stored : tables.account? id = some account) (notDeleted : account.isDeleted = false) :
    tables.IsActive account.id := by
  obtain ⟨-, rfl⟩ := account?_some stored
  exact ⟨account, activeAccount_eq_ok_iff.mpr ⟨stored, notDeleted⟩⟩

/-! ## The failures of each call -/

theorem createUser_error {new : NewUser} (failed : (tables.createUser now new).1 = .error error) :
    ∃ name, error = .uniqueViolation name := by
  unfold createUser at failed
  split at failed
  · exact ⟨_, (Except.error.inj failed).symm⟩
  · split at failed
    · exact ⟨_, (Except.error.inj failed).symm⟩
    · cases failed

theorem updateUser_error {change : UserChange}
    (failed : (tables.updateUser now change).1 = .error error) :
    ∃ name, error = .uniqueViolation name := by
  unfold updateUser at failed
  split at failed
  · exact ⟨_, (Except.error.inj failed).symm⟩
  · split at failed <;> cases failed

/-- A user who is stored is found when a profile is to be changed. -/
theorem updateUser_ne_none {change : UserChange} (isUser : tables.IsUser change.username) :
    (tables.updateUser now change).1 ≠ .ok none := by
  obtain ⟨user, stored⟩ := isUser
  unfold updateUser
  rw [stored]
  split <;> nofun

theorem createAccount_error {new : NewAccount} (isUser : tables.IsUser new.owner)
    (failed : (tables.createAccount now new).1 = .error error) :
    ∃ name, error = .uniqueViolation name := by
  unfold createAccount at failed
  rw [isUser.any, Bool.not_true, if_neg Bool.false_ne_true] at failed
  split at failed
  · exact ⟨_, (Except.error.inj failed).symm⟩
  · cases failed

theorem createSession_error {new : NewSession} (isUser : tables.IsUser new.username)
    (failed : (tables.createSession now new).1 = .error error) :
    ∃ name, error = .uniqueViolation name := by
  unfold createSession at failed
  rw [isUser.any, Bool.not_true, if_neg Bool.false_ne_true] at failed
  split at failed
  · exact ⟨_, (Except.error.inj failed).symm⟩
  · cases failed

/-- A transfer between active accounts only fails when it has no sense or a balance does not fit. -/
theorem transferFunds_error {source destination amount : Int} (fromActive : tables.IsActive source)
    (toActive : tables.IsActive destination)
    (failed : (tables.transferFunds now source destination amount).1 = .error error) :
    ∃ text, error = .internal text := by
  obtain ⟨payer, payerActive⟩ := fromActive
  obtain ⟨payee, payeeActive⟩ := toActive
  unfold transferFunds at failed
  split at failed
  · exact ⟨_, (Except.error.inj failed).symm⟩
  next wellFormed =>
  -- With both accounts found, only the arithmetic is left to fail.
  simp only [balancesAfter, payerActive, payeeActive] at failed
  cases debit : fit? (payer.balance - amount) with
  | none =>
      rw [debit] at failed
      exact ⟨_, (Except.error.inj failed).symm⟩
  | some fromBalance =>
      cases credit : fit? (payee.balance + amount) with
      | none =>
          rw [debit, credit] at failed
          exact ⟨_, (Except.error.inj failed).symm⟩
      | some toBalance =>
          obtain ⟨debitFits, rfl⟩ := fit?_eq_some_iff.mp debit
          obtain ⟨creditFits, rfl⟩ := fit?_eq_some_iff.mp credit
          obtain ⟨distinct, notPositive⟩ := not_or.mp wellFormed
          obtain ⟨payerStored, payerKept⟩ := activeAccount_eq_ok_iff.mp payerActive
          obtain ⟨payeeStored, payeeKept⟩ := activeAccount_eq_ok_iff.mp payeeActive
          rw [debit, credit] at failed
          dsimp only at failed
          rw [book_eq now ⟨distinct, Int.not_le.mp notPositive, payerStored, payerKept, payeeStored,
            payeeKept, debitFits, creditFits⟩] at failed
          cases failed

/-- A call for which the tables hold what it relies on is not refused for the lack of it. -/
theorem not_isDefensive_of_perform {call : StoreCall} (supports : tables.Supports call)
    (failed : (perform now call tables).1 = .error error) : ¬error.IsDefensive := by
  have notUnique (isUnique : ∃ name, error = .uniqueViolation name) : ¬error.IsDefensive := by
    obtain ⟨name, rfl⟩ := isUnique
    nofun
  cases call with
  | createUser new => exact notUnique (createUser_error failed)
  | updateUser change => exact notUnique (updateUser_error failed)
  | createAccount new => exact notUnique (createAccount_error supports failed)
  | createSession new => exact notUnique (createSession_error supports failed)
  | transferFunds source destination amount =>
      obtain ⟨text, rfl⟩ := transferFunds_error supports.1 supports.2 failed
      nofun
  | getUser | getAccount | listAccounts | listDeletedAccounts | deleteAccount | restoreAccount
  | getTransfer | getEntry | listTransfers | getSession | blockSession => cases failed

end Tables

end Countinghouse
