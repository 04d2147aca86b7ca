import Countinghouse.Bank.Basic

/-!
# Users and their profiles

Registering stores a hash of the password. A change of the password needs the present
password; which of several concurrent changes wins is up to the store.
-/

namespace Countinghouse.Bank

/-- The hash of a new password. -/
def hashPassword (bank : Bank) (password : String) : Attempt String := do
  let salt ← ExceptT.lift Operation.freshSalt
  match bank.passwords.fault? password with
  | some fault => throw (.internal ("Hashing failed: " ++ fault))
  | none => return bank.passwords.hash salt password

/-- Registers a user. -/
def register (bank : Bank) (username fullName email password : String) : Attempt User := do
  let hashedPassword ← bank.hashPassword password
  let call := StoreCall.createUser ⟨username, hashedPassword, fullName, email⟩
  match ← ExceptT.lift (Operation.call call) with
  | .error error =>
    Attempt.reject
      (Event.warning "user" "register" "registration failed"
        [("username", .text username), ("error", .text error.message)])
      (match error with
        | .uniqueViolation _ => .userAlreadyExists
        | other => .storage other)
  | .ok user => do
    Attempt.report (Event.notice "user" "user registered" [("username", .text user.username)])
    return user

/-- The user with a name. -/
def user (username : String) : Attempt User := do
  match ← Attempt.call (.getUser username) with
  | some user => return user
  | none => throw (.userNotFound username)

/-- Logs that a profile cannot be changed, and fails. -/
def refuseUpdate {α : Type} (caller : String) (error : BankError) : Attempt α :=
  Attempt.reject
    (Event.warning "user" "update" "update rejected"
      [("username", .text caller), ("error", .text error.message)])
    error

/-- The hash of a new password, if a change asks for one and the old password is right. -/
def newHash (bank : Bank) (caller : String) (current : User) (update : ProfileUpdate) :
    Attempt (Option String) := do
  match update.newPassword with
  | none => return none
  | some newPassword =>
    let isRight ← Attempt.ofExcept
      (bank.passwords.check (update.oldPassword.getD "") current.hashedPassword)
    if !isRight then refuseUpdate caller .passwordWrong
    return some (← bank.hashPassword newPassword)

/-- Changes the caller's profile. -/
def updateUser (bank : Bank) (caller : String) (update : ProfileUpdate) : Attempt User := do
  let current ← user caller
  if update.email = some current.email then refuseUpdate caller .emailSameAsOld
  let hashedPassword ← newHash bank caller current update
  let call := StoreCall.updateUser ⟨caller, update.fullName, update.email, hashedPassword⟩
  match ← ExceptT.lift (Operation.call call) with
  | .error (.uniqueViolation _) => refuseUpdate caller .userAlreadyExists
  | .error error => throw (.storage error)
  | .ok none => throw (.userNotFound caller)
  | .ok (some user) => do
    Attempt.report (Event.notice "user" "user updated" [("username", .text caller)])
    return user

end Countinghouse.Bank
