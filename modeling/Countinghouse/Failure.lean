import Countinghouse.Currency
import Countinghouse.Sql.Failure

/-!
# What can fail

`StoreError` is a failure of the store, `BankError` a failure of an operation of the
bank. A store failure travels inside a `BankError` unchanged. Each kind has one text,
one name for clients and one HTTP status.
-/

namespace Countinghouse

/-- A failure of the store. -/
inductive StoreError where
  | database (failure : SqlFailure)
  | uniqueViolation (constraint : String)
  | foreignKeyViolation (constraint : String)
  /-- The account is missing or deleted at the moment funds are moved. -/
  | accountUnavailable (id : Int)
  | internal (text : String)
  deriving DecidableEq, Repr, Inhabited

namespace StoreError

/-- A database failure as the store reports it: the two constraint violations are
told apart by their SQLSTATE, everything else stays a database failure. -/
def ofSql : SqlFailure → StoreError
  | .server error =>
    let constraint := error.constraint.getD ""
    if error.code = some "23505" then .uniqueViolation constraint
    else if error.code = some "23503" then .foreignKeyViolation constraint
    else .database (.server error)
  | failure => .database failure

/-- The text of a store failure. -/
def message : StoreError → String
  | .database failure => "Database error: " ++ failure.message
  | .uniqueViolation constraint => "Unique constraint violated: " ++ constraint
  | .foreignKeyViolation constraint => "Foreign key constraint violated: " ++ constraint
  | .accountUnavailable id => "Account " ++ toString id ++ " is no longer available for transfer"
  | .internal text => "Storage internal error: " ++ text

end StoreError

/-- A failure of an operation of the bank. -/
inductive BankError where
  | sameAccountTransfer (source destination : Int)
  | accountNotFound (id : Int)
  | invalidAccountId (id : Int)
  | notAccountOwner
  | currencyMismatch (source destination : Currency)
  | accountDeleted (id : Int)
  | invalidAmount (amount : Int)
  | unsupportedCurrency (code : String)
  | transferNotFound (id : Int)
  | invalidPagination (reason : String)
  | invalidToken
  | blockedRefreshToken
  | expiredRefreshToken
  | mismatchedRefreshTokens
  | emailSameAsOld
  | passwordWrong
  | userNotFound (username : String)
  | userAlreadyExists
  | invalidCredentials
  | internal (text : String)
  | storage (error : StoreError)
  deriving DecidableEq, Repr, Inhabited

namespace BankError

/-- The text of a failure. -/
def message : BankError → String
  | .sameAccountTransfer source destination =>
    "can't transfer to the same account, from_account_id=" ++ toString source
      ++ ", to_account_id=" ++ toString destination
  | .accountNotFound id => "account " ++ toString id ++ " not found"
  | .invalidAccountId _ => "invalid account id"
  | .notAccountOwner => "account doesn't belong to authenticated user"
  | .currencyMismatch source destination =>
    "currency mismatch from_account.currency=" ++ source.code
      ++ ", to_account.currency=" ++ destination.code
  | .accountDeleted id => "account " ++ toString id ++ " is deleted"
  | .invalidAmount amount => "amount must be greater than zero, got " ++ toString amount
  | .unsupportedCurrency code => "unsupported currency: " ++ code
  | .transferNotFound id => "transfer " ++ toString id ++ " not found"
  | .invalidPagination reason => "invalid pagination: " ++ reason
  | .invalidToken => "invalid token"
  | .blockedRefreshToken => "refresh token is blocked"
  | .expiredRefreshToken => "refresh token has expired"
  | .mismatchedRefreshTokens => "refresh token doesn't match with stored refresh token"
  | .emailSameAsOld => "new email is the same as old email"
  | .passwordWrong => "old password is different from the one stored in the database"
  | .userNotFound username => "user " ++ username ++ " not found"
  | .userAlreadyExists => "username or email already exists"
  | .invalidCredentials => "invalid username or password"
  | .internal text => "internal error: " ++ text
  | .storage error => error.message

/-- The name clients know a failure by. -/
def code : BankError → String
  | .sameAccountTransfer .. => "SAME_ACCOUNT_TRANSFER"
  | .accountNotFound _ => "ACCOUNT_NOT_FOUND"
  | .invalidAccountId _ => "INVALID_ACCOUNT_ID"
  | .notAccountOwner => "NOT_ACCOUNT_OWNER"
  | .currencyMismatch .. => "CURRENCY_MISMATCH"
  | .accountDeleted _ => "ACCOUNT_DELETED"
  | .invalidAmount _ => "INVALID_AMOUNT"
  | .unsupportedCurrency _ => "UNSUPPORTED_CURRENCY"
  | .transferNotFound _ => "TRANSFER_NOT_FOUND"
  | .invalidPagination _ => "INVALID_PAGINATION"
  | .invalidToken => "INVALID_TOKEN"
  | .blockedRefreshToken => "BLOCKED_REFRESH_TOKEN"
  | .expiredRefreshToken => "EXPIRED_REFRESH_TOKEN"
  | .mismatchedRefreshTokens => "MISMATCHED_REFRESH_TOKENS"
  | .emailSameAsOld => "EMAIL_SAME_AS_OLD"
  | .passwordWrong => "PASSWORD_WRONG"
  | .userNotFound _ => "USER_NOT_FOUND"
  | .userAlreadyExists => "USER_ALREADY_EXISTS"
  | .invalidCredentials => "INVALID_CREDENTIALS"
  | .internal _ => "INTERNAL_ERROR"
  | .storage _ => "STORAGE_ERROR"

/-- The HTTP status a failure is answered with. -/
def httpStatus : BankError → Nat
  | .sameAccountTransfer .. | .invalidAccountId _ | .currencyMismatch .. | .invalidAmount _
  | .unsupportedCurrency _ | .invalidPagination _ | .emailSameAsOld => 400
  | .invalidToken | .blockedRefreshToken | .expiredRefreshToken | .mismatchedRefreshTokens
  | .passwordWrong | .invalidCredentials => 401
  | .notAccountOwner => 403
  | .accountNotFound _ | .transferNotFound _ | .userNotFound _ => 404
  | .userAlreadyExists => 409
  | .accountDeleted _ | .storage (.accountUnavailable _) => 422
  | .storage (.uniqueViolation _) | .storage (.foreignKeyViolation _) => 409
  | .internal _ | .storage (.database _) | .storage (.internal _) => 500

end BankError

/-- The currency a code names, or the failure that it names none. -/
def Currency.parse (text : String) : Except BankError Currency :=
  match Currency.ofCode? text with
  | some currency => .ok currency
  | none => .error (.unsupportedCurrency text)

end Countinghouse
