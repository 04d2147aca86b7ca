import Countinghouse.Json.Record
import Countinghouse.Ledger.Page
import Countinghouse.Request.Rule
import Countinghouse.User

/-!
# The forms of requests

Each kind of request has a type for its content and a `Form`, which says how the content
is read and which rules it has to keep. `Form.ofJson` reads a form from JSON.
-/

namespace Countinghouse

/-- How the content of a request is read and checked. -/
structure Form (α : Type) where
  shape : Shape
  build : Record shape.fields → α
  violations : α → List Violation

namespace Form

/-- Reads the content of a request from a JSON text. -/
def ofJson {α : Type} (form : Form α) (bytes : List UInt8) : Except JsonFault α :=
  (Reader.readAll (Reader.record form.shape) bytes).map form.build

end Form

/-- The rules for a username. -/
def usernameRules : List TextRule := [.length 6 (some 16), .alphanumeric]

/-- The rules for a password. -/
def passwordRules : List TextRule := [.length 6 (some 16)]

/-- A request to register. -/
structure Registration where
  username : String
  fullName : String
  email : String
  password : String
  passwordConfirm : String
  deriving DecidableEq, Repr

namespace Registration

/-- The rules that a registration breaks. -/
def violations (registration : Registration) : List Violation :=
  TextRule.violations "username" registration.username usernameRules
    ++ TextRule.violations "full_name" registration.fullName [.length 1 none]
    ++ TextRule.violations "email" registration.email [.email]
    ++ TextRule.violations "password" registration.password passwordRules
    ++ TextRule.violations "password_confirm" registration.passwordConfirm
      [.matching registration.password]

/-- How a registration is read and checked. -/
def form : Form Registration where
  shape := ⟨"CreateUserRequest", [("username", .text), ("full_name", .text), ("email", .text),
    ("password", .text), ("password_confirm", .text)]⟩
  build := fun (username, fullName, email, password, passwordConfirm, ()) =>
    ⟨username, fullName, email, password, passwordConfirm⟩
  violations := violations

end Registration

/-- A request to log in. -/
structure Credentials where
  username : String
  password : String
  deriving DecidableEq, Repr

namespace Credentials

/-- The rules that credentials break. -/
def violations (credentials : Credentials) : List Violation :=
  TextRule.violations "username" credentials.username usernameRules
    ++ TextRule.violations "password" credentials.password passwordRules

/-- How credentials are read and checked. -/
def form : Form Credentials where
  shape := ⟨"LoginUserRequest", [("username", .text), ("password", .text)]⟩
  build := fun (username, password, ()) => ⟨username, password⟩
  violations := violations

end Credentials

namespace ProfileUpdate

/-- The rules that a change of a profile breaks. -/
def violations (update : ProfileUpdate) : List Violation :=
  TextRule.optionalViolations "full_name" update.fullName [.length 1 none]
    ++ TextRule.optionalViolations "email" update.email [.email]
    ++ TextRule.optionalViolations "old_password" update.oldPassword passwordRules
    ++ TextRule.optionalViolations "new_password" update.newPassword passwordRules

/-- How a change of a profile is read and checked. -/
def form : Form ProfileUpdate where
  shape := ⟨"UpdateUserRequest", [("full_name", .optionalText), ("email", .optionalText),
    ("old_password", .optionalText), ("new_password", .optionalText)]⟩
  build := fun (fullName, email, oldPassword, newPassword, ()) =>
    ⟨fullName, email, oldPassword, newPassword⟩
  violations := violations

end ProfileUpdate

/-- A request for a new access token. -/
structure RenewalRequest where
  refreshToken : String
  deriving DecidableEq, Repr

namespace RenewalRequest

/-- The rules that a request for renewal breaks. -/
def violations (request : RenewalRequest) : List Violation :=
  TextRule.violations "refresh_token" request.refreshToken [.length 1 none]

/-- How a request for renewal is read and checked. -/
def form : Form RenewalRequest where
  shape := ⟨"RenewAccessTokenRequest", [("refresh_token", .text)]⟩
  build := fun (refreshToken, ()) => ⟨refreshToken⟩
  violations := violations

end RenewalRequest

/-- A request to open an account. -/
structure AccountRequest where
  currency : String
  deriving DecidableEq, Repr

namespace AccountRequest

/-- The rules that a request for an account breaks. -/
def violations (request : AccountRequest) : List Violation :=
  TextRule.violations "currency" request.currency [.currency]

/-- How a request for an account is read and checked. -/
def form : Form AccountRequest where
  shape := ⟨"CreateAccountRequest", [("currency", .text)]⟩
  build := fun (currency, ()) => ⟨currency⟩
  violations := violations

end AccountRequest

/-- A request to move funds. -/
structure TransferRequest where
  fromAccountId : Int
  toAccountId : Int
  amount : Int
  deriving DecidableEq, Repr

namespace TransferRequest

/-- The rules that a request to move funds breaks. -/
def violations (request : TransferRequest) : List Violation :=
  IntegerRule.violations "from_account_id" request.fromAccountId ⟨1, none⟩
    ++ IntegerRule.violations "to_account_id" request.toAccountId ⟨1, none⟩
    ++ IntegerRule.violations "amount" request.amount ⟨1, none⟩

/-- How a request to move funds is read and checked. -/
def form : Form TransferRequest where
  shape := ⟨"CreateTransferRequest",
    [("from_account_id", .integer), ("to_account_id", .integer), ("amount", .integer)]⟩
  build := fun (fromAccountId, toAccountId, amount, ()) => ⟨fromAccountId, toAccountId, amount⟩
  violations := violations

end TransferRequest

/-- The page of a listing that a request asks for. -/
structure PageRequest where
  number : Int
  size : Int
  deriving DecidableEq, Repr

namespace PageRequest

/-- The rules that a request for a page breaks. -/
def violations (request : PageRequest) : List Violation :=
  IntegerRule.violations "page_id" request.number ⟨1, none⟩
    ++ IntegerRule.violations "page_size" request.size ⟨1, some Page.maxSize⟩

/-- How a request for a page is read and checked. -/
def form : Form PageRequest where
  shape := ⟨"PaginationQuery", [("page_id", .integer), ("page_size", .integer)]⟩
  build := fun (number, size, ()) => ⟨number, size⟩
  violations := violations

end PageRequest

end Countinghouse
