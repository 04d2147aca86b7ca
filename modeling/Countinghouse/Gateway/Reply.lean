import Countinghouse.Event
import Countinghouse.Failure
import Countinghouse.Request.Rule

/-!
# What the gateway answers

Every route answers with an `Envelope`: a code, which is zero exactly on success, a notice,
and the data on success. A `Refusal` is an answer that is no success; `Refusal.ofError`
gives the one for a failure of the bank, and keeps to itself what only the log should
know.
-/

namespace Countinghouse

/-- What an answer tells a person. -/
inductive Notice where
  | text (value : String)
  /-- The rules that a request breaks. -/
  | violations (list : List Violation)

namespace Notice

/-- The text of a notice. -/
def render : Notice → String
  | .text value => value
  | .violations list => Violation.notice list

end Notice

/-- The body of an answer. -/
structure Envelope where
  code : Int
  notice : Notice
  data : Option Json

namespace Envelope

/-- The form of an envelope. -/
def toJson (envelope : Envelope) : Json :=
  .object ([("code", .int envelope.code), ("msg", .text envelope.notice.render)]
    ++ (envelope.data.map fun data => ("data", data)).toList)

end Envelope

/-- The body of a response. -/
inductive Content where
  | empty
  | plain (text : String)
  | envelope (envelope : Envelope)
  /-- A JSON document that is no envelope. -/
  | document (json : Json)
  /-- A page for a browser. -/
  | html (text : String)

/-- A response to a request. -/
structure Reply where
  status : Nat
  content : Content
  /-- The methods that are allowed, where another one was used. -/
  allow : List String := []
  /-- Where to look instead. -/
  location : Option String := none
  /-- The body was not asked for. -/
  headOnly : Bool := false

namespace Reply

/-- A success with data. -/
def success (status : Nat) (data : Json) : Reply :=
  { status, content := .envelope ⟨0, .text "ok", some data⟩ }

/-- The request was done. -/
def ok (data : Json) : Reply := success 200 data

/-- The request was done and left something new. -/
def created (data : Json) : Reply := success 201 data

/-- Nothing is found at a path. -/
def notFound : Reply := { status := 404, content := .empty }

/-- The method is not one of those that are allowed. -/
def notAllowed (allow : List String) : Reply := { status := 405, content := .empty, allow }

/-- Another path is to be looked at. -/
def seeOther (location : String) : Reply :=
  { status := 303, content := .empty, location := some location }

/-- The media type of the body. -/
def contentType? (reply : Reply) : Option String :=
  match reply.content with
  | .empty => none
  | .plain _ => some "text/plain; charset=utf-8"
  | .envelope _ | .document _ => some "application/json"
  | .html _ => some "text/html"

/-- The text of the body. -/
def body (reply : Reply) : String :=
  if reply.headOnly then "" else
  match reply.content with
  | .empty => ""
  | .plain text | .html text => text
  | .envelope envelope => envelope.toJson.render
  | .document json => json.render

end Reply

/-- An answer that is no success. -/
structure Refusal where
  status : Nat
  code : Int
  notice : Notice

namespace Refusal

/-- The request is not well formed. -/
def badRequest (notice : Notice) : Refusal := ⟨400, 1001, notice⟩

/-- The caller is not known. -/
def unauthorized (code : Int) (text : String) : Refusal := ⟨401, code, .text text⟩

/-- The code for a request that does not say who is calling. -/
def missingAuthorization : Int := 2001

/-- The code for a request whose caller cannot be made out. -/
def failedAuthorization : Int := 2002

/-- Something went wrong inside. -/
def internal (text : String) : Refusal := ⟨500, 5000, .text text⟩

/-- The service cannot be used at present. -/
def unavailable (text : String) : Refusal := ⟨503, 5001, .text text⟩

/-- The code that clients know a failure of the bank by. -/
def codeOf : BankError → Int
  | .sameAccountTransfer .. => 1002
  | .currencyMismatch .. => 1003
  | .accountDeleted _ | .storage (.accountUnavailable _) => 1004
  | .emailSameAsOld => 1005
  | .invalidAccountId _ | .invalidAmount _ | .unsupportedCurrency _
  | .invalidPagination _ => 1001
  | .invalidToken | .invalidCredentials => failedAuthorization
  | .blockedRefreshToken => 2003
  | .expiredRefreshToken => 2004
  | .mismatchedRefreshTokens => 2005
  | .passwordWrong => 2006
  | .notAccountOwner => 3001
  | .accountNotFound _ | .transferNotFound _ | .userNotFound _ => 4001
  | .userAlreadyExists | .storage (.uniqueViolation _) | .storage (.foreignKeyViolation _) =>
    4091
  | .internal _ | .storage (.database _) | .storage (.internal _) => 5000

/-- The text that clients are told about a failure of the bank. -/
def textOf : BankError → String
  | .storage (.uniqueViolation _) | .storage (.foreignKeyViolation _) =>
    "conflicts with existing data"
  | .internal _ | .storage (.database _) | .storage (.internal _) => "internal server error"
  | error => error.message

/-- The answer to a failure of the bank. -/
def ofError (error : BankError) : Refusal := ⟨error.httpStatus, codeOf error, .text (textOf error)⟩

/-- What the log is told about a failure that clients are told nothing about. -/
def event? (error : BankError) : Option Event :=
  match error with
  | .internal _ | .storage (.database _) | .storage (.internal _) =>
    some ⟨.error, "bank_api::gateway::types::response", "request failed",
      [("code", .text error.code), ("error", .text error.message)]⟩
  | _ => none

/-- The response that carries a refusal. -/
def toReply (refusal : Refusal) : Reply :=
  { status := refusal.status, content := .envelope ⟨refusal.code, refusal.notice, none⟩ }

end Refusal

end Countinghouse
