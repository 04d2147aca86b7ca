import Countinghouse.Bank.Accounts
import Countinghouse.Bank.Sessions
import Countinghouse.Bank.Transfers
import Countinghouse.Bank.Users
import Countinghouse.Gateway.Description.Document
import Countinghouse.Gateway.Reply
import Countinghouse.Gateway.Request
import Countinghouse.Gateway.Route

/-!
# Handling requests

`Gateway.handle` is the whole gateway: from a request to a reply, as an operation over the
surroundings of the bank. A private route is entered only with an access token that
verifies, and whoever the token names is the caller of everything done there. What a
request carries is then looked at in this order: the identifier in the path, the query,
the body.
-/

namespace Countinghouse

/-- A gateway to the bank. -/
structure Gateway where
  bank : Bank
  /-- Whether the bank runs on a database that can be asked for a sign of life. -/
  hasDatabase : Bool
  /-- The version that is shown to clients. -/
  version : String

/-- Part of the handling of a request: goes on, or ends with a reply. -/
abbrev Handler (α : Type) := ExceptT Reply Operation α

namespace Handler

/-- Ends with a refusal. -/
def refuse {α : Type} (refusal : Refusal) : Handler α := throw refusal.toReply

/-- Does something at the bank. A failure ends the handling, and one that the client is told
nothing about is logged. -/
def attempt {α : Type} (attempt : Attempt α) : Handler α :=
  ExceptT.mk do
    match ← attempt.run with
    | .ok value => return .ok value
    | .error error =>
      if let some event := Refusal.event? error then Operation.report event
      return .error (Refusal.ofError error).toReply

/-- The reply that handling ends with. -/
def finish (handler : Handler Reply) : Operation Reply := do
  match ← handler.run with
  | .ok reply => return reply
  | .error reply => return reply

/-- The identifier in the path. -/
def pathId (text : String) : Handler Int :=
  match Route.readId text with
  | .ok id => return id
  | .error fault => throw { status := 400, content := .plain fault.message }

/-- Content that keeps its rules. -/
def checked {α : Type} (form : Form α) (content : α) : Handler α :=
  match form.violations content with
  | [] => return content
  | violations => refuse (.badRequest (.violations violations))

/-- Why a body is not the form that was expected. -/
inductive BodyFault where
  | notJson
  | tooLong
  | bad (fault : JsonFault)

/-- The text of a fault. -/
def BodyFault.message : BodyFault → String
  | .notJson => "Expected request with `Content-Type: application/json`"
  | .tooLong => "Failed to buffer the request body: length limit exceeded"
  | .bad fault =>
    (match fault.cause.category with
      | .cut | .malformed => "Failed to parse the request body as JSON: "
      | .shape => "Failed to deserialize the JSON body into the target type: ")
      ++ (match fault.place with
        | some place => place ++ ": "
        | none => "")
      ++ fault.message

/-- Reads a form from the body of a request. -/
def readBody {α : Type} (form : Form α) (request : Request) : Except BodyFault α :=
  if !request.isJson then .error .notJson
  else if Request.maxBody < request.body.length then .error .tooLong
  else (form.ofJson request.body).mapError .bad

/-- The content of the body. -/
def body {α : Type} (form : Form α) (request : Request) : Handler α :=
  match readBody form request with
  | .ok content => checked form content
  | .error fault => refuse (.badRequest (.text ("Invalid JSON: " ++ fault.message)))

/-- The content of the query. -/
def query {α : Type} (form : Form α) (request : Request) : Handler α :=
  match form.ofQuery (Utf8.encode request.query) with
  | .ok content => checked form content
  | .error fault =>
    refuse (.badRequest
      (.text ("Invalid query: Failed to deserialize query string: " ++ fault.message)))

end Handler

namespace Gateway

open Handler

/-- The claims of the caller's access token. -/
def authenticate (gateway : Gateway) (request : Request) : Handler Claims := do
  match request.authorization with
  | .missing =>
    refuse (.unauthorized Refusal.missingAuthorization "Missing Authorization header")
  | .malformed =>
    refuse (.unauthorized Refusal.failedAuthorization "Invalid authorization header format")
  | .bearer token =>
    match gateway.bank.authority.verifyKind (← Operation.now) token .access with
    | .ok claims => return claims
    | .error _ =>
      refuse (.unauthorized Refusal.failedAuthorization "Invalid or expired token")

/-- A sign of life. -/
def health (gateway : Gateway) : Handler Reply := do
  let alive ← if gateway.hasDatabase then Operation.need .ping else pure (.ok ())
  match alive with
  | .error failure =>
    Operation.report ⟨.error, "bank_api::gateway::handlers::health",
      "[HEALTH] PostgreSQL ping failed", [("error", .text failure.message)]⟩
    refuse (.unavailable "unavailable")
  | .ok () =>
    let now ← Operation.now
    return .ok (.object [("timestamp_ms", .int now.milliseconds),
      ("version", .text gateway.version)])

/-- Handles a request to a route that takes no token. -/
def handlePublic (gateway : Gateway) (request : Request) : Route → Handler Reply
  | .health => gateway.health
  | .users => do
    let content ← body Registration.form request
    let user ← attempt
      (gateway.bank.register content.username content.fullName content.email content.password)
    return .created user.toJson
  | .login => do
    let content ← body Credentials.form request
    let login ← attempt (gateway.bank.login content.username content.password request.client)
    return .ok login.toJson
  | .renewal => do
    let content ← body RenewalRequest.form request
    let renewal ← attempt (gateway.bank.renew content.refreshToken)
    return .ok renewal.toJson
  | .documentation => return .seeOther "/docs/"
  | .description => return { status := 200, content := .document Description.json }
  | _ => return .notFound

/-- Handles a request of a caller to a route that takes a token. -/
def handlePrivate (gateway : Gateway) (caller : String) (request : Request) (verb : Verb) :
    Route → Handler Reply
  | .profile =>
    if verb = .patch then do
      let update ← body ProfileUpdate.form request
      let user ← attempt (gateway.bank.updateUser caller update)
      return .ok user.toJson
    else do
      let user ← attempt (Bank.user caller)
      return .ok user.toJson
  | .accounts =>
    if verb = .post then do
      let content ← body AccountRequest.form request
      let currency ← attempt (.ofExcept (Currency.parse content.currency))
      let account ← attempt (gateway.bank.openAccount caller currency)
      return .created account.toJson
    else do
      let accounts ← attempt (Bank.accounts caller)
      return .ok (.list (accounts.map Account.toJson))
  | .deletedAccounts => do
    let accounts ← attempt (Bank.deletedAccounts caller)
    return .ok (.list (accounts.map Account.toJson))
  | .account id =>
    if verb = .delete then do
      let id ← pathId id
      attempt (Bank.deleteAccount caller id)
      return .ok .null
    else do
      let id ← pathId id
      let account ← attempt (Bank.account caller id)
      return .ok account.toJson
  | .restoration id => do
    let id ← pathId id
    attempt (Bank.restoreAccount caller id)
    return .ok .null
  | .history id => do
    let id ← pathId id
    let content ← query PageRequest.form request
    let page ← attempt (.ofExcept (Page.make content.number content.size))
    let transfers ← attempt (Bank.transfersOf caller id page)
    return .ok (.list (transfers.map Transfer.toJson))
  | .transfers => do
    let content ← body TransferRequest.form request
    let movement ← attempt
      (Bank.transfer caller content.fromAccountId content.toAccountId content.amount)
    return .created movement.toJson
  | .transfer id => do
    let id ← pathId id
    let transfer ← attempt (Bank.transferById caller id)
    return .ok transfer.toJson
  | _ => return .notFound

/-- Handles a request to a route. What is not allowed there is refused, but on a private
route not before the caller is known. -/
def handleAt (gateway : Gateway) (request : Request) (route : Route) : Operation Reply := do
  let verb? := (Verb.ofMethod? request.method).filter route.verbs.contains
  let reply ← finish do
    if route.isPrivate then
      let claims ← gateway.authenticate request
      match verb? with
      | some verb => gateway.handlePrivate claims.username request verb route
      | none => return .notAllowed []
    else
      match verb? with
      | some _ => gateway.handlePublic request route
      | none => return .notAllowed []
  return { reply with
    allow := if verb?.isNone then route.methods else []
    headOnly := request.method == "HEAD" }

/-- Handles a request. -/
def handle (gateway : Gateway) (request : Request) : Operation Reply :=
  match Route.ofPath? request.path with
  | some route => gateway.handleAt request route
  | none => return .notFound

end Gateway

end Countinghouse
