import Countinghouse.Gateway.Description.Component
import Countinghouse.Gateway.Route

/-!
# Endpoints of the interface description

An `Endpoint` describes what one method does at one route: what it takes and what it
answers. Whether it takes an access token is not said here, because the route says so.
-/

namespace Countinghouse.Description

/-- A part of the interface. -/
inductive Area where
  | user
  | account
  | transfer
  | system
  deriving DecidableEq, Repr

namespace Area

/-- The name of an area. -/
def name : Area → String
  | .user => "User"
  | .account => "Account"
  | .transfer => "Transfer"
  | .system => "System"

/-- What an area is about. -/
def description : Area → String
  | .user => "Registration, login, profile and token renewal"
  | .account => "Account management (auth required)"
  | .transfer => "Funds transfers (auth required)"
  | .system => "Health checks and system info"

end Area

/-- An integer that stands in the locator of a request. -/
structure Parameter where
  name : String
  description : Option String

/-- The description of a parameter. -/
def Parameter.toJson (parameter : Parameter) : Json :=
  .object ([("name", .text parameter.name), ("in", .text "path")]
    ++ optional "description" (parameter.description.map Json.text)
    ++ [("required", .bool true), ("schema", Kind.integer.toJson)])

/-- Something an endpoint answers. -/
structure Outcome where
  status : Nat
  description : String
  content : Option Kind := none

/-- What one method does at one route. -/
structure Endpoint where
  route : Route
  verb : Verb
  area : Area
  /-- A name that no other endpoint has. -/
  operation : String
  summary : String
  description : Option String := none
  parameters : List Parameter := []
  /-- The component that describes the body. -/
  body : Option String := none
  outcomes : List Outcome

/-- The name of a method in a description. -/
def verbName : Verb → String
  | .get => "get"
  | .post => "post"
  | .patch => "patch"
  | .delete => "delete"

/-- A body of JSON. -/
def jsonContent (schema : Json) : Json :=
  .object [("application/json", .object [("schema", schema)])]

/-- The description of an outcome. -/
def Outcome.toJson (outcome : Outcome) : Json :=
  .object (("description", .text outcome.description)
    :: optional "content" (outcome.content.map fun kind => jsonContent kind.toJson))

namespace Endpoint

/-- The demand for an access token. -/
def security : Json := .list [.object [("jwt_auth", .list [])]]

/-- The description of an endpoint. -/
def toJson (endpoint : Endpoint) : Json :=
  .object ([("tags", .list [.text endpoint.area.name]), ("summary", .text endpoint.summary)]
    ++ optional "description" (endpoint.description.map Json.text)
    ++ [("operationId", .text endpoint.operation)]
    ++ (if endpoint.parameters.isEmpty then [] else
      [("parameters", .list (endpoint.parameters.map Parameter.toJson))])
    ++ optional "requestBody" (endpoint.body.map fun name =>
      .object [("content", jsonContent (reference name)), ("required", .bool true)])
    ++ [("responses", .object (endpoint.outcomes.map fun outcome =>
      (toString outcome.status, outcome.toJson)))]
    ++ (if endpoint.route.isPrivate then [("security", security)] else []))

/-- What stands for an identifier in the path of a description. -/
def anyId : String := "\x7bid\x7d"

/-- The identifier of an account. -/
def accountId : Parameter := ⟨"id", some "Account ID"⟩

/-- The caller of a private route is not known. -/
def unknownCaller : Outcome := { status := 401, description := "Authentication failed" }

/-- An account is not the caller's. -/
def foreignAccount : Outcome :=
  { status := 403, description := "Account belongs to another user" }

/-- There is no such account. -/
def noAccount : Outcome := { status := 404, description := "Account not found" }

/-- A request that breaks the rules of its form. -/
def badRequest : Outcome := { status := 400, description := "Invalid parameters" }

/-- Every endpoint. -/
def all : List Endpoint := [
  { route := .health, verb := .get, area := .system, operation := "health_check"
    summary := "Health check endpoint"
    description := some ("Pings PostgreSQL when the gateway runs against it. Failures are logged,\n"
      ++ "never exposed in the response.\n\n"
      ++ "- Healthy: 200 OK + \x7bcode: 0, data: \x7btimestamp_ms, version\x7d\x7d\n"
      ++ "- Unhealthy: 503 Service Unavailable + \x7bcode: 5001, msg: \"unavailable\"\x7d")
    outcomes := [⟨200, "Service healthy", some (.component "HealthResponse")⟩,
      ⟨503, "Service unavailable", none⟩] },
  { route := .users, verb := .post, area := .user, operation := "create_user"
    summary := "Register a new user", description := some "POST /api/v1/users"
    body := some "CreateUserRequest"
    outcomes := [⟨201, "User created", some (.component "UserResponse")⟩, badRequest,
      ⟨409, "Username or email already exists", none⟩] },
  { route := .login, verb := .post, area := .user, operation := "login_user"
    summary := "Log in and open a session", description := some "POST /api/v1/users/login"
    body := some "LoginUserRequest"
    outcomes := [⟨200, "Tokens issued", some (.component "LoginResponse")⟩, badRequest,
      ⟨401, "Invalid username or password", none⟩] },
  { route := .profile, verb := .get, area := .user, operation := "get_me"
    summary := "Current user's profile", description := some "GET /api/v1/users/me"
    outcomes := [⟨200, "User profile", some (.component "UserResponse")⟩, unknownCaller,
      ⟨404, "User not found", none⟩] },
  { route := .profile, verb := .patch, area := .user, operation := "update_me"
    summary := "Update the current user's profile"
    description := some "PATCH /api/v1/users/me", body := some "UpdateUserRequest"
    outcomes := [⟨200, "Updated profile", some (.component "UserResponse")⟩,
      ⟨400, "Invalid parameters or email unchanged", none⟩,
      ⟨401, "Authentication failed or wrong old password", none⟩] },
  { route := .renewal, verb := .post, area := .user, operation := "renew_access_token"
    summary := "Exchange a refresh token for a new access token"
    description := some "POST /api/v1/tokens/renew", body := some "RenewAccessTokenRequest"
    outcomes := [⟨200, "New access token", some (.component "RenewAccessTokenResponse")⟩,
      ⟨401, "Invalid, blocked, expired or mismatched refresh token", none⟩] },
  { route := .accounts, verb := .post, area := .account, operation := "create_account"
    summary := "Open an account for the caller", description := some "POST /api/v1/accounts"
    body := some "CreateAccountRequest"
    outcomes := [⟨201, "Account created", some (.component "Account")⟩,
      ⟨400, "Unsupported currency", none⟩, unknownCaller,
      ⟨409, "Caller already has an account in this currency", none⟩] },
  { route := .accounts, verb := .get, area := .account, operation := "list_accounts"
    summary := "GET /api/v1/accounts"
    outcomes := [⟨200, "Caller's active accounts", some (.list "Account")⟩, unknownCaller] },
  { route := .deletedAccounts, verb := .get, area := .account
    operation := "list_deleted_accounts", summary := "GET /api/v1/accounts/deleted"
    outcomes := [⟨200, "Caller's soft-deleted accounts", some (.list "Account")⟩,
      unknownCaller] },
  { route := .account anyId, verb := .get, area := .account, operation := "get_account"
    summary := "GET /api/v1/accounts/\x7bid\x7d", parameters := [accountId]
    outcomes := [⟨200, "Account details", some (.component "Account")⟩, foreignAccount,
      noAccount] },
  { route := .account anyId, verb := .delete, area := .account, operation := "delete_account"
    summary := "DELETE /api/v1/accounts/\x7bid\x7d", parameters := [accountId]
    outcomes := [⟨200, "Account soft-deleted", none⟩, foreignAccount, noAccount] },
  { route := .restoration anyId, verb := .post, area := .account
    operation := "restore_account", summary := "POST /api/v1/accounts/\x7bid\x7d/restore"
    parameters := [accountId]
    outcomes := [⟨200, "Account restored", none⟩, foreignAccount, noAccount] },
  { route := .history anyId, verb := .get, area := .transfer
    operation := "list_account_transfers"
    summary := "Transfers in and out of an account, most recent first"
    description :=
      some "GET /api/v1/accounts/\x7bid\x7d/transfers?page_id=1&page_size=10"
    parameters := [accountId, ⟨"page_id", some "1-based page number"⟩, ⟨"page_size", none⟩]
    outcomes := [⟨200, "One page of transfers", some (.list "Transfer")⟩,
      ⟨400, "Invalid account id or pagination", none⟩, foreignAccount] },
  { route := .transfers, verb := .post, area := .transfer, operation := "create_transfer"
    summary := "Move funds from one of the caller's accounts to any account"
    description := some "POST /api/v1/transfers", body := some "CreateTransferRequest"
    outcomes := [⟨201, "Transfer committed", some (.component "TransferTxResult")⟩,
      ⟨400, "Same account, currency mismatch or invalid amount", none⟩, unknownCaller,
      ⟨403, "Source account belongs to another user", none⟩, noAccount,
      ⟨422, "Account is deleted", none⟩] },
  { route := .transfer anyId, verb := .get, area := .transfer, operation := "get_transfer"
    summary := "GET /api/v1/transfers/\x7bid\x7d", parameters := [⟨"id", some "Transfer ID"⟩]
    outcomes := [⟨200, "Transfer", some (.component "Transfer")⟩,
      ⟨403, "Caller owns neither account", none⟩, ⟨404, "Transfer not found", none⟩] }]

end Endpoint

end Countinghouse.Description
