import Countinghouse.Text.Integer
import Countinghouse.Text.Percent
import Countinghouse.Text.Utf8

/-!
# Routes

A `Route` is what a path leads to. `Route.ofPath?` reads it off the path, `Route.verbs`
says what can be done there, and `Route.isPrivate` whether that takes an access token.
-/

namespace Countinghouse

/-- What a path leads to. An identifier is kept as it stands in the path. -/
inductive Route where
  | health
  | users
  | login
  | renewal
  | profile
  | accounts
  | deletedAccounts
  | account (id : String)
  | restoration (id : String)
  | history (id : String)
  | transfers
  | transfer (id : String)
  /-- The start of the interactive documentation. -/
  | documentation
  /-- The description of the interface. -/
  | description
  deriving DecidableEq, Repr

/-- What can be done at a route. -/
inductive Verb where
  | get
  | post
  | patch
  | delete
  deriving DecidableEq, Repr

namespace Verb

/-- What a method asks for. A request for the head alone is answered like one for all. -/
def ofMethod? (method : String) : Option Verb :=
  if method = "GET" ∨ method = "HEAD" then some .get
  else if method = "POST" then some .post
  else if method = "PATCH" then some .patch
  else if method = "DELETE" then some .delete
  else none

/-- The methods that ask for something. -/
def methods : Verb → List String
  | .get => ["GET", "HEAD"]
  | .post => ["POST"]
  | .patch => ["PATCH"]
  | .delete => ["DELETE"]

end Verb

namespace Route

/-- The route that a path leads to. -/
def ofPath? (path : String) : Option Route :=
  match (path.toList.splitOn '/').map String.ofList with
  | ["", "docs"] => some .documentation
  | ["", "api-docs", "openapi.json"] => some .description
  | ["", "api", "v1", "health"] => some .health
  | ["", "api", "v1", "users"] => some .users
  | ["", "api", "v1", "users", "login"] => some .login
  | ["", "api", "v1", "users", "me"] => some .profile
  | ["", "api", "v1", "tokens", "renew"] => some .renewal
  | ["", "api", "v1", "accounts"] => some .accounts
  | ["", "api", "v1", "accounts", "deleted"] => some .deletedAccounts
  | ["", "api", "v1", "accounts", id] => if id = "" then none else some (.account id)
  | ["", "api", "v1", "accounts", id, "restore"] =>
    if id = "" then none else some (.restoration id)
  | ["", "api", "v1", "accounts", id, "transfers"] =>
    if id = "" then none else some (.history id)
  | ["", "api", "v1", "transfers"] => some .transfers
  | ["", "api", "v1", "transfers", id] => if id = "" then none else some (.transfer id)
  | _ => none

/-- The path that leads to a route. -/
def path : Route → String
  | .health => "/api/v1/health"
  | .users => "/api/v1/users"
  | .login => "/api/v1/users/login"
  | .profile => "/api/v1/users/me"
  | .renewal => "/api/v1/tokens/renew"
  | .accounts => "/api/v1/accounts"
  | .deletedAccounts => "/api/v1/accounts/deleted"
  | .account id => "/api/v1/accounts/" ++ id
  | .restoration id => "/api/v1/accounts/" ++ id ++ "/restore"
  | .history id => "/api/v1/accounts/" ++ id ++ "/transfers"
  | .transfers => "/api/v1/transfers"
  | .transfer id => "/api/v1/transfers/" ++ id
  | .documentation => "/docs"
  | .description => "/api-docs/openapi.json"

/-- Whether a route takes an access token. -/
def isPrivate : Route → Bool
  | .profile | .accounts | .deletedAccounts | .account _ | .restoration _ | .history _
  | .transfers | .transfer _ => true
  | .health | .users | .login | .renewal | .documentation | .description => false

/-- What can be done at a route. -/
def verbs : Route → List Verb
  | .health | .deletedAccounts | .history _ | .transfer _ | .documentation
  | .description => [.get]
  | .users | .login | .renewal | .restoration _ | .transfers => [.post]
  | .profile => [.get, .patch]
  | .accounts => [.post, .get]
  | .account _ => [.get, .delete]

/-- The methods that are allowed at a route. -/
def methods (route : Route) : List String := route.verbs.flatMap Verb.methods

/-- Why the text of an identifier is none. -/
inductive IdFault where
  | notText
  | notInteger (text : String)
  deriving DecidableEq, Repr

/-- The text of a fault. -/
def IdFault.message : IdFault → String
  | .notText => "Invalid URL: Invalid UTF-8 in `id`"
  | .notInteger text => "Invalid URL: Cannot parse `" ++ text ++ "` to a `i64`"

/-- The identifier that stands in a path. -/
def readId (text : String) : Except IdFault Int :=
  match Utf8.decode? (Percent.decode (Utf8.encode text)) with
  | none => .error .notText
  | some decoded =>
    match IntegerBounds.signed64.parse decoded.toList with
    | .ok id => .ok id
    | .error _ => .error (.notInteger decoded)

end Route

end Countinghouse
