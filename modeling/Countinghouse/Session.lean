import Countinghouse.User
import Countinghouse.Uuid

/-!
# Sessions

A session is what a login leaves behind so that its refresh token can be renewed or
blocked. Its identifier is the identifier of the refresh token; after creation only
`Session.isBlocked` changes.
-/

namespace Countinghouse

/-- What is known about the client that logs in. -/
structure Client where
  userAgent : String
  clientIp : String
  deriving DecidableEq, Repr, Inhabited

/-- A stored session. -/
structure Session where
  id : Uuid
  username : String
  refreshToken : String
  client : Client
  isBlocked : Bool
  expiresAt : Instant
  createdAt : Instant
  deriving DecidableEq, Repr, Inhabited

/-- What opening a session stores. -/
structure NewSession where
  id : Uuid
  username : String
  refreshToken : String
  client : Client
  expiresAt : Instant
  deriving DecidableEq, Repr, Inhabited

namespace Session

/-- The form a session is shown in. The refresh token is left out. -/
def toJson (session : Session) : Json :=
  .object [
    ("id", .text session.id.render),
    ("username", .text session.username),
    ("user_agent", .text session.client.userAgent),
    ("client_ip", .text session.client.clientIp),
    ("is_blocked", .bool session.isBlocked),
    ("expires_at", .text session.expiresAt.render),
    ("created_at", .text session.createdAt.render)]

end Session

/-- What a login answers with. -/
structure Login where
  sessionId : Uuid
  accessToken : String
  accessTokenExpiresAt : Instant
  refreshToken : String
  refreshTokenExpiresAt : Instant
  user : User
  deriving DecidableEq, Repr, Inhabited

/-- What a renewal answers with. -/
structure Renewal where
  accessToken : String
  accessTokenExpiresAt : Instant
  deriving DecidableEq, Repr, Inhabited

namespace Login

/-- The form a login's answer is shown in. -/
def toJson (login : Login) : Json :=
  .object [
    ("session_id", .text login.sessionId.render),
    ("access_token", .text login.accessToken),
    ("access_token_expires_at", .text login.accessTokenExpiresAt.render),
    ("refresh_token", .text login.refreshToken),
    ("refresh_token_expires_at", .text login.refreshTokenExpiresAt.render),
    ("user", login.user.toJson)]

end Login

namespace Renewal

/-- The form a renewal's answer is shown in. -/
def toJson (renewal : Renewal) : Json :=
  .object [
    ("access_token", .text renewal.accessToken),
    ("access_token_expires_at", .text renewal.accessTokenExpiresAt.render)]

end Renewal

end Countinghouse
