import Countinghouse.Bank.Basic

/-!
# Logging in and renewing access

A login issues two tokens and stores a session under the identifier of the refresh token.
A renewal leaves the refresh token as it is and issues another access token, once the
session has passed every check.
-/

namespace Countinghouse.Bank

/-- The user whose credentials were given, if they are right. -/
def authenticate (bank : Bank) (username password : String) : Attempt (Option User) := do
  match ← Attempt.call (.getUser username) with
  | none => return none
  | some user =>
    let isRight ← Attempt.ofExcept (bank.passwords.check password user.hashedPassword)
    return if isRight then some user else none

/-- Opens a session for a user with the right password. -/
def login (bank : Bank) (username password : String) (client : Client) : Attempt Login := do
  let some user ← authenticate bank username password
    | Attempt.reject
        (Event.warning "auth" "login" "invalid credentials" [("username", .text username)])
        .invalidCredentials
  let (accessToken, access) ← bank.authority.mint .access user.username
  let (refreshToken, refresh) ← bank.authority.mint .refresh user.username
  let session ← Attempt.call
    (.createSession ⟨refresh.id, user.username, refreshToken, client, refresh.expiresAt⟩)
  Attempt.report (Event.notice "auth" "login succeeded"
    [("session_id", .text session.id.render), ("username", .text user.username),
      ("client_ip", .text session.client.clientIp)])
  return ⟨session.id, accessToken, access.expiresAt, refreshToken, refresh.expiresAt, user⟩

/-- Passes when a session may be renewed with a token at an instant. The first of these
that does not hold is reported: the session is not blocked, it has not expired, it is the
user's, and it was opened with this very token. -/
def checkSession (now : Instant) (session : Session) (claims : Claims) (presented : String) :
    Except BankError Unit :=
  if session.isBlocked then .error .blockedRefreshToken
  else if session.expiresAt.nanos < now.nanos then .error .expiredRefreshToken
  else if session.username ≠ claims.username then .error .mismatchedRefreshTokens
  else if session.refreshToken ≠ presented then .error .mismatchedRefreshTokens
  else .ok ()

/-- Issues a new access token for a refresh token. The store is not asked about a token
that does not verify. -/
def renew (bank : Bank) (refreshToken : String) : Attempt Renewal := do
  let now ← ExceptT.lift Operation.now
  let claims ← Attempt.ofExcept (bank.authority.verifyKind now refreshToken .refresh)
  let some session ← Attempt.call (.getSession claims.id)
    | Attempt.reject
        (Event.warning "auth" "renew" "session not found"
          [("session_id", .text claims.id.render)])
        .invalidToken
  let present ← ExceptT.lift Operation.now
  if let .error error := checkSession present session claims refreshToken then
    Attempt.reject
      (Event.warning "auth" "renew" "renewal rejected"
        [("session_id", .text session.id.render), ("username", .text session.username),
          ("error", .text error.message)])
      error
  let (accessToken, access) ← bank.authority.mint .access session.username
  Attempt.report (Event.notice "auth" "access token renewed"
    [("session_id", .text session.id.render), ("username", .text session.username)])
  return ⟨accessToken, access.expiresAt⟩

end Countinghouse.Bank
