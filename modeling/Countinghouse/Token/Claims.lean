import Countinghouse.Json.Document
import Countinghouse.Json.Value
import Countinghouse.Time.Instant
import Countinghouse.Uuid

/-!
# Claims of a token

A token carries a `Claims` record as a JSON object. `Claims.toJson` writes it, and
`Claims.ofDocument?` reads an object that may hold more than that: the registered claims
that the bank does not use are looked at only where they would contradict the others.
-/

namespace Countinghouse

/-- What a token is good for. -/
inductive TokenKind where
  /-- Authorizes calls. -/
  | access
  /-- Authorizes only the renewal of an access token. -/
  | refresh
  deriving DecidableEq, Repr, Inhabited

namespace TokenKind

/-- The name of a kind. -/
def name : TokenKind → String
  | .access => "access"
  | .refresh => "refresh"

/-- The kind with a name. -/
def ofName? (name : String) : Option TokenKind :=
  if name = "access" then some .access
  else if name = "refresh" then some .refresh
  else none

end TokenKind

/-- What a token says. -/
structure Claims where
  /-- Unique; for a refresh token also the identifier of the session. -/
  id : Uuid
  username : String
  kind : TokenKind
  issuedAt : Instant
  expiresAt : Instant
  deriving DecidableEq, Repr, Inhabited

namespace Claims

/-- The claims as they are written into a token. Times are in whole seconds. -/
def toJson (claims : Claims) : Json :=
  .object [
    ("jti", .text claims.id.render),
    ("sub", .text claims.username),
    ("kind", .text claims.kind.name),
    ("iat", .int claims.issuedAt.seconds),
    ("exp", .int claims.expiresAt.seconds)]

/-- The claims whose meaning is known. A token may not carry one of them twice. -/
def known : List String := ["jti", "sub", "kind", "iat", "exp", "nbf", "iss", "aud"]

end Claims

namespace Document

/-- The name of a variant that carries nothing: a text, or an object with that one key and
no value. -/
def variant? : Document → Option String
  | .text value => value
  | .object [(key, .null)] => key
  | _ => none

end Document

namespace Claims

open Document

/-- The kind a token is said to have. -/
def kindOf? (document : Document) : Option TokenKind := document.variant? >>= TokenKind.ofName?

/-- The instant that a number of seconds stands for. -/
def instantOf? (document : Document) : Option Instant := document.integer? >>= Instant.ofSeconds?

/-- Whether a claim that is not used can be passed over: a list or an object in the place
of a point in time cannot, unless it is empty. -/
def canPass : Document → Bool
  | .list items => items.isEmpty
  | .object fields => fields.isEmpty
  | _ => true

/-- Whether a token names an audience. The bank is none, so such a token is not for it. -/
def namesAudience (document : Document) : Bool := document.isText || document.isTextList

/-- The claims that an object holds. -/
def ofDocument? : Document → Option Claims
  | .object fields => do
    guard (hasKeysOnce known fields)
    guard ((under "nbf" fields).all canPass)
    guard (!(under "aud" fields).any namesAudience)
    let id ← only? "jti" fields >>= text? >>= Uuid.parse?
    let username ← only? "sub" fields >>= text?
    let kind ← only? "kind" fields >>= kindOf?
    let issuedAt ← only? "iat" fields >>= instantOf?
    let expiresAt ← only? "exp" fields >>= instantOf?
    return ⟨id, username, kind, issuedAt, expiresAt⟩
  | _ => none

end Claims

end Countinghouse
