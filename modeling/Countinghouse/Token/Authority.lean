import Countinghouse.Hash.Sha256
import Countinghouse.Operation
import Countinghouse.Token.Base64
import Countinghouse.Token.Header

/-!
# The token authority

The authority issues tokens and verifies them. A token is three texts joined by dots: a
header, the claims, and a signature over the two. Header and claims are JSON in Base64,
the signature is the keyed hash of the text before the last dot, in Base64 as well.

`Authority.issue` writes tokens, `Authority.verify` accepts a token at an instant when
its signature is the one the authority would have written, its header and claims are
well formed, and the second in which it expires is not over.
-/

namespace Countinghouse

/-- What an authority is set up with. -/
structure TokenSettings where
  key : String
  accessSeconds : Nat
  refreshSeconds : Nat
  deriving DecidableEq, Repr, Inhabited

/-- The longest lifetime, in seconds, that can be measured in milliseconds of 64 bits. -/
def TokenSettings.longest : Nat := 9223372036854775

/-- Issues and verifies tokens with one key. -/
structure Authority where
  key : List UInt8
  accessSeconds : Nat
  refreshSeconds : Nat
  access_le : accessSeconds ≤ TokenSettings.longest
  refresh_le : refreshSeconds ≤ TokenSettings.longest

namespace Authority

/-- The failure of a lifetime that cannot be measured. -/
def tooLong (seconds : Nat) : BankError :=
  .internal ("token duration out of range: " ++ toString seconds ++ "s")

/-- The authority with given settings. The lifetime of access tokens is looked at first. -/
def make (settings : TokenSettings) : Except BankError Authority :=
  if access_le : settings.accessSeconds ≤ TokenSettings.longest then
    if refresh_le : settings.refreshSeconds ≤ TokenSettings.longest then
      .ok ⟨settings.key.toUTF8.toList, settings.accessSeconds, settings.refreshSeconds,
        access_le, refresh_le⟩
    else .error (tooLong settings.refreshSeconds)
  else .error (tooLong settings.accessSeconds)

/-- The lifetime of tokens of a kind, in seconds. -/
def lifetime (authority : Authority) : TokenKind → Nat
  | .access => authority.accessSeconds
  | .refresh => authority.refreshSeconds

/-- A JSON value as a part of a token. -/
def encodePart (json : Json) : List Char := Base64.encode Base64.url json.render.toUTF8.toList

/-- The JSON value of a part of a token. -/
def decodePart? (part : List Char) : Option Document :=
  Base64.decode? Base64.url part >>= Document.parse?

/-- The signature of a text. -/
def sign (authority : Authority) (message : List Char) : List Char :=
  Base64.encode Base64.url
    (Sha256.keyed authority.key (String.ofList message).toUTF8.toList)

/-- The token that says the claims. -/
def write (authority : Authority) (claims : Claims) : String :=
  let message := encodePart Header.json ++ '.' :: encodePart claims.toJson
  String.ofList (message ++ '.' :: authority.sign message)

/-- When a token issued now expires, if that has a date. -/
def expiry? (authority : Authority) (now : Instant) (kind : TokenKind) : Option Instant :=
  now.truncate.addSeconds? (authority.lifetime kind)

/-- The claims of a token issued now; they carry whole seconds. -/
def claims (authority : Authority) (now : Instant) (id : Uuid) (kind : TokenKind)
    (username : String) : Except BankError Claims :=
  match authority.expiry? now kind with
  | some expiresAt => .ok ⟨id, username, kind, now.truncate, expiresAt⟩
  | none => .error (.internal "token expiry out of range")

/-- A token issued now, with its claims. -/
def issue (authority : Authority) (now : Instant) (id : Uuid) (kind : TokenKind)
    (username : String) : Except BankError (String × Claims) :=
  (authority.claims now id kind username).map fun claims => (authority.write claims, claims)

/-- Issues a token under a fresh identifier. -/
def mint (authority : Authority) (kind : TokenKind) (username : String) :
    Attempt (String × Claims) := do
  let now ← ExceptT.lift Operation.now
  let id ← ExceptT.lift Operation.freshId
  Attempt.ofExcept (authority.issue now id kind username)

/-- Splits a text at its last dot. -/
def splitLast? (text : List Char) : Option (List Char × List Char) :=
  let tail := (text.reverse.takeWhile (· != '.')).reverse
  if tail.length < text.length then
    some (text.take (text.length - tail.length - 1), tail)
  else none

/-- The claims of a token whose signature and header are right. -/
def read? (authority : Authority) (token : List Char) : Option Claims := do
  let (message, signature) ← splitLast? token
  let (header, body) ← splitLast? message
  guard (Header.isAccepted (← decodePart? header))
  guard (signature = authority.sign message)
  Claims.ofDocument? (← decodePart? body)

/-- The claims of a token, if it is acceptable at an instant. -/
def verify (authority : Authority) (now : Instant) (token : String) : Except BankError Claims :=
  match authority.read? token.toList with
  | some claims =>
    if 0 ≤ claims.expiresAt.seconds ∧ now.seconds ≤ claims.expiresAt.seconds then .ok claims
    else .error .invalidToken
  | none => .error .invalidToken

/-- The claims of a token, if it is acceptable at an instant and of a given kind. -/
def verifyKind (authority : Authority) (now : Instant) (token : String) (kind : TokenKind) :
    Except BankError Claims :=
  match authority.verify now token with
  | .ok claims => if claims.kind = kind then .ok claims else .error .invalidToken
  | .error error => .error error

end Authority

end Countinghouse
