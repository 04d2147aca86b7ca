import Countinghouse.Token.Claims

/-!
# The header of a token

Tokens are signed with HMAC over SHA-256, and their header says so. `Header.isAccepted`
decides whether the header of a foreign token is well formed and names that algorithm;
what else it may hold is checked for its form and not used.
-/

namespace Countinghouse.Header

open Document

/-- The header of the tokens that the bank issues. -/
def json : Json := .object [("typ", .text "JWT"), ("alg", .text "HS256")]

/-- The form of an optional text. -/
def isOptionalText : Document → Bool
  | .null => true
  | document => document.isText

/-- The form of an optional list of texts. -/
def isOptionalTextList : Document → Bool
  | .null => true
  | document => document.isTextList

/-- Whether the only value under a key, if there is one, has a form. -/
def holds (fields : List (Option String × Document)) (key : String) (form : Document → Bool) :
    Bool :=
  (under key fields).all form

/-- Whether there is a value under a key, and it has a form. -/
def requires (fields : List (Option String × Document)) (key : String)
    (form : Document → Bool) : Bool :=
  (only? key fields).any form

/-- A variant among names. -/
def isVariantOf (names : List String) (document : Document) : Bool :=
  document.variant?.any names.contains

/-- The algorithms that a key may be for. -/
def keyAlgorithms : List String :=
  ["HS256", "HS384", "HS512", "ES256", "ES384", "RS256", "RS384", "RS512", "PS256", "PS384",
    "PS512", "EdDSA", "RSA1_5", "RSA-OAEP", "RSA-OAEP-256"]

/-- The curves that a key may lie on. -/
def curves : List String := ["P-256", "P-384", "P-521", "Ed25519"]

/-- The parameters of a key, by its type. -/
def hasKeyParameters (fields : List (Option String × Document)) : Bool :=
  let kind (name : String) := requires fields "kty" (isVariantOf [name])
  let texts (names : List String) := names.all fun name => requires fields name isText
  (kind "EC" && requires fields "crv" (isVariantOf curves) && texts ["x", "y"])
    || (kind "RSA" && texts ["n", "e"])
    || (kind "oct" && texts ["k"])
    || (kind "OKP" && requires fields "crv" (isVariantOf curves) && texts ["x"])

/-- The form of an optional public key. -/
def isOptionalKey : Document → Bool
  | .null => true
  | .object fields =>
    hasKeysOnce ["use", "key_ops", "alg", "kid", "x5u", "x5c", "x5t", "x5t#S256"] fields
      && ["use", "kid", "x5u", "x5t", "x5t#S256"].all (holds fields · isOptionalText)
      && ["key_ops", "x5c"].all (holds fields · isOptionalTextList)
      && holds fields "alg" (fun document => match document with
        | .null => true
        | other => isVariantOf keyAlgorithms other)
      && hasKeyParameters fields
  | _ => false

/-- The fields of a header, each with the form it has to have. -/
def forms : List (String × (Document → Bool)) :=
  [("typ", isOptionalText), ("alg", isVariantOf ["HS256"]), ("cty", isOptionalText),
    ("jku", isOptionalText), ("jwk", isOptionalKey), ("kid", isOptionalText),
    ("x5u", isOptionalText), ("x5c", isOptionalTextList), ("x5t", isOptionalText),
    ("x5t#S256", isOptionalText)]

/-- Whether a header is well formed and names the bank's algorithm. It may also be a list
of all its fields in order. -/
def isAccepted : Document → Bool
  | .object fields =>
    hasKeysOnce (forms.map (·.1)) fields && requires fields "alg" (isVariantOf ["HS256"])
      && forms.all fun (key, form) => holds fields key form
  | .list items =>
    items.length == forms.length && (items.zip forms).all fun (item, _, form) => form item
  | _ => false

end Countinghouse.Header
