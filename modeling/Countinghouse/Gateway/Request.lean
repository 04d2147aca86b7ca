import Countinghouse.Json.Value
import Countinghouse.Net.Address
import Countinghouse.Request.Query
import Countinghouse.Session

/-!
# Requests to the gateway

A `Request` is what arrives over HTTP. What the gateway reads from it: header values as
visible ASCII text, the bearer token, the media type of the body, and what is known about
the client.
-/

namespace Countinghouse

/-- A request. -/
structure Request where
  method : String
  path : String
  query : String
  /-- Names in lower case, values as bytes. -/
  headers : List (String × List UInt8)
  body : List UInt8
  /-- Who is at the other end of the connection, where that is known. -/
  peer : Option Address
  deriving Repr

namespace Request

/-- The longest body that is accepted, in bytes. -/
def maxBody : Nat := 2097152

/-- The first value of a header, if it is visible ASCII text. -/
def header? (request : Request) (name : String) : Option String := do
  let (_, value) ← request.headers.find? (·.1 == name)
  guard (value.all fun byte => byte == 9 || (32 ≤ byte && byte < 127))
  return String.ofList (value.map fun byte => Char.ofNat byte.toNat)

/-- A text without the blanks at its ends. -/
def trim (text : List Char) : List Char :=
  let isBlank (character : Char) : Bool := character == ' ' || character == '\t'
  ((text.dropWhile isBlank).reverse.dropWhile isBlank).reverse

/-- What a request says about its caller. -/
inductive Authorization where
  | missing
  | malformed
  | bearer (token : String)
  deriving DecidableEq, Repr

/-- What a request says about its caller: the scheme `bearer` in any case, a blank, and a
token. -/
def authorization (request : Request) : Authorization :=
  match request.header? "authorization" with
  | none => .missing
  | some value =>
    let text := value.toList
    let scheme := text.takeWhile (· != ' ')
    let token := text.drop (scheme.length + 1)
    if (String.ofList scheme).toLower = "bearer" ∧ token ≠ [] then
      .bearer (String.ofList (trim token))
    else .malformed

/-! ## The media type of the body -/

/-- A character of a token in a header. -/
def isToken (character : Char) : Bool :=
  character.isAlphanum || "!#$%&'+-.^_`|~".toList.contains character

/-- What follows a quoted text of at least one character and its closing quote. -/
def afterQuoted? (text : List Char) : Option (List Char) := do
  let isVisible (character : Char) : Bool := 32 ≤ character.toNat && character.toNat != 127
  let first ← text.head?
  guard (isVisible first)
  let more := (text.drop 1).takeWhile fun character => character != '"' && isVisible character
  Address.expect? '"' (text.drop (more.length + 1))

/-- Whether the text after a semicolon is a list of parameters. `fuel` bounds the number of
parameters and blanks. -/
def areParams : Nat → List Char → Bool
  | 0, _ => false
  | _, [] => true
  | fuel + 1, ' ' :: rest => areParams fuel rest
  | fuel + 1, text =>
    let name := text.takeWhile isToken
    match text.drop name.length with
    | '=' :: '"' :: value =>
      if name.isEmpty then false
      else
        match afterQuoted? value with
        | none => false
        | some rest =>
          match rest.dropWhile (· == ' ') with
          | [] => true
          | ';' :: rest => areParams fuel rest
          | _ => false
    | '=' :: value =>
      if name.isEmpty then false
      else
        let plain := value.takeWhile isToken
        match value.drop plain.length with
        | [] => true
        | ';' :: rest => if plain.isEmpty then false else areParams fuel rest
        | _ => false
    | _ => false

/-- Whether a media type is JSON: `application/json`, or any `application` type with the
suffix `json`. -/
def isJsonType (text : String) : Bool :=
  let lower := text.toLower.toList
  let top := lower.takeWhile isToken
  match lower.drop top.length with
  | '/' :: rest =>
    let sub := rest.takeWhile isToken
    let after := rest.drop sub.length
    let suffix := (sub.reverse.takeWhile (· != '+')).reverse
    let base := sub.take (sub.length - suffix.length - 1)
    let isJson :=
      if base.isEmpty then sub == "json".toList
      else base == "json".toList || suffix == "json".toList
    top == "application".toList && isJson
      && match after with
        | [] => true
        | ';' :: params => !sub.isEmpty && areParams (params.length + 1) params
        | _ => false
  | _ => false

/-- Whether the body is said to be JSON. -/
def isJson (request : Request) : Bool := (request.header? "content-type").any isJsonType

/-! ## The client -/

/-- What is known about the client. A proxy's word about the address comes before that of
the connection. -/
def client (request : Request) : Client where
  userAgent := (request.header? "user-agent").getD ""
  clientIp :=
    match request.header? "x-forwarded-for" with
    | some value => String.ofList (trim (value.toList.takeWhile (· != ',')))
    | none => (request.peer.map Address.render).getD ""

end Request

end Countinghouse
