import Countinghouse.Net.Address

/-!
# Locators

A `Url` is a scheme and, after two slashes, an authority: who logs in, a host and a port.
What follows is a path and a query. Only what has such a scheme at its start can be read
by itself; blanks around the text and line breaks within it count for nothing.
-/

namespace Countinghouse

/-- Why a text is no locator. -/
inductive UrlFault where
  | noScheme
  | emptyHost
  | badPort
  | badAddress
  | badHostCharacter
  deriving DecidableEq, Repr

/-- The text of a fault. -/
def UrlFault.message : UrlFault → String
  | .noScheme => "relative URL without a base"
  | .emptyHost => "empty host"
  | .badPort => "invalid port number"
  | .badAddress => "invalid IPv6 address"
  | .badHostCharacter => "invalid domain character"

/-- A locator. -/
structure Url where
  scheme : String
  /-- What stands before the last `@` of the authority. -/
  login : Option String
  host : String
  port : Option Nat
  path : String
  query : String
  deriving DecidableEq, Repr

namespace Url

/-- A character that counts for nothing anywhere. -/
def isBreak (character : Char) : Bool :=
  character == '\t' || character == '\n' || character == '\r'

/-- A text without control characters and blanks at its ends, and without line breaks. -/
def trim (text : String) : List Char :=
  let isBlank (character : Char) : Bool := character.toNat ≤ 32
  let inner := ((text.toList.dropWhile isBlank).reverse.dropWhile isBlank).reverse
  inner.filter (!isBreak ·)

/-- A scheme and what follows its colon. -/
def splitScheme? (text : List Char) : Option (String × List Char) :=
  let isInScheme (character : Char) : Bool :=
    character.isAlphanum || character == '+' || character == '-' || character == '.'
  let scheme := text.takeWhile isInScheme
  match text.drop scheme.length with
  | ':' :: rest =>
    if scheme.head?.any Char.isAlpha then some ((String.ofList scheme).toLower, rest) else none
  | _ => none

/-- A character that ends an authority. -/
def endsAuthority (character : Char) : Bool :=
  character == '/' || character == '?' || character == '#'

/-- The part of an authority before the last `@`, and the part after it. -/
def splitLogin (authority : List Char) : Option (List Char) × List Char :=
  let host := (authority.reverse.takeWhile (· != '@')).reverse
  if host.length = authority.length then (none, host)
  else (some (authority.take (authority.length - host.length - 1)), host)

/-- The host at the start of a text: a colon ends it, except between brackets. -/
def hostOf (isInside : Bool) : List Char → List Char
  | [] => []
  | ':' :: rest => if isInside then ':' :: hostOf isInside rest else []
  | character :: rest =>
    character :: hostOf (character == '[' || (isInside && character != ']')) rest

/-- A character that a host may not hold. -/
def isForbidden (character : Char) : Bool :=
  character.toNat == 0 || " #/:<>?@[\\]^|".toList.contains character

/-- Passes when a text can be a host: a name, or an address between brackets. -/
def checkHost (host : List Char) : Except UrlFault Unit :=
  match host with
  | '[' :: rest =>
    if rest.getLast? = some ']' ∧ (Address.readV6? rest.dropLast).isSome then .ok ()
    else .error .badAddress
  | _ => if host.any isForbidden then .error .badHostCharacter else .ok ()

/-- Reads a port; none is written when there are no digits. -/
def readPort (digits : List Char) : Except UrlFault (Option Nat) :=
  if digits.isEmpty then .ok none
  else
    let value := digits.foldl (fun value digit => value * 10 + (digit.toNat - 48)) 0
    if digits.all Char.isDigit && value ≤ 65535 then .ok (some value) else .error .badPort

/-- Reads an authority: a login, a host and a port. -/
def readAuthority (authority : List Char) :
    Except UrlFault (Option String × String × Option Nat) := do
  let (login, place) := splitLogin authority
  let host := hostOf false place
  checkHost host
  let portText := place.drop host.length
  if host.isEmpty && (!portText.isEmpty || login.any (!·.isEmpty)) then throw .emptyHost
  let port ← readPort (portText.drop 1)
  return (login.map String.ofList, String.ofList host, port)

/-- The path and the query at the end of a locator. -/
def pathAndQuery (text : List Char) : String × String :=
  let shown := text.takeWhile (· != '#')
  let path := shown.takeWhile (· != '?')
  (String.ofList path, String.ofList (shown.drop (path.length + 1)))

/-- Reads a locator. -/
def parse (text : String) : Except UrlFault Url := do
  match splitScheme? (trim text) with
  | none => throw .noScheme
  | some (scheme, '/' :: '/' :: rest) =>
    let authority := rest.takeWhile (!endsAuthority ·)
    let (login, host, port) ← readAuthority authority
    let (path, query) := pathAndQuery (rest.drop authority.length)
    return { scheme, login, host, port, path, query }
  | some (scheme, rest) =>
    let (path, query) := pathAndQuery rest
    return { scheme, login := none, host := "", port := none, path, query }

end Url

end Countinghouse
