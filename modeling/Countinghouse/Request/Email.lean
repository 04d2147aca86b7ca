import Countinghouse.Idna
import Countinghouse.Net.Address

/-!
# Email addresses

An email address is a mailbox, an `@`, and a domain; the last `@` separates them. The
domain is a host name, an internet address between brackets, or an internationalized
name that becomes a host name when it is encoded.
-/

namespace Countinghouse.Email

/-- A letter or digit of ASCII. -/
def isAlphanumeric (character : Char) : Bool := character.isAlphanum

/-- A character that may stand in a mailbox. -/
def isMailbox (character : Char) : Bool :=
  isAlphanumeric character || ".!#$%&'*+/=?^_`\x7b|\x7d~-".toList.contains character

/-- A label of a host name: at most 63 letters, digits and hyphens, with no hyphen at
either end. -/
def isLabel (label : List Char) : Bool :=
  label.length ≤ 63 && label.all (fun character => isAlphanumeric character || character == '-')
    && label.head?.any isAlphanumeric && label.getLast?.any isAlphanumeric

/-- A host name: labels joined by dots. -/
def isHostName (domain : List Char) : Bool := (domain.splitOn '.').all isLabel

/-- A domain that ends in an internet address between brackets. -/
def endsInAddress (domain : List Char) : Bool :=
  match domain.reverse with
  | ']' :: reversed =>
    let inner := (reversed.takeWhile fun character =>
      (Hex.value? character).isSome || character == ':' || character == '.').reverse
    (reversed.drop inner.length).head? == some '[' && (Address.parse? inner).isSome
  | _ => false

/-- A domain as it is written in ASCII. -/
def isPlainDomain (domain : List Char) : Bool := isHostName domain || endsInAddress domain

/-- A domain, international or not. -/
def isDomain (domain : List Char) : Bool :=
  isPlainDomain domain || (Idna.toAscii? domain).any isPlainDomain

/-- A mailbox: up to 64 characters. -/
def isMailboxName (mailbox : List Char) : Bool :=
  mailbox.length ≤ 64 && !mailbox.isEmpty && mailbox.all isMailbox

/-- Whether a text is an email address. -/
def isValid (text : String) : Bool :=
  let reversed := text.toList.reverse
  let domain := (reversed.takeWhile (· != '@')).reverse
  match reversed.drop domain.length with
  | [] => false
  | _ :: mailbox => isMailboxName mailbox.reverse && domain.length ≤ 255 && isDomain domain

end Countinghouse.Email
