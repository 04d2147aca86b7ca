import Countinghouse.Token.Authority

/-!
# The bank

A `Bank` is what the operations of the bank share: the token authority, the way
passwords are kept, and the balance of a new account. `Bank.isOwner` is the one rule of
who may act on an account.
-/

namespace Countinghouse

/-- A way to keep passwords: as texts from which a password cannot be found again, but
against which it can be checked. -/
structure PasswordScheme where
  /-- What is wrong with a password for which there is no text, if something is. -/
  fault? : String → Option String
  /-- The text for any other password, with random bytes that make it unlike any other. -/
  hash : List UInt8 → String → String
  /-- Whether a password belongs to a text. Fails when the text is none that `hash` could
  have made. -/
  check : (password hashed : String) → Except BankError Bool

/-- What the operations of the bank share. -/
structure Bank where
  authority : Authority
  passwords : PasswordScheme
  /-- In minor units of the account's currency. -/
  startingBalance : Int

namespace Bank

/-- A caller may act on the accounts under the caller's own name. -/
def isOwner (caller : String) (account : Account) : Bool := caller == account.owner

end Bank

end Countinghouse
