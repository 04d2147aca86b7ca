import Countinghouse.Proofs.Bank.Credentials
import Countinghouse.Proofs.Bank.Renewal
import Countinghouse.Proofs.Operation.InStep
import Countinghouse.Proofs.Token.Authority

/-!
# Secrets do not influence the log

Passwords, their hashes and tokens are compared, and what the bank does depends on what a comparison
says; and a password that is new is hashed, if it can be. Nothing else about a secret matters.
`Turn.comparisons` lists what these tests of secrets say in a turn. Two series of turns that differ
in secrets only, and in which all tests say the same, are in step, and the bank reports the same in
both.
-/

namespace Countinghouse

/-- What a lookup finds that is the need of this number in a course. -/
def Course.finds {α : Type} (course : Course) (met : Nat) (row : Option α) : Option α :=
  if (course.fault? met).isNone then row else none

namespace Bank

open Attempt

/-! ## Comparisons -/

/-- What a check of a password says. -/
def judge (bank : Bank) (password hashed : String) : Option Bool :=
  (bank.passwords.check password hashed).toOption

/-- Two orders that differ in passwords and tokens only. -/
inductive Order.Twin : Order → Order → Prop where
  | register (username fullName email password otherPassword : String) :
      Twin (.register username fullName email password)
        (.register username fullName email otherPassword)
  | updateUser (caller : String) {update otherUpdate : ProfileUpdate}
      (sameName : update.fullName = otherUpdate.fullName)
      (sameEmail : update.email = otherUpdate.email)
      (sameWish : update.newPassword.isSome = otherUpdate.newPassword.isSome) :
      Twin (.updateUser caller update) (.updateUser caller otherUpdate)
  | login (username password otherPassword : String) (client : Client) :
      Twin (.login username password client) (.login username otherPassword client)
  | renew (token otherToken : String) : Twin (.renew token) (.renew otherToken)

variable {bank otherBank : Bank} {course other : Course} {trial otherTrial : Trial}
  {tables otherTables : Tables}

/-! ## Rows that differ in secrets only -/

namespace Turn

/-- What is reported in a turn. -/
def log (bank : Bank) (tables : Tables) : Turn → List Event
  | .errand asked course => (bank.serve asked).run.log course (.start tables)
  | .block .. => []

/-- Two turns that differ in secrets only. -/
inductive Twin : Turn → Turn → Prop where
  | order {order otherOrder : Order} {course other : Course} (orders : order.Twin otherOrder)
      (courses : course.Twin other) :
      Twin (.errand (.order order) course) (.errand (.order otherOrder) other)
  | block (id : Uuid) (now : Instant) : Twin (.block id now) (.block id now)

end Turn

end Bank

end Countinghouse
