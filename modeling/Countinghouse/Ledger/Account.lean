import Countinghouse.Currency
import Countinghouse.Json.Value
import Countinghouse.Time.Instant

/-!
# Accounts

Balances are in minor currency units and are kept as 64-bit whole numbers: `Fits`
says which integers those are. An account is never removed, only marked deleted.
-/

namespace Countinghouse

/-- The integers a balance, an amount or an identifier can take: 64 bits with a sign. -/
def Fits (value : Int) : Prop := -9223372036854775808 ≤ value ∧ value ≤ 9223372036854775807

instance (value : Int) : Decidable (Fits value) := by
  unfold Fits; infer_instance

/-- An integer, when it fits into 64 bits. -/
def fit? (value : Int) : Option Int := if Fits value then some value else none

theorem fit?_eq_some_iff {value result : Int} :
    fit? value = some result ↔ Fits value ∧ result = value := by
  unfold fit?
  split <;> simp_all [eq_comm]

/-- A bank account. -/
structure Account where
  id : Int
  owner : String
  /-- In minor units. Only a transfer changes it. -/
  balance : Int
  currency : Currency
  isDeleted : Bool
  createdAt : Instant
  deriving DecidableEq, Repr, Inhabited

/-- What opening an account needs. -/
structure NewAccount where
  owner : String
  currency : Currency
  balance : Int
  deriving DecidableEq, Repr, Inhabited

namespace Account

/-- The form an account is shown in. -/
def toJson (account : Account) : Json :=
  .object [
    ("id", .int account.id),
    ("owner", .text account.owner),
    ("balance", .int account.balance),
    ("currency", .text account.currency.code),
    ("is_deleted", .bool account.isDeleted),
    ("created_at", .text account.createdAt.render)]

end Account

end Countinghouse
