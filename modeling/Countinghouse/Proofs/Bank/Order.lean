import Countinghouse.Bank.Sessions
import Countinghouse.Bank.Transfers
import Countinghouse.Bank.Users
import Countinghouse.Proofs.Concurrency.Service

/-!
# The orders of the bank

`Bank.Order` is an operation of the bank as a value: what it is, who asks for it, and with
what arguments. These are the operations that the gateway carries out for its clients.
`Bank.service` is the bank as a service that carries out any number of them at a time.
-/

namespace Countinghouse.Bank

/-- An operation that the gateway asks of the bank. -/
inductive Order where
  | register (username fullName email password : String)
  | updateUser (caller : String) (update : ProfileUpdate)
  | user (username : String)
  | openAccount (caller : String) (currency : Currency)
  | account (caller : String) (id : Int)
  | accounts (caller : String)
  | deletedAccounts (caller : String)
  | deleteAccount (caller : String) (id : Int)
  | restoreAccount (caller : String) (id : Int)
  | transfer (caller : String) (source destination amount : Int)
  | transferById (caller : String) (id : Int)
  | transfersOf (caller : String) (accountId : Int) (page : Page)
  | login (username password : String) (client : Client)
  | renew (refreshToken : String)

/-- What an order answers when it succeeds. -/
@[reducible] def Order.Answer : Order → Type
  | .register .. | .updateUser .. | .user _ => User
  | .openAccount .. | .account .. => Account
  | .accounts _ | .deletedAccounts _ => List Account
  | .deleteAccount .. | .restoreAccount .. => Unit
  | .transfer .. => Movement
  | .transferById .. => Transfer
  | .transfersOf .. => List Transfer
  | .login .. => Login
  | .renew _ => Renewal

/-- Carries out an order. -/
def attempt (bank : Bank) : (order : Order) → Attempt order.Answer
  | .register username fullName email password => bank.register username fullName email password
  | .updateUser caller update => bank.updateUser caller update
  | .user username => user username
  | .openAccount caller currency => bank.openAccount caller currency
  | .account caller id => account caller id
  | .accounts caller => accounts caller
  | .deletedAccounts caller => deletedAccounts caller
  | .deleteAccount caller id => deleteAccount caller id
  | .restoreAccount caller id => restoreAccount caller id
  | .transfer caller source destination amount => transfer caller source destination amount
  | .transferById caller id => transferById caller id
  | .transfersOf caller accountId page => transfersOf caller accountId page
  | .login username password client => bank.login username password client
  | .renew refreshToken => bank.renew refreshToken

/-- The bank as a service. -/
def service (bank : Bank) : Service where
  Order := Order
  Result order := Except BankError order.Answer
  program order := (bank.attempt order).run

/-! ## A rehearsal

A small bank and two schedules for it, by which laws of runs are seen to speak of runs in
which funds move.
-/

/-- A bank that keeps passwords as they are and gives 100 to every account. -/
def small : Bank where
  authority := ⟨[], 60, 3600, by decide, by decide⟩
  passwords := ⟨fun _ => none, fun _ password => password, fun password hashed =>
    .ok (password == hashed)⟩
  startingBalance := 100

/-- Lets the tasks at these places go on one after another, at the start of 1970. -/
def goOn (places : List Nat) : List small.service.Move :=
  places.map fun place => .proceed place ⟨0⟩ fun
    | .store _ => .error (.internal "")
    | .clock => ⟨0⟩
    | .freshId => ⟨0⟩
    | .freshSalt => []
    | .report _ => ()
    | .ping => .ok ()

/-- Alice orders to pay Bob twice. When both transfers are validated, the first is committed,
and Bob deletes his account. -/
def rehearsal : List small.service.Move :=
  [.order (Order.register "alice" "Alice" "alice@example.com" "secret"),
    .order (Order.register "bob" "Bob" "bob@example.com" "secret")] ++ goOn [0, 1, 0, 1] ++
  [.order (Order.openAccount "alice" .usd), .order (Order.openAccount "bob" .usd)] ++ goOn [2, 3] ++
  [.order (Order.transfer "alice" 1 2 30), .order (Order.transfer "alice" 1 2 20)] ++
  goOn [4, 5, 4, 5, 4] ++ [.order (Order.deleteAccount "bob" 2)] ++ goOn [6, 6]

/-- The second transfer comes too late. -/
def encore : List small.service.Move := goOn [5, 5]

end Countinghouse.Bank
