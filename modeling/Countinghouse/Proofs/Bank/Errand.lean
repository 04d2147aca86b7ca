import Countinghouse.Proofs.Bank.Order

/-!
# The errands of the bank

The gateway carries out the orders of its clients. The services behind it offer a little
more: each half of a transfer can be asked for alone, and so can an account whoever owns it.
`Bank.Errand` is anything that the services can be asked for.

`Bank.exposed` is the bank as a service in which the store can be called directly as well.
-/

namespace Countinghouse.Bank

/-- Something that the services of the bank can be asked for. -/
inductive Errand where
  | order (asked : Order)
  | validateTransfer (caller : String) (source destination : Int)
  | createTransfer (source destination amount : Int)
  | anyAccount (id : Int)

/-- What an errand answers when it succeeds. -/
@[reducible] def Errand.Answer : Errand → Type
  | .order asked => asked.Answer
  | .validateTransfer .. => Account × Account
  | .createTransfer .. => Movement
  | .anyAccount _ => Account

/-- Runs an errand. -/
def serve (bank : Bank) : (errand : Errand) → Attempt errand.Answer
  | .order asked => bank.attempt asked
  | .validateTransfer caller source destination => validateTransfer caller source destination
  | .createTransfer source destination amount => createTransfer source destination amount
  | .anyAccount id => anyAccount id

namespace Errand

/-- What an errand reports when the store fails at a call. That a name or an email is taken is
a matter of the one who registers or changes a profile. Any other failure is passed on. -/
def blame : Errand → StoreCall → StoreError → BankError
  | .order (.register ..), .createUser _, .uniqueViolation _ => .userAlreadyExists
  | .order (.updateUser ..), .updateUser _, .uniqueViolation _ => .userAlreadyExists
  | _, _, error => .storage error

end Errand

/-- An errand, or a call that is made of the store alone. -/
inductive Activity where
  | errand (asked : Errand)
  | storeCall (call : StoreCall)

/-- The bank with all of its parts exposed: any errand and any call of the store may be asked for
at any time. -/
def exposed (bank : Bank) : Service where
  Order := Activity
  Result
    | .errand asked => Except BankError asked.Answer
    | .storeCall call => Except StoreError call.Reply
  program
    | .errand asked => (bank.serve asked).run
    | .storeCall call => Operation.call call

/-- Any call may be made of the store at any time. -/
theorem exposed_call {bank : Bank} (now : Instant) (call : StoreCall) (state : bank.exposed.State) :
    Service.Steps state [⟨.storeCall call, ⟨⟨now, call⟩, state.tables⟩⟩]
      ⟨(Tables.perform now call state.tables).2,
        state.tasks ++ [⟨.storeCall call, .done (Tables.perform now call state.tables).1⟩]⟩ := by
  let task : bank.exposed.Task := ⟨.storeCall call, .ask (.store call) .done⟩
  have ordered : Service.Steps state [] ⟨state.tables, state.tasks ++ [task]⟩ :=
    .order task.order .refl
  have waiting : (state.tasks ++ [task])[state.tasks.length]? = some task :=
    List.getElem?_concat_length
  have called := Service.Steps.call now waiting ordered
  dsimp only at called
  rw [List.set_append_right _ _ (Nat.le_refl _), Nat.sub_self] at called
  exact called

end Countinghouse.Bank
