import Countinghouse.Event
import Countinghouse.Store.Call

/-!
# Operations of the bank as programs

An `Operation` is a program that asks its surroundings for what it cannot know by
itself: the store, the clock, fresh identifiers and salts, the log, the health of the
database. It is a tree: either it is done, or it asks for one `Need` and goes on with
the answer. How the needs are met is a separate matter, so the same operation can be
run alone, under faults, interleaved with others, or against a database.

`Attempt` adds failure: an operation that answers or fails with a `BankError`.
-/

namespace Countinghouse

/-- One thing an operation asks of its surroundings. -/
inductive Need where
  | store (call : StoreCall)
  /-- The present time. -/
  | clock
  /-- An identifier never used before. -/
  | freshId
  /-- Random bytes for a password hash. -/
  | freshSalt
  /-- To have an event logged. -/
  | report (event : Event)
  /-- A sign of life from the database, where there is one. -/
  | ping
  deriving DecidableEq, Repr

namespace Need

/-- The type of the answer to a need. -/
@[reducible] def Answer : Need → Type
  | .store call => Except StoreError call.Reply
  | .clock => Instant
  | .freshId => Uuid
  | .freshSalt => List UInt8
  | .report _ => Unit
  | .ping => Except SqlFailure Unit

end Need

/-- A program over the surroundings of the bank. -/
inductive Operation (α : Type) where
  | done (value : α)
  | ask (need : Need) (next : need.Answer → Operation α)

namespace Operation

/-- Runs one operation and goes on with its result. -/
def andThen {α β : Type} : Operation α → (α → Operation β) → Operation β
  | .done value, next => next value
  | .ask need rest, next => .ask need fun answer => (rest answer).andThen next

instance : Monad Operation where
  pure := .done
  bind := andThen

@[simp] theorem andThen_done {α : Type} (operation : Operation α) :
    operation.andThen .done = operation := by
  induction operation with
  | done _ => rfl
  | ask need next inductionHypothesis => simp [andThen, inductionHypothesis]

theorem andThen_assoc {α β γ : Type} (operation : Operation α) (first : α → Operation β)
    (second : β → Operation γ) :
    (operation.andThen first).andThen second =
      operation.andThen fun value => (first value).andThen second := by
  induction operation with
  | done _ => rfl
  | ask need next inductionHypothesis => simp [andThen, inductionHypothesis]

instance : LawfulMonad Operation :=
  LawfulMonad.mk' Operation (fun operation => andThen_done operation) (fun _ _ => rfl)
    andThen_assoc

/-- Asks for one thing. -/
def need (need : Need) : Operation need.Answer := .ask need .done

/-- The present time. -/
def now : Operation Instant := need .clock

/-- An identifier never used before. -/
def freshId : Operation Uuid := need .freshId

/-- Random bytes for a password hash. -/
def freshSalt : Operation (List UInt8) := need .freshSalt

/-- Logs an event. -/
def report (event : Event) : Operation Unit := need (.report event)

/-- Calls the store. -/
def call (call : StoreCall) : Operation (Except StoreError call.Reply) := need (.store call)

end Operation

/-- An operation that may fail. -/
abbrev Attempt (α : Type) := ExceptT BankError Operation α

namespace Attempt

/-- Calls the store; its failure is the attempt's failure. -/
def call (call : StoreCall) : Attempt call.Reply :=
  ExceptT.mk do
    match ← Operation.call call with
    | .ok reply => pure (.ok reply)
    | .error error => pure (.error (.storage error))

/-- Logs an event and fails. -/
def reject {α : Type} (event : Event) (error : BankError) : Attempt α :=
  ExceptT.mk do
    Operation.report event
    pure (.error error)

/-- A result that is already known. -/
def ofExcept {α : Type} (result : Except BankError α) : Attempt α := ExceptT.mk (pure result)

/-- Logs an event. -/
def report (event : Event) : Attempt Unit := ExceptT.lift (Operation.report event)

end Attempt

/-- A way to meet needs over a state. -/
structure Surroundings (State : Type) where
  answer : (need : Need) → State → need.Answer × State

namespace Operation

/-- Runs an operation to its end, meeting its needs one after another. -/
def run {State α : Type} (surroundings : Surroundings State) :
    Operation α → State → α × State
  | .done value, state => (value, state)
  | .ask need next, state =>
    let (answer, after) := surroundings.answer need state
    (next answer).run surroundings after

theorem run_andThen {State α β : Type} (surroundings : Surroundings State)
    (operation : Operation α) (next : α → Operation β) (state : State) :
    (operation.andThen next).run surroundings state =
      (next (operation.run surroundings state).1).run surroundings
        (operation.run surroundings state).2 := by
  induction operation generalizing state with
  | done _ => rfl
  | ask need rest inductionHypothesis => exact inductionHypothesis _ _

end Operation

end Countinghouse
