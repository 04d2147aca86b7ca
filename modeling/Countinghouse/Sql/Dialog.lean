import Countinghouse.Failure
import Countinghouse.Sql.Statement

/-!
# Dialogs with a database server

A `Dialog` is one side of a conversation with a database server: it sends one `Exchange`
after another and goes on with what is answered, whatever that is. The other side is a
parameter of `Dialog.run`, so the same dialog can be held with any server.

`Query` adds failure, and `Query.transaction` the rule that keeps a group of statements
together: what was begun is either committed or, after any failure, rolled back.
-/

namespace Countinghouse

/-- A row of a result: its columns and their values. -/
abbrev SqlRow := List (String × SqlValue)

/-- What a server answers when it has executed a statement. -/
structure SqlOutcome where
  rows : List SqlRow
  /-- The number of rows that were changed. -/
  affected : Nat
  deriving DecidableEq, Repr, Inhabited

/-- One thing said to the server. -/
inductive Exchange where
  | begin
  | commit
  | rollback
  | execute (statement : Statement)
  deriving DecidableEq, Repr

/-- One side of a conversation with a database server. -/
inductive Dialog (α : Type) where
  | done (value : α)
  | send (exchange : Exchange) (next : Except SqlFailure SqlOutcome → Dialog α)

namespace Dialog

/-- Holds one dialog and goes on with its result. -/
def andThen {α β : Type} : Dialog α → (α → Dialog β) → Dialog β
  | .done value, next => next value
  | .send exchange rest, next => .send exchange fun answer => (rest answer).andThen next

instance : Monad Dialog where
  pure := .done
  bind := andThen

@[simp] theorem andThen_done {α : Type} (dialog : Dialog α) : dialog.andThen .done = dialog := by
  induction dialog with
  | done _ => rfl
  | send exchange next inductionHypothesis => simp [andThen, inductionHypothesis]

theorem andThen_assoc {α β γ : Type} (dialog : Dialog α) (first : α → Dialog β)
    (second : β → Dialog γ) :
    (dialog.andThen first).andThen second =
      dialog.andThen fun value => (first value).andThen second := by
  induction dialog with
  | done _ => rfl
  | send exchange next inductionHypothesis => simp [andThen, inductionHypothesis]

instance : LawfulMonad Dialog :=
  LawfulMonad.mk' Dialog (fun dialog => andThen_done dialog) (fun _ _ => rfl) andThen_assoc

/-- Says one thing to the server. -/
def say (exchange : Exchange) : Dialog (Except SqlFailure SqlOutcome) := .send exchange .done

/-- Holds a dialog with a server that has a state. -/
def run {State α : Type}
    (server : Exchange → State → Except SqlFailure SqlOutcome × State) :
    Dialog α → State → α × State
  | .done value, state => (value, state)
  | .send exchange next, state =>
    let (answer, after) := server exchange state
    (next answer).run server after

theorem run_andThen {State α β : Type}
    (server : Exchange → State → Except SqlFailure SqlOutcome × State) (dialog : Dialog α)
    (next : α → Dialog β) (state : State) :
    (dialog.andThen next).run server state =
      (next (dialog.run server state).1).run server (dialog.run server state).2 := by
  induction dialog generalizing state with
  | done _ => rfl
  | send exchange rest inductionHypothesis => exact inductionHypothesis _ _

/-- Sends a statement. -/
def execute (statement : Statement) : Dialog (Except SqlFailure SqlOutcome) :=
  say (.execute statement)

end Dialog

/-- A dialog that may fail. -/
abbrev Query (α : Type) := ExceptT StoreError Dialog α

namespace Query

/-- Says one thing to the server; a failure of the server is the query's failure. -/
def say (exchange : Exchange) : Query SqlOutcome :=
  ExceptT.mk do
    match ← Dialog.say exchange with
    | .ok outcome => return .ok outcome
    | .error failure => return .error (.ofSql failure)

/-- Sends a statement. -/
def execute (statement : Statement) : Query SqlOutcome := say (.execute statement)

/-- Tells the server to undo what was begun, and fails. -/
def abandon {α : Type} (error : StoreError) : Query α :=
  ExceptT.mk do
    let _ ← Dialog.say .rollback
    return .error error

/-- Holds a dialog as one transaction. Nothing is undone when nothing was begun. -/
def transaction {α : Type} (body : Query α) : Query α := do
  let _ ← say .begin
  match ← ExceptT.lift body.run with
  | .error error => abandon error
  | .ok value =>
    match ← ExceptT.lift (say .commit).run with
    | .error error => abandon error
    | .ok _ => return value

end Query

end Countinghouse
