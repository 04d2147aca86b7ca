import Countinghouse.Sql.Row

/-!
# Queries that are held with a server

`Query.runOn` holds a query with any server that has a state. The lemmas say what the parts of a
query come to: one part after another, something said, a record that is fetched, and a part whose
failure is looked at.
-/

namespace Countinghouse

/-- What a server may answer. -/
abbrev SqlReply := Except SqlFailure SqlOutcome

namespace RowReader

variable {α : Type}

/-- The record in the first row of an answer, if there is a row. -/
def first? (reader : RowReader α) : SqlReply → Except StoreError (Option α)
  | .error failure => .error (.ofSql failure)
  | .ok outcome =>
    match outcome.rows with
    | [] => .ok none
    | row :: _ => ((reader.run row).mapError .ofSql).map some

end RowReader

namespace Query

variable {State α β : Type} (server : Exchange → State → SqlReply × State)

/-- The result of a query that is held with a server, and the state it leaves. -/
def runOn (query : Query α) (state : State) : Except StoreError α × State :=
  query.run.run server state

theorem runOn_bind (query : Query α) (next : α → Query β) (state : State) :
    (query >>= next).runOn server state =
      match query.runOn server state with
      | (.ok value, after) => (next value).runOn server after
      | (.error error, after) => (.error error, after) := by
  refine (Dialog.run_andThen _ query.run _ state).trans ?_
  unfold runOn
  cases query.run.run server state with
  | mk result after => cases result <;> rfl

theorem runOn_say (exchange : Exchange) (state : State) :
    (say exchange).runOn server state =
      ((server exchange state).1.mapError .ofSql, (server exchange state).2) := by
  change Dialog.run _ (Dialog.andThen (Dialog.say exchange) _) state = _
  rw [Dialog.run_andThen]
  simp only [Dialog.say, Dialog.run]
  cases (server exchange state).1 <;> rfl

theorem runOn_fetch? (reader : RowReader α) (statement : Statement) (state : State) :
    (fetch? reader statement).runOn server state =
      (reader.first? (server (.execute statement) state).1,
        (server (.execute statement) state).2) := by
  unfold fetch? execute
  rw [runOn_bind, runOn_say]
  cases (server (.execute statement) state).1 with
  | error failure => rfl
  | ok outcome =>
      have told : (Except.ok outcome : SqlReply).mapError StoreError.ofSql = .ok outcome := rfl
      rw [told]
      simp only [RowReader.first?]
      cases outcome.rows with
      | nil => rfl
      | cons row rest =>
          cases read : ReaderT.run reader row <;> simp only [ofRead, read] <;> rfl

/-- What goes on after a query whose failure is looked at. -/
theorem runOn_lift_run_bind (query : Query α) (next : Except StoreError α → Query β)
    (state : State) :
    runOn server (ExceptT.lift query.run >>= next) state =
      (next (query.runOn server state).1).runOn server (query.runOn server state).2 := by
  have lifted : runOn server (ExceptT.lift query.run) state =
      (.ok (query.runOn server state).1, (query.runOn server state).2) :=
    Dialog.run_andThen _ query.run _ state
  rw [runOn_bind, lifted]

/-- To give up is to tell the server so, whatever it answers. -/
theorem runOn_abandon (error : StoreError) (state : State) :
    (abandon error : Query α).runOn server state = (.error error, (server .rollback state).2) := rfl

end Query

end Countinghouse
