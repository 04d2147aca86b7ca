import Countinghouse.Proofs.Sql.Query
import Mathlib

/-!
# What is said in a dialog

A server may answer each exchange as it likes: `Dialog.recite` gives any sequence of answers,
whatever it is told, and keeps what it was told. `Query.Follows` says that a query keeps to a
list of exchanges: it says them one after another until an answer is not what it needs, and
then fails with what is wrong with that answer.

`Query.dropped` is what the server is told when nobody waits for the query any longer: what was said
until then, and what the driver adds. `SqlDriver.RollsBack` is what is relied on in a driver, that a
transaction which is open at that time is rolled back.
-/

namespace Countinghouse

namespace RowReader

variable {α : Type}

/-- The record in an answer that has one which can be read. -/
def record? (reader : RowReader α) (reply : SqlReply) : Option α :=
  (reader.first? reply).toOption.join

/-- What is wrong with an answer that has no record that can be read; `missing` when it has no
row. -/
def complaint? (reader : RowReader α) (missing : StoreError) (reply : SqlReply) :
    Option StoreError :=
  match reader.first? reply with
  | .error error => some error
  | .ok none => some missing
  | .ok (some _) => none

theorem complaint?_eq_none_iff {reader : RowReader α} {missing : StoreError} {reply : SqlReply} :
    reader.complaint? missing reply = none ↔ ∃ record, reader.record? reply = some record := by
  unfold complaint? record?
  cases reader.first? reply with
  | error error => simp [Except.toOption]
  | ok found => cases found <;> simp [Except.toOption]

/-- An answer without a row is missing one. -/
theorem complaint?_of_noRow {reader : RowReader α} {missing : StoreError} {outcome : SqlOutcome}
    (noRow : outcome.rows = []) : reader.complaint? missing (.ok outcome) = some missing := by
  simp [complaint?, first?, noRow]

/-- Any other answer that cannot be used is a failure of the server or of reading. -/
theorem complaint?_cases {reader : RowReader α} {missing error : StoreError} {reply : SqlReply}
    (wrong : reader.complaint? missing reply = some error) :
    (∃ failure, error = .ofSql failure) ∨
      error = missing ∧ ∃ outcome, reply = .ok outcome ∧ outcome.rows = [] := by
  unfold complaint? first? at wrong
  cases reply with
  | error failure => exact .inl ⟨failure, (Option.some.inj wrong).symm⟩
  | ok outcome =>
      cases rows : outcome.rows with
      | nil =>
          simp only [rows, Option.some.injEq] at wrong
          exact .inr ⟨wrong.symm, outcome, rfl, rows⟩
      | cons row rest =>
          cases read : reader.run row with
          | error failure =>
              simp only [rows, read, Except.mapError, Except.map, Option.some.injEq] at wrong
              exact .inl ⟨failure, wrong.symm⟩
          | ok record => simp [rows, read, Except.mapError, Except.map] at wrong

end RowReader

namespace Dialog

/-- A server that answers from a sequence, whatever it is told, and keeps what it is told. -/
def recite (replies : Nat → SqlReply) (exchange : Exchange) (told : List Exchange) :
    SqlReply × List Exchange :=
  (replies told.length, told ++ [exchange])

end Dialog

namespace Query

variable {α β : Type} {replies : Nat → SqlReply}

/-- The result of a query when the server answers from a sequence, and what it is told. -/
def recited (replies : Nat → SqlReply) (query : Query α) (told : List Exchange) :
    Except StoreError α × List Exchange :=
  query.run.run (Dialog.recite replies) told

theorem recited_bind (query : Query α) (next : α → Query β) (told : List Exchange) :
    (query >>= next).recited replies told =
      match query.recited replies told with
      | (.ok value, after) => (next value).recited replies after
      | (.error error, after) => (.error error, after) := by
  refine (runOn_bind (Dialog.recite replies) query next told).trans ?_
  rw [show query.recited replies told = query.runOn (Dialog.recite replies) told from rfl]
  cases query.runOn (Dialog.recite replies) told with
  | mk result after => cases result <;> rfl

theorem recited_say (exchange : Exchange) (told : List Exchange) :
    (say exchange).recited replies told =
      ((replies told.length).mapError .ofSql, told ++ [exchange]) :=
  runOn_say (Dialog.recite replies) exchange told

theorem recited_fetch? (reader : RowReader α) (statement : Statement) (told : List Exchange) :
    (fetch? reader statement).recited replies told =
      (reader.first? (replies told.length), told ++ [.execute statement]) :=
  runOn_fetch? (Dialog.recite replies) reader statement told

/-- What goes on after a query whose failure is looked at. -/
theorem recited_lift_run_bind (query : Query α) (next : Except StoreError α → Query β)
    (told : List Exchange) :
    recited replies (ExceptT.lift query.run >>= next) told =
      (next (query.recited replies told).1).recited replies (query.recited replies told).2 :=
  runOn_lift_run_bind (Dialog.recite replies) query next told

/-! ## Keeping to a plan -/

variable {complaint : Exchange → SqlReply → Option StoreError}

/-- The answers from a place on are as these exchanges need them. -/
def Accepted (complaint : Exchange → SqlReply → Option StoreError) (replies : Nat → SqlReply) :
    Nat → List Exchange → Prop
  | _, [] => True
  | place, exchange :: rest =>
    complaint exchange (replies place) = none ∧ Accepted complaint replies (place + 1) rest

theorem accepted_append (place : Nat) (earlier later : List Exchange) :
    Accepted complaint replies place (earlier ++ later) ↔
      Accepted complaint replies place earlier ∧
        Accepted complaint replies (place + earlier.length) later := by
  induction earlier generalizing place with
  | nil => simp [Accepted]
  | cons exchange rest inductionHypothesis =>
      simp only [List.cons_append, Accepted, inductionHypothesis, List.length_cons, and_assoc,
        Nat.add_assoc, Nat.add_comm 1]

theorem accepted_iff (place : Nat) (plan : List Exchange) :
    Accepted complaint replies place plan ↔
      ∀ index exchange, plan[index]? = some exchange →
        complaint exchange (replies (place + index)) = none := by
  induction plan generalizing place with
  | nil => simp [Accepted]
  | cons exchange rest inductionHypothesis =>
      simp only [Accepted, inductionHypothesis]
      constructor
      · rintro ⟨first, others⟩ (_ | index) exchange found
        · obtain rfl := Option.some.inj found
          exact first
        · rw [show place + (index + 1) = place + 1 + index by omega]
          exact others index exchange found
      · intro all
        refine ⟨all 0 exchange rfl, fun index exchange found => ?_⟩
        rw [show place + 1 + index = place + (index + 1) by omega]
        exact all (index + 1) exchange found

/-- How a query ends that says the exchanges of a plan after what was said before. -/
inductive Follows (complaint : Exchange → SqlReply → Option StoreError) (replies : Nat → SqlReply)
    (told plan : List Exchange) (good : α → Prop) : Except StoreError α × List Exchange → Prop where
  /-- All answers are as they should be. -/
  | completed (value : α) (accepted : Accepted complaint replies told.length plan)
      (holds : good value) : Follows complaint replies told plan good (.ok value, told ++ plan)
  /-- An answer is not, and nothing else of the plan is said. -/
  | brokenOff {earlier later : List Exchange} {exchange : Exchange} {error : StoreError}
      (isPlan : plan = earlier ++ exchange :: later)
      (accepted : Accepted complaint replies told.length earlier)
      (wrong : complaint exchange (replies (told.length + earlier.length)) = some error) :
      Follows complaint replies told plan good (.error error, told ++ earlier ++ [exchange])

/-- A query that needs a record of one statement, and fails with `missing` when there is none. -/
theorem follows_fetch?_bind {reader : RowReader α} {statement : Statement} {missing : StoreError}
    {next : Option α → Query α} {told : List Exchange}
    (atRecord : ∀ record, next (some record) = pure record) (atNone : next none = throw missing)
    (complains : complaint (.execute statement) = reader.complaint? missing) :
    Follows complaint replies told [.execute statement]
      (fun record => reader.record? (replies told.length) = some record)
      (recited replies (fetch? reader statement >>= next) told) := by
  have broken : ∀ error, complaint (.execute statement) (replies told.length) = some error →
      Follows complaint replies told [.execute statement]
        (fun record => reader.record? (replies told.length) = some record)
        (.error error, told ++ [] ++ [.execute statement]) := fun error wrong =>
    .brokenOff (List.nil_append [Exchange.execute statement]).symm trivial wrong
  rw [recited_bind, recited_fetch?]
  cases read : reader.first? (replies told.length) with
  | error error =>
      have wrong := broken error (by simp [complains, RowReader.complaint?, read])
      simpa using wrong
  | ok found =>
      cases found with
      | none =>
          have wrong := broken missing (by simp [complains, RowReader.complaint?, read])
          rw [List.append_nil] at wrong
          simp only [atNone]
          exact wrong
      | some record =>
          simp only [atRecord]
          refine .completed record ⟨?_, trivial⟩ ?_
          · simp [complains, RowReader.complaint?, read]
          · simp [RowReader.record?, read, Except.toOption]

/-- A query that needs a record of one statement. -/
theorem follows_fetch {reader : RowReader α} {statement : Statement} {told : List Exchange}
    (complains : complaint (.execute statement) = reader.complaint? (.ofSql .rowNotFound)) :
    Follows complaint replies told [.execute statement]
      (fun record => reader.record? (replies told.length) = some record)
      ((fetch reader statement).recited replies told) :=
  follows_fetch?_bind (fun _ => rfl) rfl complains

/-- One query after another keeps to one plan after the other. -/
theorem Follows.bind {query : Query α} {next : α → Query β} {told first second : List Exchange}
    {middle : α → Prop} {good : β → Prop}
    (follows : Follows complaint replies told first middle (query.recited replies told))
    (goesOn : ∀ value, middle value → Follows complaint replies (told ++ first) second good
      ((next value).recited replies (told ++ first))) :
    Follows complaint replies told (first ++ second) good
      ((query >>= next).recited replies told) := by
  rw [recited_bind]
  generalize query.recited replies told = recited at follows
  cases follows with
  | completed value accepted holds =>
      have rest := goesOn value holds
      simp only
      generalize (next value).recited replies (told ++ first) = recited at rest
      cases rest with
      | completed value acceptedThen holds =>
          rw [List.append_assoc]
          refine .completed value ((accepted_append ..).mpr ⟨accepted, ?_⟩) holds
          simpa using acceptedThen
      | @brokenOff earlier later exchange error isPlan acceptedThen wrong =>
          have isWhole : first ++ second = (first ++ earlier) ++ exchange :: later := by
            rw [isPlan, List.append_assoc]
          have whole : Follows complaint replies told (first ++ second) good
              (.error error, told ++ (first ++ earlier) ++ [exchange]) :=
            .brokenOff isWhole ((accepted_append ..).mpr ⟨accepted, by simpa using acceptedThen⟩)
              (by simpa [Nat.add_assoc] using wrong)
          simpa using whole
  | @brokenOff earlier later exchange error isPlan accepted wrong =>
      have isWhole : first ++ second = earlier ++ exchange :: (later ++ second) := by
        rw [isPlan, List.append_assoc, List.cons_append]
      exact .brokenOff isWhole accepted wrong

/-- A query that says one exchange, and another one after it. -/
theorem Follows.next {query : Query α} {next : α → Query β} {told plan : List Exchange}
    {exchange : Exchange} {middle : α → Prop} {good : β → Prop}
    (follows : Follows complaint replies told [exchange] middle (query.recited replies told))
    (goesOn : ∀ value, middle value → Follows complaint replies (told ++ [exchange]) plan good
      ((next value).recited replies (told ++ [exchange]))) :
    Follows complaint replies told (exchange :: plan) good
      ((query >>= next).recited replies told) :=
  follows.bind goesOn

/-- A query that says nothing. -/
theorem Follows.pure {value : α} {told : List Exchange} {good : α → Prop} (holds : good value) :
    Follows complaint replies told [] good
      (recited replies (Pure.pure value : Query α) told) := by
  have silent : Follows complaint replies told [] good (.ok value, told ++ []) :=
    .completed value trivial holds
  rwa [List.append_nil] at silent

/-! ## Transactions -/

/-- What is said after all when a transaction ends so: nothing is undone that was not begun. -/
def undoing : Except StoreError α × List Exchange → List Exchange
  | (.ok _, _) => []
  | (.error _, told) => if 1 < told.length then [.rollback] else []

/-- A transaction keeps to the plan of its body between its begin and its commit, and undoes
what it began when that fails. -/
theorem recited_transaction {body : Query α} {plan : List Exchange} {good : α → Prop}
    (follows : Follows complaint replies [.begin] plan good (body.recited replies [.begin]))
    (atEnds : ∀ exchange ∈ [Exchange.begin, .commit], ∀ reply : SqlReply,
      complaint exchange reply = match reply with
        | .ok _ => none
        | .error failure => some (.ofSql failure)) :
    ∃ outcome, Follows complaint replies [] (.begin :: plan ++ [.commit]) good outcome ∧
      (transaction body).recited replies [] = (outcome.1, outcome.2 ++ undoing outcome) := by
  have atBegin := atEnds .begin (by simp)
  have atCommit := atEnds .commit (by simp)
  unfold transaction
  rw [recited_bind, recited_say]
  cases begun : replies 0 with
  | error failure =>
      refine ⟨(.error (.ofSql failure), [.begin]), ?_, by simp [Except.mapError, undoing]⟩
      have wrong : complaint .begin (replies 0) = some (.ofSql failure) := by rw [atBegin, begun]
      have isPlan : Exchange.begin :: plan ++ [.commit] = [] ++ .begin :: (plan ++ [.commit]) := rfl
      exact .brokenOff isPlan trivial wrong
  | ok outcome =>
      have opened : complaint .begin (replies 0) = none := by rw [atBegin, begun]
      simp only [Except.mapError, List.nil_append]
      rw [recited_lift_run_bind]
      generalize body.recited replies [.begin] = recited at follows
      cases follows with
      | @brokenOff earlier later exchange error isPlan accepted wrong =>
          refine ⟨(.error error, [] ++ (.begin :: earlier) ++ [exchange]), ?_, ?_⟩
          · have isWhole : Exchange.begin :: plan ++ [.commit] =
                (.begin :: earlier) ++ exchange :: (later ++ [.commit]) := by
              rw [isPlan]; simp
            refine .brokenOff isWhole ⟨opened, accepted⟩ ?_
            simpa [Nat.add_comm] using wrong
          · simp only [List.singleton_append, undoing]
            rw [if_pos (by simp)]
            rfl
      | completed value accepted holds =>
          simp only [List.singleton_append]
          rw [recited_lift_run_bind, recited_say]
          have isWhole : Exchange.begin :: plan ++ [.commit] =
              (.begin :: plan) ++ .commit :: [] := rfl
          have whole : Accepted complaint replies 0 (.begin :: plan) := ⟨opened, accepted⟩
          cases committed : replies (Exchange.begin :: plan).length with
          | error failure =>
              refine ⟨(.error (.ofSql failure), [] ++ (.begin :: plan) ++ [.commit]), ?_, ?_⟩
              · refine .brokenOff isWhole whole ?_
                rw [atCommit, List.length_nil, Nat.zero_add, committed]
              · simp only [undoing]
                rw [if_pos (by simp)]
                rfl
          | ok outcome =>
              refine ⟨(.ok value, [] ++ (.begin :: plan ++ [.commit])), ?_, ?_⟩
              · refine .completed value ?_ holds
                rw [accepted_append]
                refine ⟨whole, ?_, trivial⟩
                rw [atCommit, List.length_nil, Nat.zero_add, committed]
              · simp only [undoing, List.append_nil]
                rfl

/-! ## Dropping -/

/-- Whether a transaction may be open after one exchange, which may still wait for its answer. -/
def mayLeaveOpen (isOpen : Bool) : Exchange → Option SqlReply → Bool
  | .begin, some (.error _) => isOpen
  | .begin, _ => true
  | .commit, some (.ok _) => false
  | .rollback, _ => false
  | _, _ => isOpen

/-- Whether a transaction may be open when an exchange waits for its answer, after some that were
answered. -/
def mayBeOpen (heard : List (Exchange × SqlReply)) (pending : Exchange) : Bool :=
  let isOpen := heard.foldl (fun isOpen (exchange, reply) =>
    mayLeaveOpen isOpen exchange (some reply)) false
  mayLeaveOpen isOpen pending none

end Query

/-- The library that dialogs are held through. -/
structure SqlDriver where
  /-- What it tells the server when nobody waits any longer for the answer to an exchange, after
  others that were answered. -/
  onDrop : List (Exchange × SqlReply) → Exchange → List Exchange

/-- A transaction that may be open when its dialog is dropped is rolled back. -/
def SqlDriver.RollsBack (driver : SqlDriver) : Prop :=
  ∀ heard pending, Query.mayBeOpen heard pending → driver.onDrop heard pending = [.rollback]

namespace Dialog

variable {α : Type} {replies : Nat → SqlReply}

/-- What was said to a server that answers from a sequence, with its answers. -/
def answered (replies : Nat → SqlReply) (told : List Exchange) : List (Exchange × SqlReply) :=
  told.mapIdx fun place exchange => (exchange, replies place)

/-- Holds a dialog until so many more exchanges were answered and one more was said, and drops it
there: nobody goes on, and the driver says the rest. -/
def dropAt (driver : SqlDriver) (replies : Nat → SqlReply) :
    Dialog α → List Exchange → Nat → List Exchange
  | .done _, told, _ => told
  | .send exchange _, told, 0 =>
    told ++ [exchange] ++ driver.onDrop (answered replies told) exchange
  | .send exchange next, told, more + 1 =>
    (next (replies told.length)).dropAt driver replies (told ++ [exchange]) more

/-- Nothing that was said is taken back. -/
theorem prefix_recite (dialog : Dialog α) (told : List Exchange) :
    told <+: (dialog.run (recite replies) told).2 := by
  induction dialog generalizing told with
  | done _ => exact List.prefix_rfl
  | send exchange next inductionHypothesis =>
      exact (List.prefix_append told [exchange]).trans (inductionHypothesis _ _)

/-- A dialog that is dropped has said what it says when it is not, up to the exchange that waits. -/
theorem dropAt_eq (driver : SqlDriver) {dialog : Dialog α} {told : List Exchange} {more : Nat}
    {pending : Exchange}
    (isSaid : (dialog.run (recite replies) told).2[told.length + more]? = some pending) :
    dialog.dropAt driver replies told more =
      (dialog.run (recite replies) told).2.take (told.length + more) ++ [pending] ++
        driver.onDrop
          (answered replies ((dialog.run (recite replies) told).2.take (told.length + more)))
          pending := by
  induction dialog generalizing told more with
  | done _ =>
      have isLess : told.length + more < told.length := (List.getElem?_eq_some_iff.mp isSaid).1
      omega
  | send exchange next inductionHypothesis =>
      have rest : told ++ [exchange] <+:
          ((next (replies told.length)).run (recite replies) (told ++ [exchange])).2 :=
        prefix_recite _ _
      cases more with
      | zero =>
          obtain ⟨later, isWhole⟩ := rest
          rw [List.append_assoc, List.singleton_append] at isWhole
          have whole : ((Dialog.send exchange next).run (recite replies) told).2 =
              told ++ exchange :: later := isWhole.symm
          rw [whole] at isSaid ⊢
          rw [Nat.add_zero, List.getElem?_append_right (Nat.le_refl _), Nat.sub_self,
            List.getElem?_cons_zero] at isSaid
          obtain rfl := Option.some.inj isSaid
          rw [Nat.add_zero, List.take_left]
          rfl
      | succ more =>
          have sameLength : told.length + (more + 1) = (told ++ [exchange]).length + more := by
            rw [List.length_append, List.length_singleton]
            omega
          rw [sameLength] at isSaid ⊢
          exact inductionHypothesis _ isSaid

end Dialog

namespace Query

variable {α : Type} {replies : Nat → SqlReply}

/-- What the server is told in all when nobody waits any longer for the answer to the exchange at a
place. -/
def dropped (driver : SqlDriver) (replies : Nat → SqlReply) (query : Query α) (place : Nat) :
    List Exchange :=
  query.run.dropAt driver replies [] place

theorem dropped_eq (driver : SqlDriver) {query : Query α} {place : Nat} {pending : Exchange}
    (isSaid : (query.recited replies []).2[place]? = some pending) :
    query.dropped driver replies place =
      (query.recited replies []).2.take place ++ [pending] ++
        driver.onDrop (Dialog.answered replies ((query.recited replies []).2.take place))
          pending := by
  have isDropped := @Dialog.dropAt_eq _ replies driver query.run [] place pending
  simp only [List.length_nil, Nat.zero_add] at isDropped
  exact isDropped isSaid

end Query

end Countinghouse
