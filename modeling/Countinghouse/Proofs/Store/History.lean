import Countinghouse.Store.Tables

/-!
# Histories of the store

Calls are made of the store one after another, each at a time of its own. `Tables.follow`
is what they make of the tables and `Tables.accesses` is what an observer sees of them.
`Tables.openings` and `Tables.movements` are read off the observed replies alone: the
accounts that were opened, with the balance each was given, and the transfers that were
committed. They are what the tables are held against.
-/

namespace Countinghouse

/-- A call made of the store at a time. -/
structure TimedCall where
  now : Instant
  call : StoreCall
  deriving DecidableEq, Repr

/-- A call together with the tables it found. -/
structure Access extends TimedCall where
  before : Tables
  deriving DecidableEq, Repr

namespace Access

/-- What the store answered. -/
def reply (access : Access) : Except StoreError access.call.Reply :=
  (Tables.perform access.now access.call access.before).1

/-- The tables the call left. -/
def after (access : Access) : Tables := (Tables.perform access.now access.call access.before).2

end Access

/-- An account that was opened, and the balance it was opened with. -/
structure Opening where
  accountId : Int
  balance : Int
  deriving DecidableEq, Repr

namespace StoreCall

/-- What an answered call opened, if it opened an account. -/
def opening? : (call : StoreCall) → Except StoreError call.Reply → Option Opening
  | .createAccount new, .ok account => some ⟨account.id, new.balance⟩
  | _, _ => none

/-- What an answered call moved, if it committed a transfer. -/
def movement? : (call : StoreCall) → Except StoreError call.Reply → Option Movement
  | .transferFunds .., .ok movement => some movement
  | _, _ => none

end StoreCall

namespace Tables

/-- The tables after one call. -/
def next (tables : Tables) (timed : TimedCall) : Tables :=
  (perform timed.now timed.call tables).2

/-- The tables after calls made one after another. -/
def follow (tables : Tables) (calls : List TimedCall) : Tables := calls.foldl next tables

/-- What a store that was empty holds after calls. -/
def after (calls : List TimedCall) : Tables := follow .empty calls

/-- Calls made one after another, each with the tables it found. -/
def accesses : Tables → List TimedCall → List Access
  | _, [] => []
  | tables, timed :: rest => ⟨timed, tables⟩ :: accesses (tables.next timed) rest

/-- The accounts opened by calls of a store that was empty, oldest first. -/
def openings (calls : List TimedCall) : List Opening :=
  (accesses .empty calls).filterMap fun access => access.call.opening? access.reply

/-- The transfers committed by calls of a store that was empty, oldest first. -/
def movements (calls : List TimedCall) : List Movement :=
  (accesses .empty calls).filterMap fun access => access.call.movement? access.reply

/-! ## One call more -/

theorem follow_append (tables : Tables) (earlier later : List TimedCall) :
    tables.follow (earlier ++ later) = (tables.follow earlier).follow later :=
  List.foldl_append

theorem after_append (earlier later : List TimedCall) :
    after (earlier ++ later) = (after earlier).follow later :=
  follow_append .empty earlier later

theorem after_concat (calls : List TimedCall) (timed : TimedCall) :
    after (calls ++ [timed]) = (after calls).next timed :=
  after_append calls [timed]

theorem accesses_append (tables : Tables) (earlier later : List TimedCall) :
    tables.accesses (earlier ++ later) =
      tables.accesses earlier ++ (tables.follow earlier).accesses later := by
  induction earlier generalizing tables with
  | nil => rfl
  | cons timed rest inductionHypothesis =>
      exact congrArg (⟨timed, tables⟩ :: ·) (inductionHypothesis (tables.next timed))

/-- A further call adds one access, which finds what the calls before it left. -/
theorem accesses_concat (calls : List TimedCall) (timed : TimedCall) :
    accesses .empty (calls ++ [timed]) = accesses .empty calls ++ [⟨timed, after calls⟩] :=
  accesses_append .empty calls [timed]

theorem openings_concat (calls : List TimedCall) (timed : TimedCall) :
    openings (calls ++ [timed]) = openings calls ++
      (timed.call.opening? (Access.mk timed (after calls)).reply).toList := by
  unfold openings
  rw [accesses_concat, List.filterMap_append]
  rfl

theorem movements_concat (calls : List TimedCall) (timed : TimedCall) :
    movements (calls ++ [timed]) = movements calls ++
      (timed.call.movement? (Access.mk timed (after calls)).reply).toList := by
  unfold movements
  rw [accesses_concat, List.filterMap_append]
  rfl

end Tables

end Countinghouse
