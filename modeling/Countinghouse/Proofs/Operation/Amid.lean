import Countinghouse.Proofs.Store.History
import Countinghouse.Operation

/-!
# Operations that end amid others

`Operation.EndsAmid` says how an operation can end over tables on which others go on making calls of
the store: any number of them before each call of its own. An attempt that only reads the tables
leaves them as the others made them, and every reading is of the tables as they are by then.
-/

namespace Countinghouse

variable {α β : Type} {tables after : Tables} {call : StoreCall}

namespace Operation

/-- An operation that finds these tables can end with this value and leave those tables. -/
inductive EndsAmid : Operation α → Tables → α → Tables → Prop where
  | done {value tables} : EndsAmid (.done value) tables value tables
  /-- Others make calls, and then the operation makes its own. -/
  | call {call : StoreCall} {next tables value after} (others : List TimedCall) (now : Instant)
      (rest : EndsAmid (next (Tables.perform now call (tables.follow others)).1)
        (Tables.perform now call (tables.follow others)).2 value after) :
      EndsAmid (.ask (.store call) next) tables value after
  /-- Anything answers a need that the store has no part in. -/
  | answer {need : Need} {next tables value after} (answer : need.Answer)
      (outside : ∀ call, need ≠ .store call) (rest : EndsAmid (next answer) tables value after) :
      EndsAmid (.ask need next) tables value after

theorem endsAmid_done_iff {value found : α} :
    (done found).EndsAmid tables value after ↔ value = found ∧ after = tables := by
  constructor
  · rintro ⟨⟩
    exact ⟨rfl, rfl⟩
  · rintro ⟨rfl, rfl⟩
    exact .done

theorem endsAmid_call_iff {next : Except StoreError call.Reply → Operation α} {value : α} :
    (ask (.store call) next).EndsAmid tables value after ↔ ∃ others now,
      (next (Tables.perform now call (tables.follow others)).1).EndsAmid
        (Tables.perform now call (tables.follow others)).2 value after := by
  constructor
  · intro ends
    cases ends with
    | call others now rest => exact ⟨others, now, rest⟩
    | answer _ outside _ => exact absurd rfl (outside call)
  · rintro ⟨others, now, rest⟩
    exact .call others now rest

end Operation

namespace Attempt

/-! ## Attempts that read -/

variable {reply : Tables → call.Reply}
  (reads : ∀ now tables, Tables.perform now call tables = (.ok (reply tables), tables))

include reads

theorem endsAmid_read_iff {result : Except BankError call.Reply} :
    (Attempt.call call).run.EndsAmid tables result after ↔
      ∃ others, after = tables.follow others ∧ result = .ok (reply after) := by
  refine Operation.endsAmid_call_iff.trans (exists_congr fun others => ?_)
  constructor
  · rintro ⟨now, rest⟩
    rw [reads] at rest
    obtain ⟨rfl, rfl⟩ := Operation.endsAmid_done_iff.mp rest
    exact ⟨rfl, rfl⟩
  · rintro ⟨rfl, rfl⟩
    refine ⟨⟨0⟩, ?_⟩
    rw [reads]
    exact .done

/-- What comes after a call that reads finds the tables as they were read. -/
theorem endsAmid_read_bind_iff {next : call.Reply → Attempt β} {result : Except BankError β} :
    (Attempt.call call >>= next).run.EndsAmid tables result after ↔ ∃ others,
      (next (reply (tables.follow others))).run.EndsAmid (tables.follow others) result after := by
  refine Operation.endsAmid_call_iff.trans (exists_congr fun others => ?_)
  constructor
  · rintro ⟨now, rest⟩
    rw [reads] at rest
    exact rest
  · intro rest
    refine ⟨⟨0⟩, ?_⟩
    rw [reads]
    exact rest

end Attempt

end Countinghouse
