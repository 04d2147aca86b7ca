import Countinghouse.Proofs.Store.Effect

/-!
# What becomes of a stored account

No call removes an account, and what is fixed when an account is opened stays as it is.
`Account.Change` lists what one call can do to one row: it is one list for all calls, so who
may change an account is settled by who may make which call. `Tables.Keeps` is what remains
when it does not matter which calls were made.
-/

namespace Countinghouse

namespace Account

/-- What a call can do to the row of an account. -/
inductive Change (row : Account) : StoreCall → Account → Prop where
  | none {call : StoreCall} : Change row call row
  | deleted : Change row (.deleteAccount row.id) { row with isDeleted := true }
  | restored : Change row (.restoreAccount row.id) { row with isDeleted := false }
  | debited {destination amount : Int} (positive : 0 < amount)
      (active : row.isDeleted = false) :
      Change row (.transferFunds row.id destination amount)
        { row with balance := row.balance - amount }
  | credited {source amount : Int} (positive : 0 < amount) (active : row.isDeleted = false) :
      Change row (.transferFunds source row.id amount)
        { row with balance := row.balance + amount }

theorem Change.same {row changed : Account} {call : StoreCall}
    (change : row.Change call changed) : row.Same changed := by
  cases change <;> exact ⟨rfl, rfl, rfl, rfl⟩

/-- Nothing but a restoration can be done to a deleted account. -/
theorem Change.eq_of_isDeleted {row changed : Account} {call : StoreCall}
    (change : row.Change call changed) (isDeleted : row.isDeleted = true)
    (notRestored : call ≠ .restoreAccount row.id) : changed = row := by
  cases change with
  | none => rfl
  | deleted => rw [← isDeleted]
  | restored => exact absurd rfl notRestored
  | debited _ active | credited _ active => rw [isDeleted] at active; cases active

end Account

namespace Tables

/-- The account of a row is stored: the row is as it is now, or as it once was. -/
def Knows (tables : Tables) (row : Account) : Prop :=
  ∃ current, tables.account? row.id = some current ∧ row.Same current

theorem knows_of_account? {tables : Tables} {id : Int} {row : Account}
    (stored : tables.account? id = some row) : row.id = id ∧ tables.Knows row := by
  obtain ⟨-, rfl⟩ := account?_some stored
  exact ⟨rfl, row, stored, .refl row⟩

/-- Every account that is stored before is stored after, with what is fixed about it. -/
def Keeps (before after : Tables) : Prop := ∀ row, before.Knows row → after.Knows row

/-- When each row stays a row of its account, the same row is found and changed. -/
theorem find?_map_of_same (accounts : List Account) {change : Account → Account}
    (same : ∀ row : Account, row.Same (change row)) (id : Int) :
    (accounts.map change).find? (·.id == id) = (accounts.find? (·.id == id)).map change :=
  find?_map_of_key (fun row => (same row).id) accounts id

theorem account?_markDeleted (tables : Tables) (id : Int) (isDeleted : Bool) (other : Int) :
    (tables.markDeleted id isDeleted).account? other =
      (tables.account? other).map (mark id isDeleted) :=
  find?_map_of_same tables.accounts (mark_same id isDeleted) other

theorem account?_moved (now : Instant) (source destination amount : Int) (payer payee : Account)
    (tables : Tables) (other : Int) :
    (tables.moved now source destination amount payer payee).account? other =
      (tables.account? other).map
        (settle source destination (payer.balance - amount) (payee.balance + amount)) :=
  find?_map_of_same tables.accounts (settle_same _ _ _ _) other

/-- Marking accounts changes the marked one only. -/
theorem mark_change {id : Int} {isDeleted : Bool} {row : Account} {call : StoreCall}
    (marks : row.id = id → row.Change call { row with isDeleted }) :
    row.Change call (mark id isDeleted row) := by
  by_cases marked : row.id = id
  · simpa [mark, marked] using marks marked
  · simpa [mark, marked] using Account.Change.none

/-- Settling a transfer changes its two ends only. -/
theorem settle_change {tables : Tables} {source destination amount : Int}
    {payer payee row : Account}
    (transferable : tables.Transferable source destination amount payer payee)
    (stored : tables.account? row.id = some row) :
    row.Change (.transferFunds source destination amount)
      (settle source destination (payer.balance - amount) (payee.balance + amount) row) := by
  by_cases isSource : row.id = source
  · subst isSource
    obtain rfl : payer = row := Option.some.inj (transferable.payerStored.symm.trans stored)
    simpa [settle] using Account.Change.debited transferable.positive transferable.payerActive
  · by_cases isDestination : row.id = destination
    · subst isDestination
      obtain rfl : payee = row := Option.some.inj (transferable.payeeStored.symm.trans stored)
      simpa [settle, isSource] using
        Account.Change.credited transferable.positive transferable.payeeActive
    · simpa [settle, isSource, isDestination] using Account.Change.none

/-- A call leaves every stored account in its place, and does at most one thing to it. -/
theorem Effect.account_change {now : Instant} {before after : Tables} {call : StoreCall}
    {reply : Except StoreError call.Reply} (effect : Effect now before call reply after)
    {id : Int} {row : Account} (stored : before.account? id = some row) :
    ∃ changed, after.account? id = some changed ∧ row.Change call changed := by
  obtain ⟨-, rfl⟩ := account?_some stored
  cases effect with
  | nothing | registered | updated | admitted | blocked => exact ⟨row, stored, .none⟩
  | @opened new =>
      refine ⟨row, ?_, .none⟩
      simp only [account?] at stored ⊢
      rw [List.find?_append, stored, Option.some_or]
  | deleted id =>
      refine ⟨mark id true row, ?_, mark_change ?_⟩
      · rw [account?_markDeleted, stored, Option.map_some]
      · rintro rfl
        exact .deleted
  | restored id =>
      refine ⟨mark id false row, ?_, mark_change ?_⟩
      · rw [account?_markDeleted, stored, Option.map_some]
      · rintro rfl
        exact .restored
  | transferred transferable =>
      refine ⟨_, ?_, settle_change transferable stored⟩
      rw [account?_moved, stored, Option.map_some]

/-- Every call keeps every account. -/
theorem keeps_perform (now : Instant) (call : StoreCall) (tables : Tables) :
    tables.Keeps (perform now call tables).2 := by
  rintro row ⟨current, stored, same⟩
  obtain ⟨changed, found, change⟩ := (tables.perform_effect now call).account_change stored
  exact ⟨changed, found, same.trans change.same⟩

/-- A deleted account stays exactly as it is until it is restored. -/
theorem follow_of_isDeleted {tables : Tables} {id : Int} {row : Account} (calls : List TimedCall)
    (notRestored : ∀ timed ∈ calls, timed.call ≠ .restoreAccount id)
    (stored : tables.account? id = some row) (isDeleted : row.isDeleted = true) :
    (tables.follow calls).account? id = some row := by
  induction calls generalizing tables with
  | nil => exact stored
  | cons timed rest inductionHypothesis =>
      obtain ⟨-, rfl⟩ := account?_some stored
      obtain ⟨changed, found, change⟩ := (tables.next_effect timed).account_change stored
      have unchanged := change.eq_of_isDeleted isDeleted (notRestored timed List.mem_cons_self)
      exact inductionHypothesis
        (fun other member => notRestored other (List.mem_cons_of_mem timed member))
        (unchanged ▸ found)

end Tables

end Countinghouse
