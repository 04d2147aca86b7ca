import Countinghouse.Proofs.Sql.Query
import Countinghouse.Proofs.Store.Numbering
import Countinghouse.Proofs.Time.Instant
import Countinghouse.Sql.Database
import Countinghouse.Sql.Store

/-!
# What queries come to on a database

`Database.Ends` says how a query ends inside a transaction: with a result and the tables it left,
all still to be committed, or with an error, and then nothing but the end of the transaction is
possible. One lemma says this of each statement, `Ends.bind` of one query after another, and
`runOn_transaction` that a transaction that fails leaves the rows as they were. Each error comes
with its reason: `Database.Forbidden` for what the schema does not allow, `Database.Refused` for a
balance that is not changed, and `Database.Declined` for a whole transfer.
-/

namespace Countinghouse

/-! ## Records are read back from their rows -/

namespace RowReader

variable {row : SqlRow} {name : String}

/-- A reader that reads one thing after another. -/
theorem run_bind {α β : Type} {first : RowReader α} {next : α → RowReader β} {value : α}
    (read : first.run row = .ok value) : (first >>= next).run row = (next value).run row := by
  rw [ReaderT.run_bind, read]
  rfl

theorem run_column {value : SqlValue} (found : row.find? (·.1 == name) = some (name, value))
    (isSome : value ≠ .null) : (column name).run row = .ok value := by
  have isRead : (read : RowReader SqlRow).run row = .ok row := rfl
  unfold column
  refine (run_bind isRead).trans ?_
  rw [found]
  cases value with
  | null => exact absurd rfl isSome
  | bool | int | text => rfl

theorem run_integer {value : Int} (found : row.find? (·.1 == name) = some (name, .int value)) :
    (integer name).run row = .ok value :=
  run_bind (run_column found (by simp))

theorem run_text {value : String} (found : row.find? (·.1 == name) = some (name, .text value)) :
    (text name).run row = .ok value :=
  run_bind (run_column found (by simp))

theorem run_truth {value : Bool} (found : row.find? (·.1 == name) = some (name, .bool value)) :
    (truth name).run row = .ok value :=
  run_bind (run_column found (by simp))

theorem run_instant {value : Instant}
    (found : row.find? (·.1 == name) = some (name, .text value.render)) :
    (instant name).run row = .ok value := by
  refine (run_bind (run_text found)).trans ?_
  rw [Instant.parse?_render]
  rfl

theorem run_currency {value : Currency}
    (found : row.find? (·.1 == name) = some (name, .text value.code)) :
    (currency name).run row = .ok value := by
  refine (run_bind (run_text found)).trans ?_
  rw [Currency.ofCode?_code]
  rfl

theorem run_account (record : Account) : account.run record.row = .ok record := by
  refine (run_bind (run_integer (by rfl))).trans ?_
  refine (run_bind (run_text (by rfl))).trans ?_
  refine (run_bind (run_integer (by rfl))).trans ?_
  refine (run_bind (run_currency (by rfl))).trans ?_
  refine (run_bind (run_truth (by rfl))).trans ?_
  exact run_bind (run_instant (by rfl))

theorem run_transfer (record : Transfer) : transfer.run record.row = .ok record := by
  refine (run_bind (run_integer (by rfl))).trans ?_
  refine (run_bind (run_integer (by rfl))).trans ?_
  refine (run_bind (run_integer (by rfl))).trans ?_
  refine (run_bind (run_integer (by rfl))).trans ?_
  exact run_bind (run_instant (by rfl))

theorem run_entry (record : Entry) : entry.run record.row = .ok record := by
  refine (run_bind (run_integer (by rfl))).trans ?_
  refine (run_bind (run_integer (by rfl))).trans ?_
  refine (run_bind (run_integer (by rfl))).trans ?_
  exact run_bind (run_instant (by rfl))

end RowReader

namespace Database

open Query

variable {α β : Type} {others : Statement → Tables → Except ServerError SqlOutcome × Tables}
  {now : Instant} {before tables : Tables}

/-! ## One query after another -/

/-- How a query ends in a transaction that was begun on the tables `before`. -/
inductive Ends (before : Tables) (good : α → Tables → Prop) (bad : StoreError → Prop) :
    Except StoreError α × Database → Prop where
  /-- The transaction goes on. -/
  | completed {value : α} {after : Tables} (holds : good value after) :
      Ends before good bad (.ok value, ⟨after, .running before⟩)
  /-- The transaction can only be ended. -/
  | brokenOff {error : StoreError} {after : Tables} {transaction : Transaction}
      (isOpen : transaction = .running before ∨ transaction = .failed before)
      (holds : bad error) : Ends before good bad (.error error, ⟨after, transaction⟩)

/-- One query after another, when each one's failure is one of both. -/
theorem Ends.bind {middle : α → Tables → Prop} {good : β → Tables → Prop}
    {worse bad : StoreError → Prop} {query : Query α} {next : α → Query β} {database : Database}
    (ends : Ends before middle worse (query.runOn (serve others now) database))
    (failed : ∀ error, worse error → bad error)
    (goesOn : ∀ value after, middle value after →
      Ends before good bad ((next value).runOn (serve others now) ⟨after, .running before⟩)) :
    Ends before good bad ((query >>= next).runOn (serve others now) database) := by
  rw [runOn_bind]
  generalize query.runOn (serve others now) database = result at ends
  cases ends with
  | completed holds => exact goesOn _ _ holds
  | brokenOff isOpen holds => exact .brokenOff isOpen (failed _ holds)

/-- More may be allowed of a result or of an error. -/
theorem Ends.mono {strong good : α → Tables → Prop} {worse bad : StoreError → Prop}
    {result : Except StoreError α × Database} (ends : Ends before strong worse result)
    (completed : ∀ value after, strong value after → good value after)
    (failed : ∀ error, worse error → bad error) : Ends before good bad result := by
  cases ends with
  | completed holds => exact .completed (completed _ _ holds)
  | brokenOff isOpen holds => exact .brokenOff isOpen (failed _ holds)

/-- A query that comes to this result. -/
theorem Ends.of_eq {good : α → Tables → Prop} {bad : StoreError → Prop} {query : Query α}
    {database : Database} {result : Except StoreError α × Database}
    (isResult : query.runOn (serve others now) database = result)
    (ends : Ends before good bad result) :
    Ends before good bad (query.runOn (serve others now) database) := isResult ▸ ends

/-- A transaction that completes leaves the tables that its body left; one that fails leaves the
rows as they were. -/
theorem runOn_transaction {good : α → Tables → Prop} {bad : StoreError → Prop} {body : Query α}
    (ends : Ends before good bad (body.runOn (serve others now) ⟨before, .running before⟩)) :
    (∃ value after, good value after ∧
      (Query.transaction body).runOn (serve others now) ⟨before, .none⟩ =
        (.ok value, ⟨after, .none⟩)) ∨
    ∃ error after, bad error ∧ (Query.transaction body).runOn (serve others now) ⟨before, .none⟩ =
      (.error error, ⟨undo before after, .none⟩) := by
  have begun : (say .begin).runOn (serve others now) ⟨before, .none⟩ =
      (.ok ⟨[], 0⟩, ⟨before, .running before⟩) := runOn_say _ _ _
  unfold Query.transaction
  rw [runOn_bind, begun]
  dsimp only
  rw [runOn_lift_run_bind]
  generalize body.runOn (serve others now) ⟨before, .running before⟩ = result at ends
  cases ends with
  | @completed value after holds =>
      refine .inl ⟨value, after, holds, ?_⟩
      dsimp only
      rw [runOn_lift_run_bind, runOn_say]
      rfl
  | @brokenOff error after transaction isOpen holds =>
      refine .inr ⟨error, after, holds, ?_⟩
      dsimp only
      rw [runOn_abandon]
      rcases isOpen with rfl | rfl <;> rfl

/-! ## One statement -/

/-- A statement that returns a row which can be read. -/
theorem runOn_fetch?_row {reader : RowReader α} {statement : Statement} {row : SqlRow}
    {rows : List SqlRow} {affected : Nat} {record : α} {after : Tables}
    (executed : execute others now statement tables = (.ok ⟨row :: rows, affected⟩, after))
    (isRead : reader.run row = .ok record) :
    (fetch? reader statement).runOn (serve others now) ⟨tables, .running before⟩ =
      (.ok (some record), ⟨after, .running before⟩) := by
  rw [runOn_fetch?]
  simp only [serve, executed, RowReader.first?, isRead]
  rfl

/-- A statement that finds nothing. -/
theorem runOn_fetch?_none {reader : RowReader α} {statement : Statement} {affected : Nat}
    {after : Tables}
    (executed : execute others now statement tables = (.ok ⟨[], affected⟩, after)) :
    (fetch? reader statement).runOn (serve others now) ⟨tables, .running before⟩ =
      (.ok none, ⟨after, .running before⟩) := by
  rw [runOn_fetch?]
  simp only [serve, executed, RowReader.first?]

/-- A statement that fails. -/
theorem runOn_fetch?_error {reader : RowReader α} {statement : Statement} {error : ServerError}
    {after : Tables} (executed : execute others now statement tables = (.error error, after)) :
    (fetch? reader statement).runOn (serve others now) ⟨tables, .running before⟩ =
      (.error (.ofSql (.server error)), ⟨after, .failed before⟩) := by
  rw [runOn_fetch?]
  simp only [serve, executed, RowReader.first?]

/-- A statement that has to return a row, and does. -/
theorem runOn_fetch_row {reader : RowReader α} {statement : Statement} {row : SqlRow}
    {rows : List SqlRow} {affected : Nat} {record : α} {after : Tables}
    (executed : execute others now statement tables = (.ok ⟨row :: rows, affected⟩, after))
    (isRead : reader.run row = .ok record) :
    (fetch reader statement).runOn (serve others now) ⟨tables, .running before⟩ =
      (.ok record, ⟨after, .running before⟩) := by
  unfold fetch
  rw [runOn_bind, runOn_fetch?_row executed isRead]
  rfl

/-- A statement that has to return a row, and fails. -/
theorem runOn_fetch_error {reader : RowReader α} {statement : Statement} {error : ServerError}
    {after : Tables} (executed : execute others now statement tables = (.error error, after)) :
    (fetch reader statement).runOn (serve others now) ⟨tables, .running before⟩ =
      (.error (.ofSql (.server error)), ⟨after, .failed before⟩) := by
  unfold fetch
  rw [runOn_bind, runOn_fetch?_error executed]

/-! ## Rows that are added -/

/-- So many entries can be numbered, all with numbers that are not in use. -/
structure EntriesLeft (count : Nat) (tables : Tables) : Prop where
  isUsed : ∀ entry ∈ tables.entries, entry.id ≤ tables.lastEntryId
  isLeft : tables.lastEntryId + count ≤ 9223372036854775807

theorem EntriesLeft.addEntry {count : Nat} (left : EntriesLeft (count + 1) tables)
    (accountId amount : Int) : EntriesLeft count (tables.addEntry now accountId amount).2 where
  isUsed entry stored := by
    rcases List.mem_append.mp stored with old | new
    · exact (left.isUsed entry old).trans (Int.le_add_one le_rfl)
    · rw [List.mem_singleton.mp new]
      exact le_rfl
  isLeft := by
    have isLeft := left.isLeft
    simp only [Tables.addEntry]
    omega

/-- What a database needs for its sequences to number the rows of a transfer, and for a number to
be the number of one account. -/
structure Numberable (tables : Tables) : Prop where
  accountIds : (tables.accounts.map (·.id)).Nodup
  transferIds : ∀ transfer ∈ tables.transfers, transfer.id ≤ tables.lastTransferId
  transfersLeft : tables.lastTransferId < 9223372036854775807
  entriesLeft : EntriesLeft 2 tables

/-- An account is stored under this number. -/
def Known (tables : Tables) (id : Int) : Prop := ∃ account, tables.account? id = some account

theorem checkReference_eq_ok_iff {table constraint : String} {id : Int} :
    checkReference tables table constraint id = .ok () ↔ Known tables id := by
  have isStored : Known tables id ↔ tables.accounts.any (·.id == id) = true :=
    Option.isSome_iff_exists.symm.trans (List.find?_isSome.trans List.any_eq_true.symm)
  rw [isStored]
  unfold checkReference
  split
  case isTrue known => exact ⟨fun _ => known, fun _ => rfl⟩
  case isFalse unknown => exact ⟨fun passed => (by cases passed), fun known => absurd known unknown⟩

/-- What the schema says of a transfer that is added. -/
structure Allowed (tables : Tables) (source destination amount : Int) : Prop where
  positive : 0 < amount
  distinct : source ≠ destination
  sourceKnown : Known tables source
  destinationKnown : Known tables destination

/-- Why a transfer is not added: the first of these that is not as the schema says. -/
inductive Forbidden (tables : Tables) (source destination amount : Int) : StoreError → Prop where
  | notPositive (notPositive : amount ≤ 0) : Forbidden tables source destination amount
      (.database (.server (.checkViolated "transfers" "transfers_amount_check")))
  | same (positive : 0 < amount) (same : source = destination) :
      Forbidden tables source destination amount
        (.database (.server (.checkViolated "transfers" "transfers_distinct_accounts")))
  | sourceUnknown (positive : 0 < amount) (distinct : source ≠ destination)
      (unknown : ¬Known tables source) : Forbidden tables source destination amount
        (.foreignKeyViolation "transfers_from_account_id_fkey")
  | destinationUnknown (positive : 0 < amount) (distinct : source ≠ destination)
      (sourceKnown : Known tables source) (unknown : ¬Known tables destination) :
      Forbidden tables source destination amount
        (.foreignKeyViolation "transfers_to_account_id_fkey")

theorem Forbidden.not_allowed {source destination amount : Int} {error : StoreError}
    (forbidden : Forbidden tables source destination amount error) :
    ¬Allowed tables source destination amount := by
  intro allowed
  cases forbidden with
  | notPositive notPositive => exact absurd allowed.positive (Int.not_lt.mpr notPositive)
  | same _ same => exact allowed.distinct same
  | sourceUnknown _ _ unknown => exact unknown allowed.sourceKnown
  | destinationUnknown _ _ _ unknown => exact unknown allowed.destinationKnown

theorem checkReference_eq_error {table constraint : String} {id : Int}
    (unknown : ¬Known tables id) :
    checkReference tables table constraint id = .error (.referenceViolated table constraint) := by
  cases checked : checkReference tables table constraint id with
  | ok => exact absurd (checkReference_eq_ok_iff.mp checked) unknown
  | error error =>
      unfold checkReference at checked
      split at checked
      · cases checked
      · exact checked.symm

/-- A transfer under a free number passes if the schema allows it, and else is forbidden. -/
theorem checkTransfer_cases {transfer : Transfer}
    (isFree : ∀ other ∈ tables.transfers, other.id ≠ transfer.id) :
    (checkTransfer tables transfer = .ok () ∧
        Allowed tables transfer.fromAccountId transfer.toAccountId transfer.amount) ∨
      ∃ error, checkTransfer tables transfer = .error error ∧
        Forbidden tables transfer.fromAccountId transfer.toAccountId transfer.amount
          (.ofSql (.server error)) := by
  have noKey : ¬tables.transfers.any (·.id == transfer.id) = true := by
    simpa [List.any_eq_true] using isFree
  unfold checkTransfer
  by_cases notPositive : transfer.amount ≤ 0
  · rw [if_pos notPositive]
    exact .inr ⟨_, rfl, .notPositive notPositive⟩
  have positive := Int.not_le.mp notPositive
  by_cases same : transfer.fromAccountId = transfer.toAccountId
  · rw [if_neg notPositive, if_pos same]
    exact .inr ⟨_, rfl, .same positive same⟩
  rw [if_neg notPositive, if_neg same, if_neg noKey]
  by_cases sourceKnown : Known tables transfer.fromAccountId
  · rw [checkReference_eq_ok_iff.mpr sourceKnown]
    by_cases destinationKnown : Known tables transfer.toAccountId
    · rw [checkReference_eq_ok_iff.mpr destinationKnown]
      exact .inl ⟨rfl, positive, same, sourceKnown, destinationKnown⟩
    · rw [checkReference_eq_error destinationKnown]
      exact .inr ⟨_, rfl, .destinationUnknown positive same sourceKnown destinationKnown⟩
  · rw [checkReference_eq_error sourceKnown]
    exact .inr ⟨_, rfl, .sourceUnknown positive same sourceKnown⟩

/-- A transfer is added under the next number when the schema allows it. -/
theorem ends_insertTransfer (numberable : Numberable tables) (source destination amount : Int) :
    Ends before
      (fun transfer after => Allowed tables source destination amount ∧
        transfer = ⟨tables.lastTransferId + 1, source, destination, amount, now⟩ ∧
        after = { tables with
          transfers := tables.transfers ++ [transfer]
          lastTransferId := tables.lastTransferId + 1 })
      (Forbidden tables source destination amount)
      ((fetch RowReader.transfer (.insertTransfer source destination amount)).runOn
        (serve others now) ⟨tables, .running before⟩) := by
  have numbered : nextNumber "transfers_id_seq" tables.lastTransferId =
      .ok (tables.lastTransferId + 1) := if_pos numberable.transfersLeft
  have isFree : ∀ other ∈ tables.transfers, other.id ≠ tables.lastTransferId + 1 :=
    fun other stored => by have := numberable.transferIds other stored; omega
  let transfer : Transfer := ⟨tables.lastTransferId + 1, source, destination, amount, now⟩
  obtain ⟨check, allowed⟩ | ⟨error, check, forbidden⟩ :=
    @checkTransfer_cases tables transfer isFree
  · have added : execute others now (.insertTransfer source destination amount) tables =
        (.ok ⟨[transfer.row], 1⟩,
          { tables with
            transfers := tables.transfers ++ [transfer]
            lastTransferId := tables.lastTransferId + 1 }) := by
      simp only [execute, insertTransfer, numbered]
      rw [check]
    exact .of_eq (runOn_fetch_row added (RowReader.run_transfer _)) (.completed ⟨allowed, rfl, rfl⟩)
  · have refused : execute others now (.insertTransfer source destination amount) tables =
        (.error error, { tables with lastTransferId := tables.lastTransferId + 1 }) := by
      simp only [execute, insertTransfer, numbered]
      rw [check]
    exact .of_eq (runOn_fetch_error refused) (.brokenOff (.inr rfl) forbidden)

/-- An entry of an account that is stored is added under the next number. -/
theorem runOn_insertEntry {count : Nat} (left : EntriesLeft (count + 1) tables) {accountId : Int}
    (known : Known tables accountId) (amount : Int) :
    (fetch RowReader.entry (.insertEntry accountId amount)).runOn (serve others now)
        ⟨tables, .running before⟩ =
      (.ok (tables.addEntry now accountId amount).1,
        ⟨(tables.addEntry now accountId amount).2, .running before⟩) := by
  have numbered : nextNumber "entries_id_seq" tables.lastEntryId = .ok (tables.lastEntryId + 1) :=
    if_pos (by have := left.isLeft; omega)
  have noKey : ¬tables.entries.any (·.id == tables.lastEntryId + 1) = true := by
    rw [List.any_eq_true]
    rintro ⟨entry, stored, sameId⟩
    have isOld := left.isUsed entry stored
    have isNext : entry.id = tables.lastEntryId + 1 := by simpa using sameId
    omega
  have check : checkEntry tables ⟨tables.lastEntryId + 1, accountId, amount, now⟩ = .ok () := by
    unfold checkEntry
    rw [if_neg noKey]
    exact checkReference_eq_ok_iff.mpr known
  have added : execute others now (.insertEntry accountId amount) tables =
      (.ok ⟨[(tables.addEntry now accountId amount).1.row], 1⟩,
        (tables.addEntry now accountId amount).2) := by
    simp only [execute, insertEntry, numbered, check, Tables.addEntry]
  exact runOn_fetch_row added (RowReader.run_entry _)

/-! ## Balances that are changed -/

/-- An account can take a change of its balance. -/
structure Available (tables : Tables) (id delta : Int) (account : Account) : Prop where
  isStored : tables.account? id = some account
  isActive : account.isDeleted = false
  isFitting : Fits (account.balance + delta)

theorem Available.active {id delta : Int} {account : Account}
    (available : Available tables id delta account) : tables.activeAccount id = .ok account :=
  Tables.activeAccount_eq_ok_iff.mpr ⟨available.isStored, available.isActive⟩

@[simp] theorem credit_id (id delta : Int) (row : Account) : (credit id delta row).id = row.id := by
  unfold credit
  split <;> rfl

theorem credit_of_ne {id delta : Int} {row : Account} (different : row.id ≠ id) :
    credit id delta row = row := by
  simp [credit, different]

theorem credit_of_isActive {id delta : Int} {row : Account} (isIt : row.id = id)
    (isActive : row.isDeleted = false) :
    credit id delta row = { row with balance := row.balance + delta } := by
  simp [credit, isIt, isActive]

/-- A change of one balance leaves the other accounts to be found as before. -/
theorem account?_credit_of_ne {id delta other : Int} (different : id ≠ other) :
    Tables.account? { tables with accounts := tables.accounts.map (credit id delta) } other =
      tables.account? other := by
  refine (Tables.find?_map_of_key (credit_id id delta) tables.accounts other).trans ?_
  change (tables.account? other).map (credit id delta) = tables.account? other
  cases stored : tables.account? other with
  | none => rfl
  | some row =>
      have isOther := (Tables.account?_some stored).2
      exact congrArg some (credit_of_ne fun isIt => different (isIt.symm.trans isOther))

/-- Whether an account can take a change depends on that account only. -/
theorem Available.of_account?_eq {other : Tables} {id delta : Int} {account : Account}
    (available : Available tables id delta account)
    (same : tables.account? id = other.account? id) : Available other id delta account :=
  ⟨same ▸ available.isStored, available.isActive, available.isFitting⟩

/-- Changing two balances one after the other settles both ends of a transfer. -/
theorem map_credit_map_credit (accountIds : (tables.accounts.map (·.id)).Nodup)
    {first second firstDelta secondDelta : Int} {one other : Account} (distinct : first ≠ second)
    (isOne : Available tables first firstDelta one)
    (isOther : Available tables second secondDelta other) :
    (tables.accounts.map (credit first firstDelta)).map (credit second secondDelta) =
      tables.accounts.map (Tables.settle first second (one.balance + firstDelta)
        (other.balance + secondDelta)) := by
  have isIt : ∀ {id row account}, tables.account? id = some account → row ∈ tables.accounts →
      row.id = id → row = account := fun {id row account} found stored sameId =>
    Option.some.inj
      (((find?_eq_some_iff_of_nodup accountIds).mpr ⟨stored, sameId⟩).symm.trans found)
  rw [List.map_map]
  refine List.map_congr_left fun row stored => ?_
  by_cases isFirst : row.id = first
  · obtain rfl := isIt isOne.isStored stored isFirst
    simp only [Function.comp_apply, credit_of_isActive isFirst isOne.isActive, Tables.settle,
      if_pos isFirst]
    exact credit_of_ne fun isSecond => distinct (isFirst.symm.trans isSecond)
  · rw [Function.comp_apply, credit_of_ne isFirst, Tables.settle, if_neg isFirst]
    split
    case isTrue isSecond =>
      obtain rfl := isIt isOther.isStored stored isSecond
      exact credit_of_isActive isSecond isOther.isActive
    case isFalse isNeither => exact credit_of_ne isNeither

/-- The rows that a change of a balance finds are the account, unless it is deleted. -/
theorem rows_found (accountIds : (tables.accounts.map (·.id)).Nodup) (id : Int) :
    (tables.accounts.filter fun row => row.id == id && !row.isDeleted) =
      (tables.account? id).toList.filter fun row => !row.isDeleted := by
  rw [Tables.account?, ← filter_eq_toList_of_nodup accountIds id, List.filter_filter]
  exact List.filter_congr fun row _ => Bool.and_comm _ _

/-- The balance of an account was changed, and this is the account since. -/
def Credited (tables : Tables) (id delta : Int) (account : Account) (after : Tables) : Prop :=
  ∃ row, Available tables id delta row ∧
    account = { row with balance := row.balance + delta } ∧
    after = { tables with accounts := tables.accounts.map (credit id delta) }

theorem execute_addBalance {found : List Account} {id delta : Int}
    (isFound : (tables.accounts.filter fun row => row.id == id && !row.isDeleted) = found)
    (isFitting : ∀ row ∈ found, Fits (row.balance + delta)) :
    execute others now (.addBalance id delta) tables =
      (.ok ⟨found.map fun row => (credit id delta row).row, found.length⟩,
        { tables with accounts := tables.accounts.map (credit id delta) }) := by
  simp only [execute, addBalance, isFound]
  rw [if_pos (by simpa using isFitting)]

/-- Why a balance is not changed. -/
inductive Refused (tables : Tables) (id delta : Int) : StoreError → Prop where
  | unavailable (unavailable : tables.Unavailable id) :
      Refused tables id delta (.accountUnavailable id)
  | overflow {row : Account} (active : tables.activeAccount id = .ok row)
      (misfits : ¬Fits (row.balance + delta)) :
      Refused tables id delta (.database (.server .outOfRange))

theorem Refused.not_available {id delta : Int} {error : StoreError}
    (refused : Refused tables id delta error) (account : Account) :
    ¬Available tables id delta account := by
  intro available
  cases refused with
  | unavailable unavailable => exact unavailable.not_active available.active
  | overflow active misfits =>
      obtain rfl := Except.ok.inj (available.active.symm.trans active)
      exact misfits available.isFitting

theorem Refused.of_account?_eq {other : Tables} {id delta : Int} {error : StoreError}
    (refused : Refused tables id delta error)
    (same : tables.account? id = other.account? id) : Refused other id delta error := by
  cases refused with
  | unavailable unavailable =>
      refine .unavailable fun account stored => unavailable account ?_
      rw [same]
      exact stored
  | overflow active misfits =>
      obtain ⟨isStored, isActive⟩ := Tables.activeAccount_eq_ok_iff.mp active
      exact .overflow (Tables.activeAccount_eq_ok_iff.mpr ⟨same ▸ isStored, isActive⟩) misfits

/-- The balance of an account is changed when the account can take the change. -/
theorem ends_addBalance (accountIds : (tables.accounts.map (·.id)).Nodup) (id delta : Int) :
    Ends before (Credited tables id delta) (Refused tables id delta)
      ((Sql.addBalance id delta).runOn (serve others now) ⟨tables, .running before⟩) := by
  have isFound := rows_found accountIds id
  unfold Sql.addBalance
  rw [runOn_bind]
  cases active : tables.activeAccount id with
  | error error =>
      obtain ⟨unavailable, -⟩ := Tables.activeAccount_eq_error_iff.mp active
      have noRow : (tables.accounts.filter fun row => row.id == id && !row.isDeleted) = [] := by
        rw [isFound, List.filter_eq_nil_iff]
        intro row stored
        simp [unavailable row (Option.mem_toList.mp stored)]
      rw [runOn_fetch?_none (execute_addBalance noRow (by simp))]
      exact .brokenOff (.inl rfl) (.unavailable unavailable)
  | ok row =>
      obtain ⟨stored, isActive⟩ := Tables.activeAccount_eq_ok_iff.mp active
      have isRow : (tables.accounts.filter fun row => row.id == id && !row.isDeleted) = [row] := by
        simp [isFound, stored, isActive]
      by_cases isFitting : Fits (row.balance + delta)
      · have executed : execute others now (.addBalance id delta) tables = _ :=
          execute_addBalance isRow (by simpa using isFitting)
        rw [runOn_fetch?_row executed (RowReader.run_account _),
          credit_of_isActive (Tables.account?_some stored).2 isActive]
        exact .completed ⟨row, ⟨stored, isActive, isFitting⟩, rfl, rfl⟩
      · have refused : execute others now (.addBalance id delta) tables =
            (.error .outOfRange, tables) := by
          simp [execute, addBalance, isRow, isFitting]
        rw [runOn_fetch?_error refused]
        exact .brokenOff (.inr rfl) (.overflow active isFitting)

/-! ## A whole transfer -/

/-- The tables with the balances of two accounts replaced. -/
def settled (first second balance otherBalance : Int) (tables : Tables) : Tables :=
  { tables with accounts := tables.accounts.map (Tables.settle first second balance otherBalance) }

/-- It is the same which of the two accounts is named first. -/
theorem settled_comm {first second : Int} (distinct : first ≠ second)
    (balance otherBalance : Int) (tables : Tables) :
    settled first second balance otherBalance tables =
      settled second first otherBalance balance tables := by
  unfold settled
  congr 1
  refine List.map_congr_left fun row _ => ?_
  by_cases isFirst : row.id = first
  · simp [Tables.settle, isFirst, distinct]
  · simp [Tables.settle, isFirst]

/-- Why one of two balances is not changed, the second after the first. -/
def RefusedInTurn (tables : Tables) (first firstDelta second secondDelta : Int)
    (error : StoreError) : Prop :=
  Refused tables first firstDelta error ∨
    (∃ one, Available tables first firstDelta one) ∧ Refused tables second secondDelta error

/-- The balances of two accounts are changed one after the other. -/
theorem ends_addBalance_twice (accountIds : (tables.accounts.map (·.id)).Nodup)
    {first second : Int} (distinct : first ≠ second) (firstDelta secondDelta : Int)
    (result : Account → Account → Account × Account) :
    Ends before
      (fun accounts after => ∃ one other, Available tables first firstDelta one ∧
        Available tables second secondDelta other ∧
        accounts = result { one with balance := one.balance + firstDelta }
          { other with balance := other.balance + secondDelta } ∧
        after = settled first second (one.balance + firstDelta) (other.balance + secondDelta)
          tables)
      (RefusedInTurn tables first firstDelta second secondDelta)
      (runOn (serve others now) (do
        let one ← Sql.addBalance first firstDelta
        let other ← Sql.addBalance second secondDelta
        return result one other) ⟨tables, .running before⟩) := by
  refine (ends_addBalance accountIds first firstDelta).bind (fun _ => .inl) ?_
  rintro _ _ ⟨one, isOne, rfl, rfl⟩
  have sameIds : ((tables.accounts.map (credit first firstDelta)).map (·.id)).Nodup := by
    rw [List.map_map]
    simpa only [Function.comp_def, credit_id] using accountIds
  have sameOther := @account?_credit_of_ne tables first firstDelta second distinct
  refine (ends_addBalance sameIds second secondDelta).bind
    (fun _ refused => .inr ⟨⟨one, isOne⟩, refused.of_account?_eq sameOther⟩) ?_
  rintro _ _ ⟨other, isOtherThen, rfl, rfl⟩
  have isOther := isOtherThen.of_account?_eq sameOther
  refine .completed ⟨one, other, isOne, isOther, rfl, ?_⟩
  rw [settled, ← map_credit_map_credit accountIds distinct isOne isOther]

/-- Both ends of a transfer can take their share of it. -/
structure Open (tables : Tables) (source destination amount : Int) (payer payee : Account) :
    Prop where
  payer : Available tables source (-amount) payer
  payee : Available tables destination amount payee

/-- Only the accounts matter. -/
theorem Open.of_accounts_eq {other : Tables} {source destination amount : Int}
    {payer payee : Account} (same : tables.accounts = other.accounts)
    (isOpen : Open tables source destination amount payer payee) :
    Open other source destination amount payer payee := by
  have found : ∀ id, tables.account? id = other.account? id := fun id => by
    unfold Tables.account?
    rw [same]
  exact ⟨⟨found source ▸ isOpen.payer.isStored, isOpen.payer.isActive, isOpen.payer.isFitting⟩,
    ⟨found destination ▸ isOpen.payee.isStored, isOpen.payee.isActive, isOpen.payee.isFitting⟩⟩

/-- The accounts after a transfer, and the tables with their balances. -/
def Settled (tables : Tables) (source destination amount : Int) (accounts : Account × Account)
    (after : Tables) : Prop :=
  ∃ payer payee, Open tables source destination amount payer payee ∧
    accounts = ({ payer with balance := payer.balance + -amount },
      { payee with balance := payee.balance + amount }) ∧
    after = settled source destination (payer.balance + -amount) (payee.balance + amount) tables

/-- What a transfer adds to the balance of one of its ends. -/
def share (source amount id : Int) : Int := if id = source then -amount else amount

/-- Why the balances of a transfer are not changed: the account with the lesser number is looked at
first. -/
def BalancesRefused (tables : Tables) (source destination amount : Int) : StoreError → Prop :=
  RefusedInTurn tables
    (min source destination) (share source amount (min source destination))
    (max source destination) (share source amount (max source destination))

theorem balancesRefused_of_lt {source destination amount : Int} (less : source < destination) :
    BalancesRefused tables source destination amount =
      RefusedInTurn tables source (-amount) destination amount := by
  unfold BalancesRefused share
  rw [min_eq_left less.le, max_eq_right less.le, if_pos rfl, if_neg less.ne']

theorem balancesRefused_of_gt {source destination amount : Int} (greater : destination < source) :
    BalancesRefused tables source destination amount =
      RefusedInTurn tables destination amount source (-amount) := by
  unfold BalancesRefused share
  rw [min_eq_right greater.le, max_eq_left greater.le, if_pos rfl, if_neg greater.ne]

/-- Only the accounts matter. -/
theorem BalancesRefused.of_accounts_eq {other : Tables} {source destination amount : Int}
    {error : StoreError} (same : tables.accounts = other.accounts)
    (refused : BalancesRefused tables source destination amount error) :
    BalancesRefused other source destination amount error := by
  have found : ∀ id, tables.account? id = other.account? id := fun id => by
    unfold Tables.account?
    rw [same]
  rcases refused with first | ⟨⟨one, isOne⟩, second⟩
  · exact .inl (first.of_account?_eq (found _))
  · exact .inr ⟨⟨one, isOne.of_account?_eq (found _)⟩, second.of_account?_eq (found _)⟩

/-- Where a balance is refused, the ends of the transfer are not both open. -/
theorem BalancesRefused.not_open {source destination amount : Int} {error : StoreError}
    (refused : BalancesRefused tables source destination amount error)
    (distinct : source ≠ destination) (payer payee : Account) :
    ¬Open tables source destination amount payer payee := by
  intro isOpen
  rcases lt_or_gt_of_ne distinct with less | greater
  · rw [balancesRefused_of_lt less] at refused
    rcases refused with first | ⟨-, second⟩
    · exact first.not_available payer isOpen.payer
    · exact second.not_available payee isOpen.payee
  · rw [balancesRefused_of_gt greater] at refused
    rcases refused with first | ⟨-, second⟩
    · exact first.not_available payee isOpen.payee
    · exact second.not_available payer isOpen.payer

/-- Both balances of a transfer are changed, whichever account comes first. -/
theorem ends_moveBalances (accountIds : (tables.accounts.map (·.id)).Nodup)
    {source destination : Int} (distinct : source ≠ destination) (amount : Int) :
    Ends before (Settled tables source destination amount)
      (BalancesRefused tables source destination amount)
      ((Sql.moveBalances source destination amount).runOn (serve others now)
        ⟨tables, .running before⟩) := by
  unfold Sql.moveBalances
  rcases lt_or_gt_of_ne distinct with less | greater
  · rw [if_pos less, balancesRefused_of_lt less]
    refine (ends_addBalance_twice accountIds distinct (-amount) amount Prod.mk).mono ?_ ?_
    · rintro _ _ ⟨payer, payee, isPayer, isPayee, rfl, rfl⟩
      exact ⟨payer, payee, ⟨isPayer, isPayee⟩, rfl, rfl⟩
    · exact fun _ refused => refused
  · rw [if_neg greater.not_gt, balancesRefused_of_gt greater]
    refine (ends_addBalance_twice accountIds distinct.symm amount (-amount)
      fun toAccount fromAccount => (fromAccount, toAccount)).mono ?_ ?_
    · rintro _ _ ⟨payee, payer, isPayee, isPayer, rfl, rfl⟩
      exact ⟨payer, payee, ⟨isPayer, isPayee⟩, rfl, settled_comm distinct.symm _ _ tables⟩
    · exact fun _ refused => refused

/-- What a database needs for a transfer is what the store in memory needs. -/
theorem transferable_iff {source destination amount : Int} {payer payee : Account} :
    tables.Transferable source destination amount payer payee ↔
      Allowed tables source destination amount ∧
        Open tables source destination amount payer payee := by
  constructor
  · intro transferable
    exact ⟨⟨transferable.positive, transferable.distinct, ⟨_, transferable.payerStored⟩,
        ⟨_, transferable.payeeStored⟩⟩,
      ⟨transferable.payerStored, transferable.payerActive,
        Int.sub_eq_add_neg ▸ transferable.debitFits⟩,
      ⟨transferable.payeeStored, transferable.payeeActive, transferable.creditFits⟩⟩
  · rintro ⟨allowed, isPayer, isPayee⟩
    exact ⟨allowed.distinct, allowed.positive, isPayer.isStored, isPayer.isActive, isPayee.isStored,
      isPayee.isActive, Int.sub_eq_add_neg ▸ isPayer.isFitting, isPayee.isFitting⟩

/-- A transfer was carried out, and this is what was written. -/
def Moved (now : Instant) (tables : Tables) (source destination amount : Int) (movement : Movement)
    (after : Tables) : Prop :=
  ∃ payer payee, tables.Transferable source destination amount payer payee ∧
    movement = tables.movement now source destination amount payer payee ∧
    after = tables.moved now source destination amount payer payee

/-- Why a transfer fails: the schema forbids it, or else a balance is not changed. -/
inductive Declined (tables : Tables) (source destination amount : Int) (error : StoreError) :
    Prop where
  | forbidden (forbidden : Forbidden tables source destination amount error)
  | refused (allowed : Allowed tables source destination amount)
      (refused : BalancesRefused tables source destination amount error)

theorem Declined.not_transferable {source destination amount : Int} {error : StoreError}
    (declined : Declined tables source destination amount error) (payer payee : Account) :
    ¬tables.Transferable source destination amount payer payee := by
  intro transferable
  obtain ⟨allowed, isOpen⟩ := transferable_iff.mp transferable
  cases declined with
  | forbidden forbidden => exact forbidden.not_allowed allowed
  | refused _ refused => exact refused.not_open allowed.distinct payer payee isOpen

/-- What is written for a transfer between the begin and the commit. -/
theorem ends_book (numberable : Numberable tables) (source destination amount : Int) :
    Ends before (Moved now tables source destination amount)
      (Declined tables source destination amount)
      ((Sql.book source destination amount).runOn (serve others now)
        ⟨tables, .running before⟩) := by
  unfold Sql.book
  refine (ends_insertTransfer numberable source destination amount).bind (fun _ => .forbidden) ?_
  rintro _ numbered ⟨allowed, rfl, isNumbered⟩
  -- The transfer that was added has no part in what follows.
  have left : EntriesLeft 2 numbered := isNumbered ▸ ⟨numberable.entriesLeft.isUsed,
    numberable.entriesLeft.isLeft⟩
  have sourceKnown : Known numbered source := isNumbered ▸ allowed.sourceKnown
  have destinationKnown : Known numbered destination := isNumbered ▸ allowed.destinationKnown
  have accountIds : (numbered.accounts.map (·.id)).Nodup := isNumbered ▸ numberable.accountIds
  rw [runOn_bind, runOn_insertEntry left sourceKnown]
  dsimp only
  rw [runOn_bind, runOn_insertEntry (left.addEntry source (-amount)) destinationKnown]
  dsimp only
  refine Ends.bind (ends_moveBalances ?_ allowed.distinct amount) ?_ ?_
  · exact accountIds
  · intro _ refused
    subst isNumbered
    exact .refused allowed (refused.of_accounts_eq (by rfl))
  · rintro _ _ ⟨payer, payee, isOpen, rfl, rfl⟩
    subst isNumbered
    refine .completed ⟨payer, payee, transferable_iff.mpr ⟨allowed, isOpen.of_accounts_eq (by rfl)⟩,
      ?_, ?_⟩
    · simp only [Tables.movement, Tables.addEntry, Int.sub_eq_add_neg, Int.add_assoc]
      rfl
    · simp only [Tables.moved, settled, Tables.addEntry, Int.sub_eq_add_neg, Int.add_assoc,
        List.append_assoc]
      rfl

end Database

end Countinghouse
