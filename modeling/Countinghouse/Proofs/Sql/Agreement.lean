import Countinghouse.Proofs.Sql.Database
import Countinghouse.Proofs.Store.Effect

/-!
# The store on a server and the store in memory agree on transfers

The two stores go about a transfer in opposite ways: one checks everything and then writes, the
other writes and is stopped by the schema, by a row that it does not find or by a sum that does not
fit. What decides is the same for both, `Tables.Transferable`, and so are the rows that they leave
when they started from the same rows. Numbers and times are each store's own.
-/

namespace Countinghouse

/-! ## What can be compared -/

/-- The same transfer, but for its number and its time. -/
structure Transfer.Alike (transfer other : Transfer) : Prop where
  fromAccountId : transfer.fromAccountId = other.fromAccountId
  toAccountId : transfer.toAccountId = other.toAccountId
  amount : transfer.amount = other.amount

/-- The same entry, but for its number and its time. -/
structure Entry.Alike (entry other : Entry) : Prop where
  accountId : entry.accountId = other.accountId
  amount : entry.amount = other.amount

/-- The same movement, but for what is numbered and dated anew. -/
structure Movement.Alike (movement other : Movement) : Prop where
  transfer : movement.transfer.Alike other.transfer
  fromEntry : movement.fromEntry.Alike other.fromEntry
  toEntry : movement.toEntry.Alike other.toEntry
  fromAccount : movement.fromAccount = other.fromAccount
  toAccount : movement.toAccount = other.toAccount

namespace Tables

/-- The same rows, in the same order. The counters may differ. -/
structure SameRows (tables other : Tables) : Prop where
  users : tables.users = other.users
  accounts : tables.accounts = other.accounts
  transfers : tables.transfers = other.transfers
  entries : tables.entries = other.entries
  sessions : tables.sessions = other.sessions

/-- The rows of a movement were added, and no rows but those of the accounts were changed. -/
structure Adds (movement : Movement) (before after : Tables) : Prop where
  users : after.users = before.users
  transfers : after.transfers = before.transfers ++ [movement.transfer]
  entries : after.entries = before.entries ++ [movement.fromEntry, movement.toEntry]
  sessions : after.sessions = before.sessions

variable {tables other : Tables} {source destination amount : Int} {payer payee : Account}

/-- Whether a transfer can be carried out depends on the accounts only. -/
theorem Transferable.of_accounts_eq
    (transferable : tables.Transferable source destination amount payer payee)
    (same : tables.accounts = other.accounts) :
    other.Transferable source destination amount payer payee := by
  have found : ∀ id, tables.account? id = other.account? id := fun id => by
    unfold account?
    rw [same]
  exact { transferable with
    payerStored := found source ▸ transferable.payerStored
    payeeStored := found destination ▸ transferable.payeeStored }

theorem adds_moved (now : Instant) :
    Adds (tables.movement now source destination amount payer payee) tables
      (tables.moved now source destination amount payer payee) := ⟨rfl, rfl, rfl, rfl⟩

theorem movement_alike (now otherNow : Instant) :
    (tables.movement now source destination amount payer payee).Alike
      (other.movement otherNow source destination amount payer payee) :=
  ⟨⟨rfl, rfl, rfl⟩, ⟨rfl, rfl⟩, ⟨rfl, rfl⟩, rfl, rfl⟩

end Tables

namespace Sql

open Tables

variable {others : Statement → Tables → Except ServerError SqlOutcome × Tables}
  {stored held : Tables}

/-- A transfer on a database that no transaction is open on is carried out when it has everything
it needs. Otherwise it fails and leaves the rows as they were. -/
theorem backend_transferFunds_cases (serverNow : Instant)
    (numberable : Database.Numberable stored) (source destination amount : Int) :
    (∃ payer payee, stored.Transferable source destination amount payer payee ∧
      backend (Database.serve others serverNow) (.transferFunds source destination amount)
          ⟨stored, .none⟩ =
        (.ok (stored.movement serverNow source destination amount payer payee),
          ⟨stored.moved serverNow source destination amount payer payee, .none⟩)) ∨
    ∃ error after, (∀ payer payee, ¬stored.Transferable source destination amount payer payee) ∧
      backend (Database.serve others serverNow) (.transferFunds source destination amount)
          ⟨stored, .none⟩ = (.error error, ⟨Database.undo stored after, .none⟩) := by
  have ends : Database.Ends stored _ _ ((book source destination amount).runOn
      (Database.serve others serverNow) ⟨stored, .running stored⟩) :=
    Database.ends_book numberable source destination amount
  rcases Database.runOn_transaction ends with
    ⟨_, _, ⟨payer, payee, transferable, rfl, rfl⟩, isResult⟩ | ⟨error, after, declined, isResult⟩
  · exact .inl ⟨payer, payee, transferable, isResult⟩
  · exact .inr ⟨error, after, declined.not_transferable, isResult⟩

/-- A transfer on a database and a transfer in memory, both alone and on the same rows, either
both succeed, with the same accounts after it and the same transfer and entries added, or both
fail, and then all rows are as before. -/
theorem backends_agree (serverNow now : Instant) (numberable : Database.Numberable stored)
    (same : stored.SameRows held) (source destination amount : Int) :
    (∃ movement other after afterHeld,
      backend (Database.serve others serverNow) (.transferFunds source destination amount)
          ⟨stored, .none⟩ = (.ok movement, ⟨after, .none⟩) ∧
        Tables.perform now (.transferFunds source destination amount) held =
          (.ok other, afterHeld) ∧
        Movement.Alike movement other ∧ after.accounts = afterHeld.accounts ∧
        stored.Adds movement after ∧ held.Adds other afterHeld) ∨
    ∃ error otherError after,
      backend (Database.serve others serverNow) (.transferFunds source destination amount)
          ⟨stored, .none⟩ = (.error error, ⟨after, .none⟩) ∧
        Tables.perform now (.transferFunds source destination amount) held =
          (.error otherError, held) ∧ stored.SameRows after := by
  rcases backend_transferFunds_cases serverNow numberable source destination amount with
    ⟨payer, payee, transferable, isResult⟩ | ⟨error, after, notTransferable, isResult⟩
  · have transferableHeld := transferable.of_accounts_eq same.accounts
    refine .inl ⟨_, _, _, _, isResult, transferFunds_eq now transferableHeld,
      movement_alike serverNow now, ?_, adds_moved serverNow, adds_moved now⟩
    rw [accounts_moved, accounts_moved, same.accounts]
  · rcases transferFunds_cases now held source destination amount with
      ⟨otherError, failed⟩ | ⟨payer, payee, transferable, -⟩
    · exact .inr ⟨error, otherError, _, isResult, failed, ⟨rfl, rfl, rfl, rfl, rfl⟩⟩
    · exact absurd (transferable.of_accounts_eq same.accounts.symm) (notTransferable payer payee)

/-- Two accounts, on a server that has numbered rows before and in a memory that has not. -/
def twoAccounts (lastTransferId lastEntryId : Int) : Tables :=
  { Tables.empty with
    accounts := [⟨1, "walter", 100, .usd, false, .ofSeconds 60⟩,
      ⟨2, "jesse", 50, .usd, false, .ofSeconds 90⟩]
    lastAccountId := 2
    lastTransferId
    lastEntryId }

/-- The account with the greater number pays. -/
theorem backends_agree_on_twoAccounts :
    ∃ movement after,
      backend (Database.serve (fun _ tables => (.error .aborted, tables)) (.ofSeconds 120))
          (.transferFunds 2 1 30) ⟨twoAccounts 7 20, .none⟩ = (.ok movement, ⟨after, .none⟩) ∧
        after.accounts.map (·.balance) = [130, 20] ∧ movement.fromAccount.balance = 20 ∧
        (twoAccounts 7 20).Adds movement after := by
  have numberable : Database.Numberable (twoAccounts 7 20) :=
    ⟨by decide, by simp [twoAccounts, Tables.empty], by decide,
      ⟨by simp [twoAccounts, Tables.empty], by decide⟩⟩
  have same : (twoAccounts 7 20).SameRows (twoAccounts 0 0) := ⟨rfl, rfl, rfl, rfl, rfl⟩
  rcases backends_agree (.ofSeconds 120) (.ofSeconds 150) numberable same 2 1 30 with
    ⟨movement, other, after, afterHeld, isResult, isHeld, alike, sameAccounts, adds, -⟩ |
    ⟨error, otherError, after, -, isHeld, -⟩
  · refine ⟨movement, after, isResult, ?_, ?_, adds⟩
    · have isAfter : _ = afterHeld := congrArg Prod.snd isHeld
      rw [sameAccounts, ← isAfter]
      decide
    · have isOther : _ = Except.ok other := congrArg Prod.fst isHeld
      have isBalance := congrArg (·.toOption.map (·.fromAccount.balance)) isOther
      rw [alike.fromAccount]
      exact (Option.some.inj isBalance).symm
  · cases congrArg (·.1.isOk) isHeld

end Sql

end Countinghouse
