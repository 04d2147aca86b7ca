import Countinghouse.Proofs.Store.Constraints
import Countinghouse.Proofs.Store.Keeping

/-!
# One owner's share of the tables

Of accounts and transfers an owner has a share: the own accounts, and the transfers that touch them.
`Tables.SameShare` relates two states of the tables in which one owner has the same share, whatever
else is stored in them. As rows are listed in the order of their numbers, what the share is decides
how its rows are listed, and what is found in it by number.
-/

namespace Countinghouse

/-- Rows in the order of their numbers are listed alike when the same rows are to be listed. -/
theorem filter_eq_filter_of_pairwise {Row : Type} {key : Row → Int} {rows others : List Row}
    (ascending : rows.Pairwise (key · < key ·)) (othersAscending : others.Pairwise (key · < key ·))
    {isListed : Row → Bool} (same : ∀ row, isListed row = true → (row ∈ rows ↔ row ∈ others)) :
    rows.filter isListed = others.filter isListed := by
  have asymmetric : Std.Antisymm fun first second : Row => key first < key second :=
    ⟨fun _ _ less greater => absurd greater (Int.lt_asymm less)⟩
  have irreflexive : Std.Irrefl fun first second : Row => key first < key second :=
    ⟨fun row => Int.lt_irrefl (key row)⟩
  refine (ascending.filter isListed).eq_of_mem_iff (othersAscending.filter isListed) fun row => ?_
  rw [List.mem_filter, List.mem_filter]
  exact and_congr_left (same row)

namespace Tables

variable {tables other : Tables} {owner : String}

/-- An owner holds the account under an identifier. -/
def Holds (tables : Tables) (owner : String) (id : Int) : Prop :=
  ∃ account, tables.account? id = some account ∧ account.owner = owner

/-- Accounts stay with their owners. -/
theorem Holds.follow {id : Int} (holds : tables.Holds owner id) (calls : List TimedCall) :
    (tables.follow calls).Holds owner id := by
  induction calls generalizing tables with
  | nil => exact holds
  | cons timed rest inductionHypothesis =>
      obtain ⟨account, found, owns⟩ := holds
      obtain ⟨changed, foundAfter, change⟩ := (tables.next_effect timed).account_change found
      exact inductionHypothesis ⟨changed, foundAfter, change.same.owner.trans owns⟩

/-- An owner has the same accounts in both states of the tables, and the same transfers touch
them. -/
structure SameShare (owner : String) (tables other : Tables) : Prop where
  accounts (account : Account) : account.owner = owner →
    (account ∈ tables.accounts ↔ account ∈ other.accounts)
  transfers (account : Account) : account ∈ tables.accounts → account.owner = owner →
    ∀ transfer : Transfer, transfer.touches account.id →
      (transfer ∈ tables.transfers ↔ transfer ∈ other.transfers)

namespace SameShare

theorem symm (same : SameShare owner tables other) : SameShare owner other tables where
  accounts account owns := (same.accounts account owns).symm
  transfers account stored owns transfer touches :=
    (same.transfers account ((same.accounts account owns).mpr stored) owns transfer touches).symm

/-- The same accounts of an owner are listed, whether deleted ones are asked for or others. -/
theorem filter_accounts (same : SameShare owner tables other) (numbered : tables.Numbered)
    (otherNumbered : other.Numbered) (isAsked : Account → Bool) :
    (tables.accounts.filter fun account => account.owner == owner && isAsked account) =
      other.accounts.filter fun account => account.owner == owner && isAsked account := by
  refine filter_eq_filter_of_pairwise numbered.pairwise_accounts otherNumbered.pairwise_accounts ?_
  intro account isListed
  exact same.accounts account (by simpa using (Bool.and_eq_true_iff.mp isListed).1)

/-- An account of the owner is found in both under its identifier. -/
theorem account? (same : SameShare owner tables other) (numbered : tables.Numbered)
    (otherNumbered : other.Numbered) {id : Int} {account : Account} (owns : account.owner = owner)
    (found : tables.account? id = some account) : other.account? id = some account := by
  obtain ⟨stored, isNumbered⟩ := numbered.account?_eq_some_iff.mp found
  exact otherNumbered.account?_eq_some_iff.mpr ⟨(same.accounts account owns).mp stored, isNumbered⟩

theorem holds (same : SameShare owner tables other) (numbered : tables.Numbered)
    (otherNumbered : other.Numbered) {id : Int} (holds : tables.Holds owner id) :
    other.Holds owner id := by
  obtain ⟨account, found, owns⟩ := holds
  exact ⟨account, same.account? numbered otherNumbered owns found, owns⟩

/-- What touches an account of the owner is stored in both or in none. -/
theorem mem_transfers (same : SameShare owner tables other) (numbered : tables.Numbered) {id : Int}
    (holds : tables.Holds owner id) {transfer : Transfer} (touches : transfer.touches id) :
    transfer ∈ tables.transfers ↔ transfer ∈ other.transfers := by
  obtain ⟨account, found, owns⟩ := holds
  obtain ⟨stored, rfl⟩ := numbered.account?_eq_some_iff.mp found
  exact same.transfers account stored owns transfer touches

/-- The history of an account of the owner is the same on every page. -/
theorem listTransfers (same : SameShare owner tables other) (numbered : tables.Numbered)
    (otherNumbered : other.Numbered) {id : Int} (holds : tables.Holds owner id)
    (limit offset : Int) :
    tables.listTransfers id limit offset = other.listTransfers id limit offset := by
  have sameRows : tables.transfers.filter (·.touches id) = other.transfers.filter (·.touches id) :=
    filter_eq_filter_of_pairwise numbered.pairwise_transfers otherNumbered.pairwise_transfers
      fun transfer touches => same.mem_transfers numbered holds touches
  unfold Tables.listTransfers transfersTouching
  rw [List.filter_reverse, List.filter_reverse, sameRows]

/-- A transfer that touches an account of the owner is found in both under its identifier. -/
theorem transfer? (same : SameShare owner tables other) (numbered : tables.Numbered)
    (otherNumbered : other.Numbered) {accountId : Int} (holds : tables.Holds owner accountId)
    {id : Int} {transfer : Transfer} (touches : transfer.touches accountId)
    (found : tables.transfer? id = some transfer) : other.transfer? id = some transfer := by
  obtain ⟨stored, isNumbered⟩ := numbered.transfer?_eq_some_iff.mp found
  exact otherNumbered.transfer?_eq_some_iff.mpr
    ⟨(same.mem_transfers numbered holds touches).mp stored, isNumbered⟩

end SameShare

end Tables

end Countinghouse
