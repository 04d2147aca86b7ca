import Countinghouse.Proofs.Store.Effect
import Mathlib

/-!
# How rows are numbered

Accounts, transfers and entries are numbered by counters of their own. `Tables.Numbered`
says that the rows of each table bear the numbers from one to the counter, in the order
they were added, so that no number is skipped, given out twice or given to another row.
Every call keeps this, and with it a row is found under its number and nowhere else.
-/

namespace Countinghouse

/-- The numbers from one to a count. -/
def numbers (count : Nat) : List Int := (List.range count).map fun (index : Nat) => (index : Int) + 1

theorem numbers_succ (count : Nat) : numbers (count + 1) = numbers count ++ [(count : Int) + 1] := by
  simp [numbers, List.range_succ]

theorem mem_numbers_iff {count : Nat} {number : Int} :
    number ∈ numbers count ↔ 1 ≤ number ∧ number ≤ count := by
  unfold numbers
  rw [List.mem_map]
  constructor
  · rintro ⟨index, below, rfl⟩
    have := List.mem_range.mp below
    omega
  · rintro ⟨least, most⟩
    exact ⟨(number - 1).toNat, List.mem_range.mpr (by omega), by omega⟩

theorem nodup_numbers (count : Nat) : (numbers count).Nodup := by
  refine List.Nodup.map (fun left right equal => ?_) List.nodup_range
  have : (left : Int) + 1 = right + 1 := equal
  omega

/-- Where rows bear different keys, a row is found by its own key and by no other. -/
theorem find?_eq_some_iff_of_nodup {Row Key : Type} [BEq Key] [LawfulBEq Key] {rows : List Row}
    {key : Row → Key} (distinct : (rows.map key).Nodup) {wanted : Key} {row : Row} :
    rows.find? (fun row => key row == wanted) = some row ↔ row ∈ rows ∧ key row = wanted := by
  constructor
  · intro found
    exact ⟨List.mem_of_find?_eq_some found, by simpa using List.find?_some found⟩
  · rintro ⟨member, rfl⟩
    cases found : rows.find? (fun other => key other == key row) with
    | none => exact absurd (beq_self_eq_true (key row)) (List.find?_eq_none.mp found row member)
    | some other =>
        have sameKey : key other = key row := by simpa using List.find?_some found
        have same : other = row :=
          List.inj_on_of_nodup_map distinct (List.mem_of_find?_eq_some found) member sameKey
        rw [same]

/-- Where rows bear different keys, the rows with a key are the one that is found by it. -/
theorem filter_eq_toList_of_nodup {Row Key : Type} [BEq Key] [LawfulBEq Key] {rows : List Row}
    {key : Row → Key} (distinct : (rows.map key).Nodup) (wanted : Key) :
    rows.filter (key · == wanted) = (rows.find? (key · == wanted)).toList := by
  induction rows with
  | nil => rfl
  | cons row rest inductionHypothesis =>
      obtain ⟨isFirst, distinct⟩ := List.nodup_cons.mp distinct
      by_cases isWanted : key row = wanted
      · have noOther : rest.filter (key · == wanted) = [] := by
          refine List.filter_eq_nil_iff.mpr fun other member sameKey => isFirst ?_
          rw [isWanted, ← beq_iff_eq.mp sameKey]
          exact List.mem_map_of_mem member
        simp [isWanted, noOther]
      · simp [isWanted, inductionHypothesis distinct]

namespace Tables

/-- The rows of every numbered table bear the numbers from one to its counter, in order. -/
structure Numbered (tables : Tables) : Prop where
  accountIds : tables.accounts.map (·.id) = numbers tables.accounts.length
  lastAccountId : tables.lastAccountId = tables.accounts.length
  transferIds : tables.transfers.map (·.id) = numbers tables.transfers.length
  lastTransferId : tables.lastTransferId = tables.transfers.length
  entryIds : tables.entries.map (·.id) = numbers tables.entries.length
  lastEntryId : tables.lastEntryId = tables.entries.length

theorem numbered_empty : Numbered empty := ⟨rfl, rfl, rfl, rfl, rfl, rfl⟩

/-- A row that bears the next number extends a numbered table. -/
theorem map_append_eq_numbers {Row : Type} {rows : List Row} {key : Row → Int}
    (numbered : rows.map key = numbers rows.length) (row : Row)
    (isNext : key row = (rows.length : Int) + 1) :
    (rows ++ [row]).map key = numbers (rows ++ [row]).length := by
  rw [List.map_append, List.length_append, List.length_singleton, numbers_succ, numbered,
    List.map_singleton, isNext]

@[simp] theorem map_id_markDeleted (tables : Tables) (id : Int) (isDeleted : Bool) :
    (tables.markDeleted id isDeleted).accounts.map (·.id) = tables.accounts.map (·.id) := by
  rw [accounts_markDeleted, List.map_map]
  exact List.map_congr_left fun row _ => (mark_same id isDeleted row).id

@[simp] theorem map_id_moved (tables : Tables) (now : Instant)
    (source destination amount : Int) (payer payee : Account) :
    (tables.moved now source destination amount payer payee).accounts.map (·.id) =
      tables.accounts.map (·.id) := by
  rw [accounts_moved, List.map_map]
  exact List.map_congr_left fun row _ => (settle_same _ _ _ _ row).id

@[simp] theorem length_markDeleted (tables : Tables) (id : Int) (isDeleted : Bool) :
    (tables.markDeleted id isDeleted).accounts.length = tables.accounts.length :=
  List.length_map _

@[simp] theorem length_moved (tables : Tables) (now : Instant)
    (source destination amount : Int) (payer payee : Account) :
    (tables.moved now source destination amount payer payee).accounts.length =
      tables.accounts.length :=
  List.length_map _

theorem Numbered.markDeleted {tables : Tables} (numbered : tables.Numbered) (id : Int)
    (isDeleted : Bool) : (tables.markDeleted id isDeleted).Numbered where
  accountIds := by rw [map_id_markDeleted, length_markDeleted, numbered.accountIds]
  lastAccountId := by rw [length_markDeleted]; exact numbered.lastAccountId
  transferIds := numbered.transferIds
  lastTransferId := numbered.lastTransferId
  entryIds := numbered.entryIds
  lastEntryId := numbered.lastEntryId

theorem Numbered.moved {tables : Tables} (numbered : tables.Numbered) (now : Instant)
    (source destination amount : Int) (payer payee : Account) :
    (tables.moved now source destination amount payer payee).Numbered where
  accountIds := by rw [map_id_moved, length_moved, numbered.accountIds]
  lastAccountId := by rw [length_moved]; exact numbered.lastAccountId
  transferIds := map_append_eq_numbers numbered.transferIds _
    (by simp [numbered.lastTransferId])
  lastTransferId := by
    have := numbered.lastTransferId
    simp only [Tables.moved, List.length_append, List.length_singleton]
    omega
  entryIds := by
    have counted := numbered.lastEntryId
    have debited := map_append_eq_numbers numbered.entryIds
      ⟨tables.lastEntryId + 1, source, -amount, now⟩ (by simp [counted])
    have credited := map_append_eq_numbers debited
      ⟨tables.lastEntryId + 2, destination, amount, now⟩
      (by simp only [List.length_append, List.length_singleton]; omega)
    simpa [Tables.moved] using credited
  lastEntryId := by
    have := numbered.lastEntryId
    simp only [Tables.moved, List.length_append, List.length_cons, List.length_nil]
    omega

/-- Every call keeps the numbering. -/
theorem Numbered.step {now : Instant} {before after : Tables} {call : StoreCall}
    {reply : Except StoreError call.Reply} (numbered : before.Numbered)
    (effect : Effect now before call reply after) : after.Numbered := by
  cases effect with
  | nothing | registered | updated | admitted | blocked => exact ⟨numbered.accountIds,
      numbered.lastAccountId, numbered.transferIds, numbered.lastTransferId, numbered.entryIds,
      numbered.lastEntryId⟩
  | opened =>
      have counted := numbered.lastAccountId
      exact { numbered with
        accountIds := map_append_eq_numbers numbered.accountIds _ (by simp [NewAccount.row, counted])
        lastAccountId := by simp only [List.length_append, List.length_singleton]; omega }
  | deleted id => exact numbered.markDeleted id true
  | restored id => exact numbered.markDeleted id false
  | transferred => exact numbered.moved ..

/-- The rows are numbered after any calls. -/
theorem numbered_after (calls : List TimedCall) : (after calls).Numbered := by
  induction calls using List.reverseRecOn with
  | nil => exact numbered_empty
  | append_singleton calls timed inductionHypothesis =>
      rw [after_concat]
      exact inductionHypothesis.step ((after calls).next_effect timed)

namespace Numbered

variable {tables : Tables} (numbered : tables.Numbered)

include numbered

theorem account?_eq_some_iff {id : Int} {account : Account} :
    tables.account? id = some account ↔ account ∈ tables.accounts ∧ account.id = id :=
  find?_eq_some_iff_of_nodup (numbered.accountIds ▸ nodup_numbers _)

theorem transfer?_eq_some_iff {id : Int} {transfer : Transfer} :
    tables.transfer? id = some transfer ↔ transfer ∈ tables.transfers ∧ transfer.id = id :=
  find?_eq_some_iff_of_nodup (numbered.transferIds ▸ nodup_numbers _)

theorem entry?_eq_some_iff {id : Int} {entry : Entry} :
    tables.entry? id = some entry ↔ entry ∈ tables.entries ∧ entry.id = id :=
  find?_eq_some_iff_of_nodup (numbered.entryIds ▸ nodup_numbers _)

end Numbered

end Tables

end Countinghouse
