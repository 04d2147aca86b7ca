import Countinghouse.Proofs.Store.Range

/-!
# Balances and the journal

An account's balance is what it was opened with and everything the journal says about it
since. `Tables.opening` computes from the tables what an account must have been opened
with, and `Tables.openings_after` says that this is what the store was told. Money moves
between accounts and is neither made nor lost: `Tables.held` adds up the balances of any
selection of accounts, and `Tables.held_moved` says how a transfer changes the sum.
-/

namespace Countinghouse

namespace Tables

/-- The sum of the entries of an account. -/
def posted (tables : Tables) (id : Int) : Int :=
  ((tables.entries.filter (·.accountId == id)).map (·.amount)).sum

/-- The sum of the transfers into an account. -/
def received (tables : Tables) (id : Int) : Int :=
  ((tables.transfers.filter (·.toAccountId == id)).map (·.amount)).sum

/-- The sum of the transfers out of an account. -/
def sent (tables : Tables) (id : Int) : Int :=
  ((tables.transfers.filter (·.fromAccountId == id)).map (·.amount)).sum

/-- The sum of the balances of selected accounts. -/
def held (tables : Tables) (selected : Account → Bool) : Int :=
  ((tables.accounts.filter selected).map (·.balance)).sum

/-- What the tables say an account was opened with. -/
def opening (tables : Tables) (account : Account) : Opening :=
  ⟨account.id, account.balance - tables.posted account.id⟩

/-- What a transfer adds to the balance of an account. -/
def shift (source destination amount id : Int) : Int :=
  (if source = id then -amount else 0) + (if destination = id then amount else 0)

section

variable {now : Instant} {before : Tables} {source destination amount : Int}
  {payer payee : Account} {movements : List Movement}

/-! ## Entries and transfers say the same -/

/-- The entries of an account sum to what it received less what it sent. -/
theorem Journal.posted_eq {tables : Tables} (journal : Journal movements tables) (id : Int) :
    tables.posted id = tables.received id - tables.sent id := by
  unfold posted received sent
  rw [journal.entries, journal.transfers]
  have booked := journal.booked
  clear journal
  induction movements with
  | nil => rfl
  | cons movement rest inductionHypothesis =>
      have tail := inductionHypothesis fun other member =>
        booked other (List.mem_cons_of_mem _ member)
      have head := booked movement List.mem_cons_self
      simp only [List.flatMap_cons, Movement.legs, List.map_cons, List.filter_cons,
        List.cons_append, List.nil_append, head.debitAccount, head.creditAccount]
      by_cases isSource : movement.transfer.fromAccountId = id <;>
        by_cases isDestination : movement.transfer.toAccountId = id <;>
        simp [isSource, isDestination, head.debitAmount, head.creditAmount] at tail ⊢ <;> omega

/-- An account that is not stored has no entries. -/
theorem Journal.posted_eq_zero {tables : Tables} (journal : Journal movements tables) {id : Int}
    (unknown : id ∉ tables.accounts.map (·.id)) : tables.posted id = 0 := by
  have none : tables.entries.filter (·.accountId == id) = [] := by
    rw [List.filter_eq_nil_iff]
    intro entry stored isItsOwn
    rw [journal.entries] at stored
    obtain ⟨movement, member, leg⟩ := List.mem_flatMap.mp stored
    have booked := journal.booked movement member
    have same : entry.accountId = id := by simpa using isItsOwn
    rcases List.mem_cons.mp leg with rfl | leg
    · exact unknown (same ▸ booked.debitAccount ▸ journal.payerStored movement member)
    · obtain rfl := List.mem_singleton.mp leg
      exact unknown (same ▸ booked.creditAccount ▸ journal.payeeStored movement member)
  simp [posted, none]

/-! ## What a transfer does to balances -/

theorem posted_moved (id : Int) :
    (before.moved now source destination amount payer payee).posted id =
      before.posted id + shift source destination amount id := by
  by_cases isSource : source = id <;> by_cases isDestination : destination = id <;>
    simp [posted, moved, shift, List.filter_append, isSource, isDestination]

/-- Settling a transfer adds its share to every stored balance. -/
theorem settle_balance (numbered : before.Numbered)
    (transferable : before.Transferable source destination amount payer payee)
    {row : Account} (stored : row ∈ before.accounts) :
    (settle source destination (payer.balance - amount) (payee.balance + amount) row).balance =
      row.balance + shift source destination amount row.id := by
  have distinct := transferable.distinct
  have known : before.account? row.id = some row :=
    numbered.account?_eq_some_iff.mpr ⟨stored, rfl⟩
  by_cases isSource : row.id = source
  · have isPayer : row = payer :=
      Option.some.inj (known.symm.trans (isSource ▸ transferable.payerStored))
    have sameBalance := congrArg Account.balance isPayer
    have notDestination : destination ≠ row.id := fun equal => distinct (isSource ▸ equal.symm)
    simp only [settle, shift, if_pos isSource, if_pos isSource.symm, if_neg notDestination]
    omega
  · by_cases isDestination : row.id = destination
    · have isPayee : row = payee :=
        Option.some.inj (known.symm.trans (isDestination ▸ transferable.payeeStored))
      have sameBalance := congrArg Account.balance isPayee
      simp only [settle, shift, if_neg isSource, if_neg (Ne.symm isSource), if_pos isDestination,
        if_pos isDestination.symm]
      omega
    · simp only [settle, shift, if_neg isSource, if_neg (Ne.symm isSource), if_neg isDestination,
        if_neg (Ne.symm isDestination)]
      omega

/-- A value that one selected row carries and no other sums to that value. -/
theorem sum_filter_ite (numbered : before.Numbered) {row : Account} (stored : row ∈ before.accounts)
    (selected : Account → Bool) (value : Int) :
    ((before.accounts.filter selected).map fun other =>
        if row.id = other.id then value else 0).sum = if selected row then value else 0 := by
  have distinct : (before.accounts.map (·.id)).Nodup := numbered.accountIds ▸ nodup_numbers _
  rw [List.sum_map_eq_nsmul_single row]
  · by_cases isSelected : selected row
    · have once : (before.accounts.filter selected).count row = 1 :=
        List.count_eq_one_of_mem (distinct.of_map.filter _)
          (List.mem_filter.mpr ⟨stored, isSelected⟩)
      simp [once, isSelected]
    · have absent : (before.accounts.filter selected).count row = 0 :=
        List.count_eq_zero.mpr fun member => isSelected (List.mem_filter.mp member).2
      simp [absent, isSelected]
  · intro other different member
    refine if_neg fun sameId => different ?_
    exact List.inj_on_of_nodup_map distinct (List.mem_filter.mp member).1 stored sameId.symm

/-- A transfer takes its amount from the accounts that were selected with the payer and adds
it to those selected with the payee. -/
theorem held_moved (numbered : before.Numbered)
    (transferable : before.Transferable source destination amount payer payee)
    {selected : Account → Bool}
    (blind : ∀ row balance, selected { row with balance := balance } = selected row) :
    (before.moved now source destination amount payer payee).held selected =
      before.held selected +
        ((if selected payer then -amount else 0) + (if selected payee then amount else 0)) := by
  obtain ⟨payerStored, payerId⟩ := account?_some transferable.payerStored
  obtain ⟨payeeStored, payeeId⟩ := account?_some transferable.payeeStored
  have sameSelection : selected ∘ settle source destination (payer.balance - amount)
      (payee.balance + amount) = selected := by
    funext row
    unfold Function.comp settle
    split
    · exact blind row _
    · split
      · exact blind row _
      · rfl
  have settled : ∀ row ∈ before.accounts.filter selected,
      (settle source destination (payer.balance - amount) (payee.balance + amount) row).balance =
        row.balance + ((if payer.id = row.id then -amount else 0) +
          (if payee.id = row.id then amount else 0)) := by
    intro row member
    rw [settle_balance numbered transferable (List.mem_filter.mp member).1, shift, payerId, payeeId]
  unfold held
  rw [accounts_moved, List.filter_map, sameSelection, List.map_map]
  calc ((before.accounts.filter selected).map ((·.balance) ∘
          settle source destination (payer.balance - amount) (payee.balance + amount))).sum
      _ = ((before.accounts.filter selected).map fun row => row.balance +
            ((if payer.id = row.id then -amount else 0) +
              (if payee.id = row.id then amount else 0))).sum :=
          congrArg List.sum (List.map_congr_left settled)
      _ = _ := by
          rw [List.sum_map_add, List.sum_map_add, sum_filter_ite numbered payerStored,
            sum_filter_ite numbered payeeStored]

/-- Marking an account as deleted or not moves no money. -/
theorem held_markDeleted (tables : Tables) (id : Int) (isDeleted : Bool)
    {selected : Account → Bool}
    (blind : ∀ row isDeleted, selected { row with isDeleted := isDeleted } = selected row) :
    (tables.markDeleted id isDeleted).held selected = tables.held selected := by
  have sameSelection : selected ∘ mark id isDeleted = selected := by
    funext row
    unfold Function.comp mark
    split
    · exact blind row isDeleted
    · rfl
  unfold held
  rw [accounts_markDeleted, List.filter_map, sameSelection, List.map_map]
  exact congrArg List.sum (List.map_congr_left fun row _ => mark_balance id isDeleted row)

/-- An account that is opened brings its balance with it. -/
theorem held_append (tables : Tables) (row : Account) (lastAccountId : Int)
    (selected : Account → Bool) :
    held { tables with accounts := tables.accounts ++ [row], lastAccountId } selected =
      tables.held selected + if selected row then row.balance else 0 := by
  by_cases isSelected : selected row
  · simp [held, List.filter_append, isSelected]
  · simp [held, List.filter_append, isSelected]

/-! ## What accounts were opened with -/

/-- Marking accounts as deleted or not has no part in what they were opened with. -/
theorem map_opening_markDeleted (tables : Tables) (id : Int) (isDeleted : Bool) :
    (tables.markDeleted id isDeleted).accounts.map (tables.markDeleted id isDeleted).opening =
      tables.accounts.map tables.opening := by
  rw [accounts_markDeleted, List.map_map]
  refine List.map_congr_left fun row _ => ?_
  simp only [Function.comp_apply, opening, (mark_same id isDeleted row).id, mark_balance]
  rfl

/-- A transfer changes balances by what it posts. -/
theorem map_opening_moved (numbered : before.Numbered)
    (transferable : before.Transferable source destination amount payer payee) :
    (before.moved now source destination amount payer payee).accounts.map
        (before.moved now source destination amount payer payee).opening =
      before.accounts.map before.opening := by
  rw [accounts_moved, List.map_map]
  refine List.map_congr_left fun row stored => ?_
  have settled := settle_balance numbered transferable stored
  simp only [Function.comp_apply, opening, (settle_same _ _ _ _ row).id, posted_moved, settled,
    Opening.mk.injEq,
    true_and]
  omega

/-- Every call opens what it answers as opened, and no other account's opening changes. -/
theorem map_opening_step {after : Tables} {call : StoreCall}
    {reply : Except StoreError call.Reply} (numbered : before.Numbered)
    (journal : Journal movements before) (effect : Effect now before call reply after) :
    after.accounts.map after.opening =
      before.accounts.map before.opening ++ (call.opening? reply).toList := by
  cases effect with
  | nothing noOpening =>
      rw [noOpening, Option.toList_none, List.append_nil]
  | @opened new =>
      have unknown : before.lastAccountId + 1 ∉ before.accounts.map (·.id) := by
        rw [numbered.accountIds, mem_numbers_iff, numbered.lastAccountId]
        omega
      have untouched := journal.posted_eq_zero unknown
      have first : before.opening (new.row now (before.lastAccountId + 1)) =
          ⟨before.lastAccountId + 1, new.balance⟩ := by
        simp only [opening, NewAccount.row, untouched, Int.sub_zero]
      calc (before.accounts ++ [new.row now (before.lastAccountId + 1)]).map before.opening
          _ = before.accounts.map before.opening ++
                [before.opening (new.row now (before.lastAccountId + 1))] := List.map_append
          _ = _ := by rw [first]; rfl
  | deleted id => exact (map_opening_markDeleted before id true).trans (List.append_nil _).symm
  | restored id => exact (map_opening_markDeleted before id false).trans (List.append_nil _).symm
  | transferred transferable =>
      exact (map_opening_moved numbered transferable).trans (List.append_nil _).symm
  | registered | updated | admitted | blocked => exact (List.append_nil _).symm

/-- Every call adds what it opens to the sum of all balances, and nothing else changes it. -/
theorem held_step {after : Tables} {call : StoreCall} {reply : Except StoreError call.Reply}
    (numbered : before.Numbered) (effect : Effect now before call reply after) :
    after.held (fun _ => true) =
      before.held (fun _ => true) + ((call.opening? reply).toList.map (·.balance)).sum := by
  cases effect with
  | nothing noOpening =>
      rw [noOpening]
      exact (Int.add_zero _).symm
  | opened =>
      rw [held_append]
      simp [StoreCall.opening?, NewAccount.row]
  | deleted id => exact (held_markDeleted before id true fun _ _ => rfl).trans (Int.add_zero _).symm
  | restored id =>
      exact (held_markDeleted before id false fun _ _ => rfl).trans (Int.add_zero _).symm
  | transferred transferable =>
      rw [held_moved numbered transferable fun _ _ => rfl]
      simp [StoreCall.opening?]
  | registered | updated | admitted | blocked => exact (Int.add_zero _).symm

end

/-- After any calls the tables tell, account by account, what was opened. -/
theorem openings_after (calls : List TimedCall) :
    (after calls).accounts.map (after calls).opening = openings calls := by
  induction calls using List.reverseRecOn with
  | nil => rfl
  | append_singleton calls timed inductionHypothesis =>
      rw [after_concat, openings_concat, ← inductionHypothesis]
      exact map_opening_step (numbered_after calls) (journal_after calls)
        ((after calls).next_effect timed)

/-- After any calls the accounts hold together what they were opened with. -/
theorem held_after (calls : List TimedCall) :
    (after calls).held (fun _ => true) = ((openings calls).map (·.balance)).sum := by
  induction calls using List.reverseRecOn with
  | nil => rfl
  | append_singleton calls timed inductionHypothesis =>
      rw [after_concat, openings_concat, List.map_append, List.sum_append, ← inductionHypothesis]
      exact held_step (numbered_after calls) ((after calls).next_effect timed)

/-- The ledger balances. However the store was used, every stored account was opened exactly
once, and its balance is what it was opened with and the sum of its entries since, which is
what it received by transfers less what it sent. All balances together are what all
accounts were opened with. While the numbers callers give have 64 bits and fewer than
`2 ^ 62` transfers are committed, so has every number that is stored or counted. -/
theorem ledger_balances (calls : List TimedCall) :
    (∀ account ∈ (after calls).accounts, ∃ opening ∈ openings calls,
        opening.accountId = account.id ∧
        (∀ other ∈ openings calls, other.accountId = account.id → other = opening) ∧
        account.balance = opening.balance + (after calls).posted account.id ∧
        account.balance = opening.balance +
          (after calls).received account.id - (after calls).sent account.id) ∧
      ((after calls).accounts.map (·.balance)).sum = ((openings calls).map (·.balance)).sum ∧
      ((∀ timed ∈ calls, timed.call.InRange) → (movements calls).length < 2 ^ 62 →
        (after calls).InRange ∧ Fits (after calls).lastTransferId ∧
          Fits (after calls).lastEntryId) := by
  refine ⟨fun account stored => ?_, ?_, fun callsInRange few =>
    ⟨inRange_after calls callsInRange, counters_fit calls few⟩⟩
  · have numbered := numbered_after calls
    have posted := (journal_after calls).posted_eq account.id
    rw [← openings_after calls]
    refine ⟨(after calls).opening account, List.mem_map.mpr ⟨account, stored, rfl⟩, rfl, ?_, ?_, ?_⟩
    · intro other member sameId
      obtain ⟨row, rowStored, rfl⟩ := List.mem_map.mp member
      -- Two stored rows under one number are one row.
      have found := numbered.account?_eq_some_iff.mpr ⟨stored, rfl⟩
      have alsoFound := numbered.account?_eq_some_iff.mpr ⟨rowStored, sameId⟩
      rw [Option.some.inj (alsoFound.symm.trans found)]
    · simp only [opening]
      omega
    · simp only [opening]
      omega
  · rw [← held_after calls]
    simp [held]

end Tables

end Countinghouse
