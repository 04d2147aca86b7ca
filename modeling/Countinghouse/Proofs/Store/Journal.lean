import Countinghouse.Proofs.Store.Numbering

/-!
# The journal

The transfers and the entries of the store are a journal: what the committed transfers
wrote, in the order they were committed, and nothing else. `Tables.Journal` ties the two
tables to the movements that were answered, and `Movement.Booked` says how the two
entries of a movement belong to its transfer. Rows of the journal are only ever added at
the end, so a row that is once read is read again for ever after.
-/

namespace Countinghouse

namespace Movement

/-- The entries of a movement, the debit first. -/
def legs (movement : Movement) : List Entry := [movement.fromEntry, movement.toEntry]

/-- A movement is between two accounts, and its two entries carry its amount away from the
one and to the other, under the numbers that belong to its own. -/
structure Booked (movement : Movement) : Prop where
  positive : 0 < movement.transfer.amount
  distinct : movement.transfer.fromAccountId ≠ movement.transfer.toAccountId
  debitId : movement.fromEntry.id = 2 * movement.transfer.id - 1
  debitAccount : movement.fromEntry.accountId = movement.transfer.fromAccountId
  debitAmount : movement.fromEntry.amount = -movement.transfer.amount
  creditId : movement.toEntry.id = 2 * movement.transfer.id
  creditAccount : movement.toEntry.accountId = movement.transfer.toAccountId
  creditAmount : movement.toEntry.amount = movement.transfer.amount

end Movement

namespace Tables

/-! ## Rows are only added -/

section

variable {now : Instant} {before after : Tables} {call : StoreCall}
  {reply : Except StoreError call.Reply}

theorem Effect.transfers_grow (effect : Effect now before call reply after) :
    before.transfers <+: after.transfers := by
  cases effect with
  | transferred => exact List.prefix_append _ _
  | _ => exact List.prefix_refl _

theorem Effect.entries_grow (effect : Effect now before call reply after) :
    before.entries <+: after.entries := by
  cases effect with
  | transferred => exact List.prefix_append _ _
  | _ => exact List.prefix_refl _

theorem Effect.accountIds_grow (effect : Effect now before call reply after) :
    before.accounts.map (·.id) <+: after.accounts.map (·.id) := by
  cases effect with
  | opened => exact List.map_append ▸ List.prefix_append _ _
  | deleted id => exact map_id_markDeleted before id true ▸ List.prefix_refl _
  | restored id => exact map_id_markDeleted before id false ▸ List.prefix_refl _
  | @transferred source destination amount payer payee =>
      exact map_id_moved before now source destination amount payer payee ▸ List.prefix_refl _
  | _ => exact List.prefix_refl _

/-- A call that commits no transfer leaves transfers and entries alone. -/
theorem Effect.journal_eq (effect : Effect now before call reply after)
    (noMovement : call.movement? reply = none) :
    after.transfers = before.transfers ∧ after.entries = before.entries := by
  cases effect with
  | transferred => cases noMovement
  | _ => exact ⟨rfl, rfl⟩

/-- The rows of a table that every call only adds to are still there after any calls. -/
theorem prefix_follow {Row : Type} {rows : Tables → List Row}
    (grows : ∀ (tables : Tables) (timed : TimedCall), rows tables <+: rows (tables.next timed))
    (tables : Tables) (calls : List TimedCall) : rows tables <+: rows (tables.follow calls) := by
  induction calls generalizing tables with
  | nil => exact List.prefix_refl _
  | cons timed rest inductionHypothesis =>
      exact (grows tables timed).trans (inductionHypothesis (tables.next timed))

/-- A transfer that is found once is found unchanged after any further calls. -/
theorem transfer?_follow {tables : Tables} {id : Int} {transfer : Transfer}
    (found : tables.transfer? id = some transfer) (calls : List TimedCall) :
    (tables.follow calls).transfer? id = some transfer :=
  (prefix_follow (fun tables timed => (tables.next_effect timed).transfers_grow)
    tables calls).find?_eq_some found

/-- An entry that is found once is found unchanged after any further calls. -/
theorem entry?_follow {tables : Tables} {id : Int} {entry : Entry}
    (found : tables.entry? id = some entry) (calls : List TimedCall) :
    entry? (tables.follow calls) id = some entry :=
  (prefix_follow (fun tables timed => (tables.next_effect timed).entries_grow)
    tables calls).find?_eq_some found

/-! ## The tables hold what was committed -/

/-- The tables hold the rows of these movements and no others, and both ends of each are
stored accounts. -/
structure Journal (movements : List Movement) (tables : Tables) : Prop where
  transfers : tables.transfers = movements.map (·.transfer)
  entries : tables.entries = movements.flatMap Movement.legs
  booked : ∀ movement ∈ movements, movement.Booked
  payerStored : ∀ movement ∈ movements,
    movement.transfer.fromAccountId ∈ tables.accounts.map (·.id)
  payeeStored : ∀ movement ∈ movements,
    movement.transfer.toAccountId ∈ tables.accounts.map (·.id)

theorem journal_empty : Journal [] empty :=
  ⟨rfl, rfl, by simp, by simp, by simp⟩

namespace Journal

variable {movements : List Movement}

/-- There are twice as many entries as movements. -/
theorem length_entries {tables : Tables} (journal : Journal movements tables) :
    tables.entries.length = 2 * movements.length := by
  rw [journal.entries]
  simp [List.length_flatMap, Movement.legs, Nat.mul_comm]

/-- A call that commits no transfer leaves the journal as it is. -/
theorem keep (journal : Journal movements before) (effect : Effect now before call reply after)
    (noMovement : call.movement? reply = none) : Journal movements after where
  transfers := (effect.journal_eq noMovement).1.trans journal.transfers
  entries := (effect.journal_eq noMovement).2.trans journal.entries
  booked := journal.booked
  payerStored movement member :=
    effect.accountIds_grow.subset (journal.payerStored movement member)
  payeeStored movement member :=
    effect.accountIds_grow.subset (journal.payeeStored movement member)

/-- The movement a transfer answers has its two entries under the numbers that are its own. -/
theorem booked_movement (journal : Journal movements before) (numbered : before.Numbered)
    {source destination amount : Int} {payer payee : Account}
    (transferable : before.Transferable source destination amount payer payee) :
    (before.movement now source destination amount payer payee).Booked := by
  have transferCount := numbered.lastTransferId
  have entryCount := numbered.lastEntryId
  have paired := journal.length_entries
  rw [journal.transfers, List.length_map] at transferCount
  exact {
    positive := transferable.positive
    distinct := transferable.distinct
    debitId := by simp only [Tables.movement]; omega
    debitAccount := rfl
    debitAmount := rfl
    creditId := by simp only [Tables.movement]; omega
    creditAccount := rfl
    creditAmount := rfl }

/-- A transfer adds its movement to the journal. -/
theorem transferred (journal : Journal movements before) (numbered : before.Numbered)
    {source destination amount : Int} {payer payee : Account}
    (transferable : before.Transferable source destination amount payer payee) :
    Journal (movements ++ [before.movement now source destination amount payer payee])
      (before.moved now source destination amount payer payee) := by
  obtain ⟨payerMember, payerId⟩ := account?_some transferable.payerStored
  obtain ⟨payeeMember, payeeId⟩ := account?_some transferable.payeeStored
  have endsStored : source ∈ before.accounts.map (·.id) ∧
      destination ∈ before.accounts.map (·.id) :=
    ⟨List.mem_map.mpr ⟨payer, payerMember, payerId⟩,
      List.mem_map.mpr ⟨payee, payeeMember, payeeId⟩⟩
  exact {
    transfers := by rw [List.map_append, ← journal.transfers]; rfl
    entries := by rw [List.flatMap_append, ← journal.entries]; rfl
    booked := by
      intro movement member
      rcases List.mem_append.mp member with earlier | latest
      · exact journal.booked movement earlier
      · rw [List.mem_singleton.mp latest]
        exact journal.booked_movement numbered transferable
    payerStored := by
      intro movement member
      rw [map_id_moved]
      rcases List.mem_append.mp member with earlier | latest
      · exact journal.payerStored movement earlier
      · rw [List.mem_singleton.mp latest]
        exact endsStored.1
    payeeStored := by
      intro movement member
      rw [map_id_moved]
      rcases List.mem_append.mp member with earlier | latest
      · exact journal.payeeStored movement earlier
      · rw [List.mem_singleton.mp latest]
        exact endsStored.2 }

/-- Every call adds to the journal what it answers as moved. -/
theorem step (journal : Journal movements before) (numbered : before.Numbered)
    (effect : Effect now before call reply after) :
    Journal (movements ++ (call.movement? reply).toList) after := by
  by_cases noMovement : call.movement? reply = none
  · rw [noMovement, Option.toList_none, List.append_nil]
    exact journal.keep effect noMovement
  · cases effect with
    | transferred transferable => exact journal.transferred numbered transferable
    | nothing _ silent => exact absurd silent noMovement
    | _ => exact absurd rfl noMovement

end Journal

end

/-- After any calls the tables hold the journal of what was committed. -/
theorem journal_after (calls : List TimedCall) : Journal (movements calls) (after calls) := by
  induction calls using List.reverseRecOn with
  | nil => exact journal_empty
  | append_singleton calls timed inductionHypothesis =>
      rw [after_concat, movements_concat]
      exact inductionHypothesis.step (numbered_after calls) ((after calls).next_effect timed)
namespace Journal

variable {movements : List Movement} {tables : Tables} (journal : Journal movements tables)
  (numbered : tables.Numbered)

include journal

/-- The rows of a movement are stored. -/
theorem stored {movement : Movement} (member : movement ∈ movements) :
    movement.transfer ∈ tables.transfers ∧ movement.fromEntry ∈ tables.entries ∧
      movement.toEntry ∈ tables.entries := by
  rw [journal.transfers, journal.entries]
  exact ⟨List.mem_map.mpr ⟨movement, member, rfl⟩,
    List.mem_flatMap.mpr ⟨movement, member, List.mem_cons_self⟩,
    List.mem_flatMap.mpr ⟨movement, member, List.mem_cons_of_mem _ List.mem_cons_self⟩⟩

include numbered

/-- The transfers bear the numbers from one to the number of movements. -/
theorem map_id_transfers : tables.transfers.map (·.id) = numbers movements.length := by
  rw [numbered.transferIds, journal.transfers, List.length_map]

/-- The entries bear the numbers from one to twice the number of movements. -/
theorem map_id_entries : tables.entries.map (·.id) = numbers (2 * movements.length) := by
  rw [numbered.entryIds, journal.length_entries]

/-- Under every number given out there is a movement, and its rows are found there. -/
theorem exists_movement {number : Int} (given : number ∈ numbers movements.length) :
    ∃ movement ∈ movements, tables.transfer? number = some movement.transfer ∧
      tables.entry? (2 * number - 1) = some movement.fromEntry ∧
      tables.entry? (2 * number) = some movement.toEntry := by
  rw [← journal.map_id_transfers numbered, journal.transfers, List.map_map] at given
  obtain ⟨movement, member, rfl⟩ := List.mem_map.mp given
  obtain ⟨transferStored, debitStored, creditStored⟩ := journal.stored member
  have booked := journal.booked movement member
  exact ⟨movement, member, numbered.transfer?_eq_some_iff.mpr ⟨transferStored, rfl⟩,
    numbered.entry?_eq_some_iff.mpr ⟨debitStored, booked.debitId⟩,
    numbered.entry?_eq_some_iff.mpr ⟨creditStored, booked.creditId⟩⟩

/-- Both ends of a movement are found among the accounts. -/
theorem exists_ends {movement : Movement} (member : movement ∈ movements) :
    (∃ payer, tables.account? movement.transfer.fromAccountId = some payer) ∧
      ∃ payee, tables.account? movement.transfer.toAccountId = some payee := by
  obtain ⟨payer, payerStored, payerId⟩ := List.mem_map.mp (journal.payerStored movement member)
  obtain ⟨payee, payeeStored, payeeId⟩ := List.mem_map.mp (journal.payeeStored movement member)
  exact ⟨⟨payer, numbered.account?_eq_some_iff.mpr ⟨payerStored, payerId⟩⟩,
    ⟨payee, numbered.account?_eq_some_iff.mpr ⟨payeeStored, payeeId⟩⟩⟩

end Journal

/-- Double entry. However the store was used, its transfers are numbered from one to the
number of transfers committed and its entries up to twice that number. Transfer `k` moves a
positive amount between two different stored accounts, entry `2 * k - 1` takes the amount
from the one and entry `2 * k` gives it to the other. Whatever is asked of the store later,
the rows stay as they are and where they are, and they are what it answers. While fewer
than `2 ^ 62` transfers are committed, no number has left the 64-bit range. -/
theorem double_entry (calls more : List TimedCall) :
    let count := (movements calls).length
    (after calls).transfers.map (·.id) = numbers count ∧
      (after calls).entries.map (·.id) = numbers (2 * count) ∧
      (∀ number ∈ numbers count, ∃ transfer debit credit payer payee,
        (after calls).transfer? number = some transfer ∧
        0 < transfer.amount ∧ transfer.fromAccountId ≠ transfer.toAccountId ∧
        (after calls).account? transfer.fromAccountId = some payer ∧
        (after calls).account? transfer.toAccountId = some payee ∧
        entry? (after calls) (2 * number - 1) = some debit ∧
        debit.accountId = transfer.fromAccountId ∧ debit.amount = -transfer.amount ∧
        entry? (after calls) (2 * number) = some credit ∧
        credit.accountId = transfer.toAccountId ∧ credit.amount = transfer.amount) ∧
      (after calls).transfers <+: (after (calls ++ more)).transfers ∧
      (after calls).entries <+: (after (calls ++ more)).entries ∧
      (∀ id transfer now, (after calls).transfer? id = some transfer →
        (perform now (.getTransfer id) (after (calls ++ more))).1 = .ok (some transfer)) ∧
      (∀ id entry now, entry? (after calls) id = some entry →
        (perform now (.getEntry id) (after (calls ++ more))).1 = .ok (some entry)) ∧
      (count < 2 ^ 62 → ∀ number ∈ numbers (2 * count), Fits number) := by
  intro count
  have journal := journal_after calls
  have numbered := numbered_after calls
  rw [after_append]
  refine ⟨journal.map_id_transfers numbered, journal.map_id_entries numbered, ?_,
    prefix_follow (fun tables timed => (tables.next_effect timed).transfers_grow) _ more,
    prefix_follow (fun tables timed => (tables.next_effect timed).entries_grow) _ more,
    fun id transfer now found => ?_, fun id entry now found => ?_, fun few number given => ?_⟩
  · intro number given
    obtain ⟨movement, member, transferFound, debitFound, creditFound⟩ :=
      journal.exists_movement numbered given
    obtain ⟨⟨payer, payerFound⟩, payee, payeeFound⟩ := journal.exists_ends numbered member
    have booked := journal.booked movement member
    exact ⟨movement.transfer, movement.fromEntry, movement.toEntry, payer, payee, transferFound,
      booked.positive, booked.distinct, payerFound, payeeFound, debitFound, booked.debitAccount,
      booked.debitAmount, creditFound, booked.creditAccount, booked.creditAmount⟩
  · exact congrArg Except.ok (transfer?_follow found more)
  · exact congrArg Except.ok (entry?_follow found more)
  · have bounds := mem_numbers_iff.mp given
    unfold Fits
    omega

end Tables

end Countinghouse
