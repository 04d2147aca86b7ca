import Countinghouse.Proofs.Store.Journal

/-!
# The 64-bit range

Every number that callers and the store exchange has 64 bits. `StoreCall.InRange` says so
of a call and `Tables.InRange` of the rows. Balances are checked before they are written,
so no call within the range takes a row out of it; the counters stay within it as long as
fewer than `2 ^ 62` transfers were committed. Within these bounds arithmetic on the rows is
arithmetic on integers.
-/

namespace Countinghouse

/-- The numbers a call carries have 64 bits. -/
def StoreCall.InRange : StoreCall → Prop
  | .createAccount new => Fits new.balance
  | .getAccount id | .deleteAccount id | .restoreAccount id | .getTransfer id
  | .getEntry id => Fits id
  | .transferFunds source destination amount => Fits source ∧ Fits destination ∧ Fits amount
  | .listTransfers accountId limit offset => Fits accountId ∧ Fits limit ∧ Fits offset
  | .createUser _ | .getUser _ | .updateUser _ | .listAccounts _ | .listDeletedAccounts _
  | .createSession _ | .getSession _ | .blockSession _ => True

namespace Tables

/-- The numbers in the rows have 64 bits, those that a counter gave out apart. -/
structure InRange (tables : Tables) : Prop where
  balances : ∀ account ∈ tables.accounts, Fits account.balance
  transfers : ∀ transfer ∈ tables.transfers,
    Fits transfer.fromAccountId ∧ Fits transfer.toAccountId ∧ Fits transfer.amount
  entries : ∀ entry ∈ tables.entries, Fits entry.accountId ∧ Fits entry.amount

theorem inRange_empty : InRange empty := ⟨by simp [empty], by simp [empty], by simp [empty]⟩

theorem settle_fits {source destination fromBalance toBalance : Int} {row : Account}
    (fromFits : Fits fromBalance) (toFits : Fits toBalance) (fits : Fits row.balance) :
    Fits (settle source destination fromBalance toBalance row).balance := by
  unfold settle
  split
  · exact fromFits
  · split
    · exact toFits
    · exact fits

theorem InRange.markDeleted {tables : Tables} (inRange : tables.InRange) (id : Int)
    (isDeleted : Bool) : (tables.markDeleted id isDeleted).InRange where
  balances := by
    intro account member
    obtain ⟨row, stored, rfl⟩ := List.mem_map.mp member
    split
    · exact inRange.balances row stored
    · exact inRange.balances row stored
  transfers := inRange.transfers
  entries := inRange.entries

theorem InRange.moved {tables : Tables} (inRange : tables.InRange) (now : Instant)
    {source destination amount : Int} {payer payee : Account}
    (transferable : tables.Transferable source destination amount payer payee)
    (call : (StoreCall.transferFunds source destination amount).InRange) :
    (tables.moved now source destination amount payer payee).InRange := by
  obtain ⟨sourceFits, destinationFits, amountFits⟩ := call
  have debitFits : Fits (-amount) := by
    have positive := transferable.positive
    unfold Fits at amountFits ⊢
    omega
  refine ⟨?_, ?_, ?_⟩
  · intro account member
    obtain ⟨row, stored, rfl⟩ := List.mem_map.mp member
    exact settle_fits transferable.debitFits transferable.creditFits (inRange.balances row stored)
  · intro transfer member
    rcases List.mem_append.mp member with earlier | latest
    · exact inRange.transfers transfer earlier
    · rw [List.mem_singleton.mp latest]
      exact ⟨sourceFits, destinationFits, amountFits⟩
  · intro entry member
    rcases List.mem_append.mp member with earlier | latest
    · exact inRange.entries entry earlier
    · rcases List.mem_cons.mp latest with rfl | credit
      · exact ⟨sourceFits, debitFits⟩
      · rw [List.mem_singleton.mp credit]
        exact ⟨destinationFits, amountFits⟩

/-- A call within the range keeps the rows within it. -/
theorem InRange.step {now : Instant} {before after : Tables} {call : StoreCall}
    {reply : Except StoreError call.Reply} (inRange : before.InRange) (callInRange : call.InRange)
    (effect : Effect now before call reply after) : after.InRange := by
  cases effect with
  | nothing | registered | updated | admitted | blocked =>
      exact ⟨inRange.balances, inRange.transfers, inRange.entries⟩
  | opened =>
      refine ⟨fun account member => ?_, inRange.transfers, inRange.entries⟩
      rcases List.mem_append.mp member with earlier | latest
      · exact inRange.balances account earlier
      · rw [List.mem_singleton.mp latest]
        exact callInRange
  | deleted id => exact inRange.markDeleted id true
  | restored id => exact inRange.markDeleted id false
  | transferred transferable => exact inRange.moved now transferable callInRange

/-- Calls within the range keep the rows within it. -/
theorem inRange_after (calls : List TimedCall)
    (callsInRange : ∀ timed ∈ calls, timed.call.InRange) : (after calls).InRange := by
  induction calls using List.reverseRecOn with
  | nil => exact inRange_empty
  | append_singleton calls timed inductionHypothesis =>
      rw [after_concat]
      have earlier := inductionHypothesis fun other member =>
        callsInRange other (List.mem_append_left _ member)
      exact earlier.step (callsInRange timed (List.mem_append_right _ List.mem_cons_self))
        ((after calls).next_effect timed)

/-- The counters of transfers and entries stay within the range while fewer than `2 ^ 62`
transfers are committed. -/
theorem counters_fit (calls : List TimedCall) (few : (movements calls).length < 2 ^ 62) :
    Fits (after calls).lastTransferId ∧ Fits (after calls).lastEntryId := by
  have journal := journal_after calls
  have numbered := numbered_after calls
  have transferCount := numbered.lastTransferId
  have entryCount := numbered.lastEntryId
  rw [journal.transfers, List.length_map] at transferCount
  rw [journal.length_entries] at entryCount
  unfold Fits
  omega

end Tables

end Countinghouse
