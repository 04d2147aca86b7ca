import Countinghouse.Proofs.Bank.Permission

/-!
# Accounts are in the hands of their owners

The store itself lets anyone debit, delete and restore any account. That this is left to the
owner is a law of the bank's orders, and it holds however the calls of different orders are
mixed: what is fixed about an account is never different, so the owner that an order checked
is the owner at the time of the call that the order makes afterwards.
-/

namespace Countinghouse.Bank

variable {bank : Bank} {order : Order} {tables : Tables} {call : StoreCall}
  {row changed : Account}

/-- What may happen to an account in one call that is made for an order. -/
structure Controlled (order : Order) (call : StoreCall) (row changed : Account) : Prop where
  same : row.Same changed
  debited : changed.balance < row.balance → ∃ destination amount,
    order = .transfer row.owner row.id destination amount ∧
      call = .transferFunds row.id destination amount
  marked : changed.isDeleted ≠ row.isDeleted →
    order = .deleteAccount row.owner row.id ∧ call = .deleteAccount row.id ∨
      order = .restoreAccount row.owner row.id ∧ call = .restoreAccount row.id

/-- A permitted call does to an account only what its owner ordered. -/
theorem controlled_of_permits (permitted : bank.Permits order tables call)
    (stored : tables.account? row.id = some row) (change : row.Change call changed) :
    Controlled order call row changed := by
  refine ⟨change.same, ?_, ?_⟩
  · intro less
    cases change with
    | none | deleted | restored => exact absurd less (Int.lt_irrefl _)
    | @debited destination amount =>
        obtain ⟨payer, payee, payerStored, -, -, isOrder⟩ := permitted
        obtain rfl : payer = row := Option.some.inj (payerStored.symm.trans stored)
        exact ⟨destination, amount, isOrder, rfl⟩
    | credited positive =>
        simp only at less
        omega
  · intro different
    cases change with
    | none | debited | credited => exact absurd rfl different
    | deleted =>
        obtain ⟨account, accountStored, isOrder⟩ := permitted
        obtain rfl : account = row := Option.some.inj (accountStored.symm.trans stored)
        exact .inl ⟨isOrder, rfl⟩
    | restored =>
        obtain ⟨account, accountStored, isOrder⟩ := permitted
        obtain rfl : account = row := Option.some.inj (accountStored.symm.trans stored)
        exact .inr ⟨isOrder, rfl⟩

/-- Only its owner takes from an account, deletes it or restores it. In every run of the
bank's orders, every call leaves each account that it finds in place. It takes from the
account only if it commits a transfer that the owner ordered from there, and it changes
whether the account is deleted only for the owner's order to delete or to restore it.
Identifier, owner, currency and time of opening are the same for ever after. -/
theorem owner_controls_account {deeds : List bank.service.Deed} {state : bank.service.State}
    (steps : Service.Steps .idle deeds state) :
    ∀ deed ∈ deeds, ∀ id row, deed.access.before.account? id = some row →
      (∃ changed, deed.access.after.account? id = some changed ∧
        Controlled deed.order deed.access.call row changed) ∧
      ∃ latest, state.tables.account? id = some latest ∧ row.Same latest := by
  intro deed member id row stored
  obtain ⟨rfl, known⟩ := Tables.knows_of_account? stored
  constructor
  · have permitted := bank.contract.permitted_of_steps steps deed member
    obtain ⟨changed, found, change⟩ :=
      (Tables.perform_effect deed.access.now deed.access.call deed.access.before).account_change
        stored
    exact ⟨changed, found, controlled_of_permits permitted stored change⟩
  · exact bank.contract.keeps_of_steps steps deed member row known

/-- Alice's account is debited in the rehearsal, for her own order. -/
theorem owner_controls_account_in_rehearsal :
    ∃ deed ∈ (Service.State.idle.play rehearsal).1, ∃ changed,
      deed.access.after.account? 1 = some changed ∧ changed.balance = 70 ∧
        Controlled deed.order deed.access.call ⟨1, "alice", 100, .usd, false, ⟨0⟩⟩ changed := by
  have debit : ∃ deed ∈ (Service.State.idle.play rehearsal).1,
      deed.access.before.account? 1 = some ⟨1, "alice", 100, .usd, false, ⟨0⟩⟩ ∧
        (deed.access.after.account? 1).map (·.balance) = some 70 := by decide +kernel
  obtain ⟨deed, member, stored, debited⟩ := debit
  obtain ⟨⟨changed, found, controlled⟩, -⟩ :=
    owner_controls_account (Service.play_steps .idle rehearsal) deed member 1 _ stored
  rw [found] at debited
  exact ⟨deed, member, changed, found, Option.some.inj debited, controlled⟩

end Countinghouse.Bank
