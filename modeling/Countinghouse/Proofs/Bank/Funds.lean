import Countinghouse.Proofs.Bank.Permission
import Countinghouse.Proofs.Store.Conservation

/-!
# Funds move by orders of their owners

The store commits a transfer without asking whose account it debits or in which currency the
two accounts are. An order checks both, and commits later, when other orders have called the
store in between. What it checked is then still true, for a contract of all orders says
so, and what may have changed, such as a deleted account, is checked by the store again.

So all money in a currency is what its accounts were opened with: a transfer moves none from
one currency to another.
-/

namespace Countinghouse

namespace Tables

/-- A row of the transfers was there before a call, or the call committed it. -/
theorem Effect.transfer_cases {now : Instant} {before after : Tables} {call : StoreCall}
    {reply : Except StoreError call.Reply} (effect : Effect now before call reply after)
    {row : Transfer} (stored : row ∈ after.transfers) :
    row ∈ before.transfers ∨
      call = .transferFunds row.fromAccountId row.toAccountId row.amount ∧
        (∃ movement, call.movement? reply = some movement ∧ movement.transfer = row) ∧
        ∃ payer payee,
          before.Transferable row.fromAccountId row.toAccountId row.amount payer payee := by
  cases effect with
  | nothing | registered | updated | opened | deleted | restored | admitted | blocked =>
      exact .inl stored
  | @transferred source destination amount payer payee transferable =>
      rcases List.mem_append.mp stored with old | new
      · exact .inl old
      · obtain rfl := List.mem_singleton.mp new
        exact .inr ⟨rfl, ⟨_, rfl, rfl⟩, payer, payee, transferable⟩

end Tables

namespace Bank

variable {bank : Bank}

/-! ## Who committed a transfer -/

/-- A transfer that is permitted and can be carried out was ordered by its payer, and is
between accounts in one currency. -/
theorem ordered_by_payer {order : Order} {tables : Tables} {source destination amount : Int}
    {payer payee : Account}
    (permitted : bank.Permits order tables (.transferFunds source destination amount))
    (transferable : tables.Transferable source destination amount payer payee) :
    order = .transfer payer.owner source destination amount ∧
      payer.currency = payee.currency := by
  obtain ⟨payerNow, payeeNow, payerStored, payeeStored, sameCurrency, isOrder⟩ := permitted
  -- The order's check and the store's check were made on the same rows.
  have samePayer : payerNow = payer :=
    Option.some.inj (payerStored.symm.trans transferable.payerStored)
  have samePayee : payeeNow = payee :=
    Option.some.inj (payeeStored.symm.trans transferable.payeeStored)
  subst samePayer samePayee
  exact ⟨isOrder, sameCurrency⟩

/-- A transfer was committed in a call made for an order of the payer. -/
structure Committed (deed : bank.service.Deed) (row : Transfer) (payer payee : Account) :
    Prop where
  ordered : deed.order =
    Order.transfer payer.owner row.fromAccountId row.toAccountId row.amount
  answered : ∃ movement,
    deed.access.call.movement? deed.access.reply = some movement ∧ movement.transfer = row
  distinct : row.fromAccountId ≠ row.toAccountId
  positive : 0 < row.amount
  payerStored : deed.access.before.account? row.fromAccountId = some payer
  payeeStored : deed.access.before.account? row.toAccountId = some payee
  payerActive : payer.isDeleted = false
  payeeActive : payee.isDeleted = false
  sameCurrency : payer.currency = payee.currency

/-- A permitted call commits transfers for their payers only. -/
theorem committed_of_permits {deed : bank.service.Deed}
    (permitted : bank.Permits deed.order deed.access.before deed.access.call)
    {row : Transfer} (stored : row ∈ deed.access.after.transfers) :
    row ∈ deed.access.before.transfers ∨ ∃ payer payee, Committed deed row payer payee := by
  have effect := Tables.perform_effect deed.access.now deed.access.call deed.access.before
  obtain old | ⟨isCall, answered, payer, payee, transferable⟩ := effect.transfer_cases stored
  · exact .inl old
  · rw [isCall] at permitted
    obtain ⟨ordered, sameCurrency⟩ := ordered_by_payer permitted transferable
    exact .inr ⟨payer, payee, ordered, answered, transferable.distinct, transferable.positive,
      transferable.payerStored, transferable.payeeStored, transferable.payerActive,
      transferable.payeeActive, sameCurrency⟩

/-- Every stored transfer was committed in a call of the run. -/
theorem committed_of_steps {deeds : List bank.service.Deed} {state : bank.service.State}
    (steps : Service.Steps .idle deeds state) :
    ∀ row ∈ state.tables.transfers, ∃ deed ∈ deeds, ∃ payer payee,
      Committed deed row payer payee := by
  refine bank.contract.of_steps (fun deeds tables => ∀ row ∈ tables.transfers,
    ∃ deed ∈ deeds, ∃ payer payee, Committed deed row payer payee) ?_ ?_ steps
  · exact fun row member => absurd member List.not_mem_nil
  · intro deeds latest earlier permitted row stored
    obtain old | committed := committed_of_permits permitted stored
    · obtain ⟨deed, member, committed⟩ := earlier row old
      exact ⟨deed, List.mem_append_left _ member, committed⟩
    · exact ⟨latest, List.mem_append_right _ List.mem_cons_self, committed⟩

/-! ## The money in a currency -/

/-- In every currency the accounts hold together what they were opened with. -/
def Funded (bank : Bank) (tables : Tables) : Prop :=
  ∀ currency, tables.held (·.currency == currency) =
    bank.startingBalance * tables.accounts.countP (·.currency == currency)

/-- No row of the accounts changes its currency, so each currency has as many as before. -/
theorem countP_map_currency (accounts : List Account) {change : Account → Account}
    (same : ∀ row : Account, row.Same (change row)) (currency : Currency) :
    (accounts.map change).countP (·.currency == currency) =
      accounts.countP (·.currency == currency) := by
  rw [List.countP_map]
  refine List.countP_congr fun row _ => ?_
  simp only [Function.comp_apply, (same row).currency]

theorem Funded.markDeleted {tables : Tables} (funded : bank.Funded tables) (id : Int)
    (isDeleted : Bool) : bank.Funded (tables.markDeleted id isDeleted) := by
  intro currency
  rw [Tables.held_markDeleted tables id isDeleted fun _ _ => rfl, Tables.accounts_markDeleted,
    countP_map_currency tables.accounts (Tables.mark_same id isDeleted), funded currency]

/-- A permitted call moves no money between currencies, and opens accounts with the starting
balance. -/
theorem Funded.step {order : Order} {now : Instant} {before after : Tables} {call : StoreCall}
    {reply : Except StoreError call.Reply} (funded : bank.Funded before)
    (numbered : before.Numbered) (permitted : bank.Permits order before call)
    (effect : before.Effect now call reply after) : bank.Funded after := by
  cases effect with
  | nothing | registered | updated | admitted | blocked => exact funded
  | deleted id => exact funded.markDeleted id true
  | restored id => exact funded.markDeleted id false
  | @opened new =>
      intro currency
      obtain ⟨-, startingBalance⟩ := permitted
      rw [Tables.held_append, funded currency, List.countP_append, List.countP_singleton]
      by_cases selected : new.currency = currency
      · simp [NewAccount.row, selected, startingBalance, Int.mul_add]
      · simp [NewAccount.row, selected]
  | @transferred source destination amount payer payee transferable =>
      intro currency
      obtain ⟨-, sameCurrency⟩ := ordered_by_payer permitted transferable
      rw [Tables.held_moved numbered transferable fun _ _ => rfl, Tables.accounts_moved,
        countP_map_currency before.accounts (Tables.settle_same _ _ _ _), funded currency,
        sameCurrency]
      -- Either both ends are in the currency or neither is.
      split <;> omega

/-- Every run leaves each currency with what its accounts were opened with. -/
theorem funded_of_steps {deeds : List bank.service.Deed} {state : bank.service.State}
    (steps : Service.Steps .idle deeds state) : bank.Funded state.tables := by
  refine (bank.contract.of_steps (fun _ tables => tables.Numbered ∧ bank.Funded tables)
    ?_ ?_ steps).2
  · exact ⟨Tables.numbered_after [], fun currency => (Int.mul_zero _).symm⟩
  · rintro deeds ⟨order, ⟨⟨now, call⟩, before⟩⟩ ⟨numbered, funded⟩ permitted
    have effect := Tables.perform_effect now call before
    exact ⟨numbered.step effect, funded.step numbered permitted effect⟩

/-! ## What the orders do with funds -/

/-- Funds move only as their owners order. However the calls of the orders are mixed, from
an empty store on, every transfer that is ever stored was committed in a call made for an
order to transfer whose caller owns the source. Its ends are two different accounts in one
currency, neither of which was deleted, and its amount is positive. An account that is
deleted at some time stays exactly as it is until a call restores it. And in every state and
every currency the accounts hold together the starting balance as often as there are
accounts. -/
theorem orders_conserve_funds {earlier later : List bank.service.Deed}
    {middle state : bank.service.State} (first : Service.Steps .idle earlier middle)
    (second : Service.Steps middle later state) :
    (∀ row ∈ state.tables.transfers, ∃ deed ∈ earlier ++ later, ∃ payer payee,
        Committed deed row payer payee) ∧
      (∀ id row, middle.tables.account? id = some row → row.isDeleted = true →
        (∀ deed ∈ later, deed.access.call ≠ .restoreAccount id) →
        state.tables.account? id = some row) ∧
      ∀ currency,
        ((state.tables.accounts.filter (·.currency == currency)).map (·.balance)).sum =
          bank.startingBalance * state.tables.accounts.countP (·.currency == currency) := by
  refine ⟨committed_of_steps (first.trans second), ?_, funded_of_steps (first.trans second)⟩
  intro id row stored isDeleted notRestored
  rw [second.tables_eq]
  refine Tables.follow_of_isDeleted _ (fun timed member => ?_) stored isDeleted
  obtain ⟨deed, deedMember, rfl⟩ := List.mem_map.mp member
  exact notRestored deed deedMember

/-- The rehearsed transfer was committed, what it left on the account that was then deleted
stays there, and no money was made or lost. -/
theorem orders_conserve_funds_in_rehearsal :
    (∃ deed ∈ (Service.State.idle.play rehearsal).1 ++
        ((Service.State.idle.play rehearsal).2.play encore).1, ∃ payer payee,
        Committed deed ⟨1, 1, 2, 30, ⟨0⟩⟩ payer payee) ∧
      ((Service.State.idle.play rehearsal).2.play encore).2.tables.account? 2 =
        some ⟨2, "bob", 130, .usd, true, ⟨0⟩⟩ ∧
      ((((Service.State.idle.play rehearsal).2.play encore).2.tables.accounts.filter
        (·.currency == .usd)).map (·.balance)).sum = 100 * 2 := by
  obtain ⟨committed, frozen, funded⟩ := orders_conserve_funds
    (Service.play_steps .idle rehearsal)
    (Service.play_steps (Service.State.idle.play rehearsal).2 encore)
  refine ⟨committed _ (by decide +kernel), ?_, ?_⟩
  · exact frozen 2 _ (by decide +kernel) rfl (by decide +kernel)
  · have two : ((Service.State.idle.play rehearsal).2.play encore).2.tables.accounts.countP
        (·.currency == .usd) = 2 := by decide +kernel
    rw [funded, two]
    rfl

end Bank

end Countinghouse
