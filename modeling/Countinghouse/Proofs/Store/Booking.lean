import Countinghouse.Proofs.Decision
import Countinghouse.Proofs.Store.Keeping
import Countinghouse.Proofs.Store.Range

/-!
# A transfer is booked completely or not at all

`Tables.objections` are what the store looks at before it writes the first row of a transfer, in
this order, and `Tables.transferFunds_decided` says that they decide. `Tables.CarriedOut` is what a
transfer that succeeds leaves: its five rows, each found under its number, and everything else as
it was. How many transfers the numbers last for is known exactly: the entries, of which a transfer
takes two, run out of numbers first.
-/

namespace Countinghouse.Tables

variable {tables : Tables} {now : Instant} {source destination amount : Int}
  {payer payee : Account}

/-! ## What stands against a transfer -/

/-- What stands against a transfer in the store, in the order in which it is looked at. -/
def objections (tables : Tables) (source destination amount : Int) : List (StoreError → Prop) :=
  [fun error => (source = destination ∨ amount ≤ 0) ∧
      error = .internal "transfers check constraint violated",
    fun error => tables.Unavailable source ∧ error = .accountUnavailable source,
    fun error => (∃ payer, tables.activeAccount source = .ok payer ∧
      ¬Fits (payer.balance - amount)) ∧ error = .internal "balance overflow",
    fun error => tables.Unavailable destination ∧ error = .accountUnavailable destination,
    fun error => (∃ payee, tables.activeAccount destination = .ok payee ∧
      ¬Fits (payee.balance + amount)) ∧ error = .internal "balance overflow"]

/-- An account is looked up: it is unavailable, or what comes next decides. -/
theorem decided_activeAccount {Value : Type} {good : Value → Prop} {id : Int}
    {rest : List (StoreError → Prop)} {next : Account → Except StoreError Value}
    (goesOn : ∀ account, tables.activeAccount id = .ok account →
      Decided good rest (next account)) :
    Decided good ((fun error => tables.Unavailable id ∧ error = .accountUnavailable id) :: rest)
      (match tables.activeAccount id with
        | .error error => .error error
        | .ok account => next account) := by
  cases found : tables.activeAccount id with
  | error error => exact .refused (activeAccount_eq_error_iff.mp found)
  | ok account =>
      refine .passed ?_ (goesOn account found)
      intro error stands
      exact stands.1.not_active found

/-- A balance is changed: it leaves the range, or what comes next decides. -/
theorem decided_fit? {Value : Type} {good : Value → Prop} {id : Int} {account : Account}
    {rest : List (StoreError → Prop)} {next : Int → Except StoreError Value}
    (changed : Account → Int) (found : tables.activeAccount id = .ok account)
    (goesOn : Fits (changed account) → Decided good rest (next (changed account))) :
    Decided good ((fun error => (∃ row, tables.activeAccount id = .ok row ∧
        ¬Fits (changed row)) ∧ error = .internal "balance overflow") :: rest)
      (match fit? (changed account) with
        | none => .error (.internal "balance overflow")
        | some balance => next balance) := by
  unfold fit?
  by_cases fits : Fits (changed account)
  · rw [if_pos fits]
    refine .passed ?_ (goesOn fits)
    rintro error ⟨⟨row, isRow, notFits⟩, -⟩
    obtain rfl := Except.ok.inj (found.symm.trans isRow)
    exact notFits fits
  · rw [if_neg fits]
    exact .refused ⟨⟨account, found, fits⟩, rfl⟩

/-- The objections decide on a transfer, and one that none of them stands against is carried
out. -/
theorem transferFunds_decided (now : Instant) (tables : Tables) (source destination amount : Int) :
    Decided (fun movement => ∃ payer payee,
        tables.Transferable source destination amount payer payee ∧
          movement = tables.movement now source destination amount payer payee)
      (tables.objections source destination amount)
      (tables.transferFunds now source destination amount).1 := by
  unfold transferFunds objections
  rw [apply_ite Prod.fst]
  refine .check (fun _ => Iff.rfl) ?_
  intro wellFormed
  obtain ⟨distinct, notPositive⟩ := not_or.mp wellFormed
  -- The balances are known, or one of the objections was made, before the first row is written.
  have balances : Decided (fun balances => ∃ payer payee,
      tables.Transferable source destination amount payer payee ∧
        balances = (payer.balance - amount, payee.balance + amount))
      (tables.objections source destination amount).tail
      (tables.balancesAfter source destination amount) := by
    apply decided_activeAccount
    intro payer payerActive
    apply decided_fit? (·.balance - amount) payerActive
    intro debitFits
    apply decided_activeAccount
    intro payee payeeActive
    apply decided_fit? (·.balance + amount) payeeActive
    intro creditFits
    obtain ⟨payerStored, payerKept⟩ := activeAccount_eq_ok_iff.mp payerActive
    obtain ⟨payeeStored, payeeKept⟩ := activeAccount_eq_ok_iff.mp payeeActive
    exact .accepted ⟨payer, payee, ⟨distinct, Int.not_le.mp notPositive, payerStored, payerKept,
      payeeStored, payeeKept, debitFits, creditFits⟩, rfl⟩
  refine balances.goOn ?_ ?_
  · intro error failed
    rw [failed]
  · rintro _ found ⟨payer, payee, transferable, rfl⟩
    refine ⟨_, ?_, payer, payee, transferable, rfl⟩
    rw [found]
    exact congrArg Prod.fst (book_eq now transferable)

/-- Between two accounts that are available, a transfer of a positive amount can only fail because
a balance leaves its range. -/
theorem eq_overflow_of_active {error : StoreError} (distinct : source ≠ destination)
    (positive : 0 < amount) (payerActive : tables.activeAccount source = .ok payer)
    (payeeActive : tables.activeAccount destination = .ok payee)
    (failed : (tables.transferFunds now source destination amount).1 = .error error) :
    error = .internal "balance overflow" ∧
      (¬Fits (payer.balance - amount) ∨ ¬Fits (payee.balance + amount)) := by
  have decided := transferFunds_decided now tables source destination amount
  rw [failed] at decided
  obtain ⟨objection, member, stands⟩ := decided.exists_of_error
  simp only [objections, List.mem_cons, List.not_mem_nil, or_false] at member
  rcases member with rfl | rfl | rfl | rfl | rfl
  · rcases stands.1 with same | notPositive
    · exact absurd same distinct
    · exact absurd positive (Int.not_lt.mpr notPositive)
  · exact (stands.1.not_active payerActive).elim
  · obtain ⟨⟨row, isRow, misfits⟩, isOverflow⟩ := stands
    obtain rfl := Except.ok.inj (payerActive.symm.trans isRow)
    exact ⟨isOverflow, .inl misfits⟩
  · exact (stands.1.not_active payeeActive).elim
  · obtain ⟨⟨row, isRow, misfits⟩, isOverflow⟩ := stands
    obtain rfl := Except.ok.inj (payeeActive.symm.trans isRow)
    exact ⟨isOverflow, .inr misfits⟩

/-! ## What a transfer leaves -/

/-- What a transfer that succeeds leaves. It answers with five rows, which are the rows stored
under their numbers, and all else is as it was before. -/
structure CarriedOut (now : Instant) (source destination amount : Int) (payer payee : Account)
    (before : Tables) (movement : Movement) (after : Tables) : Prop where
  answer : movement = before.movement now source destination amount payer payee
  fromAccount : after.account? source = some movement.fromAccount
  toAccount : after.account? destination = some movement.toAccount
  transfer : after.transfer? movement.transfer.id = some movement.transfer
  fromEntry : after.entry? movement.fromEntry.id = some movement.fromEntry
  toEntry : after.entry? movement.toEntry.id = some movement.toEntry
  otherAccounts : ∀ id, id ≠ source → id ≠ destination → after.account? id = before.account? id
  accountIds : after.accounts.map (·.id) = before.accounts.map (·.id)
  transfers : after.transfers = before.transfers ++ [movement.transfer]
  entries : after.entries = before.entries ++ [movement.fromEntry, movement.toEntry]
  lastTransferId : after.lastTransferId = before.lastTransferId + 1
  lastEntryId : after.lastEntryId = before.lastEntryId + 2
  users : after.users = before.users
  sessions : after.sessions = before.sessions
  lastAccountId : after.lastAccountId = before.lastAccountId

/-- Where rows are numbered, a transfer that has everything it needs leaves what it should. -/
theorem carriedOut_moved (numbered : tables.Numbered) (now : Instant)
    (transferable : tables.Transferable source destination amount payer payee) :
    CarriedOut now source destination amount payer payee tables
      (tables.movement now source destination amount payer payee)
      (tables.moved now source destination amount payer payee) := by
  have numberedAfter := numbered.moved now source destination amount payer payee
  obtain ⟨-, payerIs⟩ := account?_some transferable.payerStored
  obtain ⟨-, payeeIs⟩ := account?_some transferable.payeeStored
  constructor
  case answer => rfl
  case fromAccount =>
      rw [account?_moved, transferable.payerStored]
      simp [settle, payerIs, movement]
  case toAccount =>
      rw [account?_moved, transferable.payeeStored]
      simp [settle, payeeIs, transferable.distinct.symm, movement]
  case transfer => exact numberedAfter.transfer?_eq_some_iff.mpr ⟨by simp [moved, movement], rfl⟩
  case fromEntry => exact numberedAfter.entry?_eq_some_iff.mpr ⟨by simp [moved, movement], rfl⟩
  case toEntry => exact numberedAfter.entry?_eq_some_iff.mpr ⟨by simp [moved, movement], rfl⟩
  case otherAccounts =>
      intro id notSource notDestination
      rw [account?_moved]
      cases stored : tables.account? id with
      | none => rfl
      | some account =>
          obtain ⟨-, rfl⟩ := account?_some stored
          simp [settle, notSource, notDestination]
  case accountIds => exact map_id_moved ..
  all_goals rfl

/-- The numbers that a transfer computes have 64 bits while fewer than `2 ^ 62` transfers are
committed. The last of them, the number of the second entry, has 64 bits just when this transfer
may still be counted among those. -/
theorem movement_fits (calls : List TimedCall) (amountFits : Fits amount)
    (transferable : (after calls).Transferable source destination amount payer payee)
    (few : (movements calls).length < 2 ^ 62) :
    let movement := (after calls).movement now source destination amount payer payee
    Fits movement.transfer.id ∧ Fits movement.fromEntry.id ∧ Fits movement.fromEntry.amount ∧
      (Fits movement.toEntry.id ↔ (movements calls).length + 1 < 2 ^ 62) := by
  have positive := transferable.positive
  have numbered := numbered_after calls
  have journal := journal_after calls
  have transferCount := numbered.lastTransferId
  have entryCount := numbered.lastEntryId
  rw [journal.transfers, List.length_map] at transferCount
  rw [journal.length_entries] at entryCount
  unfold Fits at *
  simp only [movement]
  omega

theorem isOk_transferFunds_iff (now : Instant) (tables : Tables)
    (source destination amount : Int) :
    (tables.transferFunds now source destination amount).1.isOk ↔
      ∃ payer payee, tables.Transferable source destination amount payer payee := by
  constructor
  · intro isOk
    obtain ⟨error, failed⟩ | ⟨payer, payee, transferable, -⟩ :=
      tables.transferFunds_cases now source destination amount
    · rw [failed] at isOk
      cases isOk
    · exact ⟨payer, payee, transferable⟩
  · rintro ⟨payer, payee, transferable⟩
    rw [transferFunds_eq now transferable]
    rfl

/-- Once the two balances are known, nothing fails: both accounts are found again. -/
theorem isOk_book (now : Instant) {fromBalance toBalance : Int} (distinct : source ≠ destination)
    (positive : 0 < amount)
    (known : tables.balancesAfter source destination amount = .ok (fromBalance, toBalance)) :
    (tables.book now source destination amount fromBalance toBalance).1.isOk := by
  obtain ⟨error, failed⟩ | ⟨payer, payee, payerActive, payeeActive, debitFits, creditFits,
    balances⟩ := tables.balancesAfter_cases source destination amount
  · rw [failed] at known
    cases known
  · obtain ⟨rfl, rfl⟩ := Prod.mk.inj (Except.ok.inj (balances.symm.trans known))
    obtain ⟨payerStored, payerKept⟩ := activeAccount_eq_ok_iff.mp payerActive
    obtain ⟨payeeStored, payeeKept⟩ := activeAccount_eq_ok_iff.mp payeeActive
    rw [book_eq now ⟨distinct, positive, payerStored, payerKept, payeeStored, payeeKept, debitFits,
      creditFits⟩]
    rfl

/-- A transfer is all or nothing. However the store was used, it succeeds just when its ends are
two accounts that are stored and not deleted, its amount is positive and both new balances have 64
bits. It then changes these two balances and adds its rows and nothing else, and what it answers is
what is stored. All that it computes has 64 bits while fewer than `2 ^ 62` transfers are committed,
itself among them. Nothing fails once the balances are known, when the first row is written; and a
transfer that fails leaves the tables as they were, the counters among them. -/
theorem transfer_is_exact (calls : List TimedCall) (now : Instant)
    (source destination amount : Int) :
    let before := after calls
    let result := before.transferFunds now source destination amount
    (result.1.isOk ↔
        ∃ payer payee, before.Transferable source destination amount payer payee) ∧
      (∀ movement, result.1 = .ok movement → ∃ payer payee,
        before.Transferable source destination amount payer payee ∧
        CarriedOut now source destination amount payer payee before movement result.2 ∧
        (Fits amount → (movements calls).length < 2 ^ 62 →
          Fits movement.transfer.id ∧ Fits movement.fromEntry.id ∧
          Fits movement.fromEntry.amount ∧
          (Fits movement.toEntry.id ↔ (movements calls).length + 1 < 2 ^ 62))) ∧
      (∀ fromBalance toBalance, source ≠ destination → 0 < amount →
        before.balancesAfter source destination amount = .ok (fromBalance, toBalance) →
        (before.book now source destination amount fromBalance toBalance).1.isOk) ∧
      ∀ error, result.1 = .error error → result.2 = before := by
  intro before result
  refine ⟨before.isOk_transferFunds_iff now source destination amount, ?changes, ?books, ?fails⟩
  case changes =>
      intro movement isMovement
      obtain ⟨payer, payee, transferable⟩ :=
        (before.isOk_transferFunds_iff now source destination amount).mp
          (show result.1.isOk by rw [isMovement]; rfl)
      rw [show result = _ from transferFunds_eq now transferable] at isMovement ⊢
      obtain rfl := Except.ok.inj isMovement
      refine ⟨payer, payee, transferable, carriedOut_moved (numbered_after calls) now transferable,
        ?_⟩
      intro amountFits few
      exact movement_fits calls amountFits transferable few
  case books =>
      intro fromBalance toBalance distinct positive known
      exact isOk_book now distinct positive known
  case fails =>
      intro error failed
      exact (before.transferFunds_effect now source destination amount).eq_of_error failed

/-- Two accounts within thirty units of the least and of the greatest balance. -/
def extremes : List TimedCall :=
  [.createUser ⟨"alice", "", "A", "a@b.c"⟩, .createUser ⟨"bob", "", "B", "b@b.c"⟩,
    .createAccount ⟨"alice", .usd, -9223372036854775778⟩,
    .createAccount ⟨"bob", .usd, 9223372036854775777⟩].map (⟨⟨0⟩, ·⟩)

/-- Thirty units can be moved between the two accounts and leave both at their limits, and one
unit more cannot. -/
theorem transfer_is_exact_at_extremes :
    let result amount := (after extremes).transferFunds ⟨9⟩ 1 2 amount
    (∃ movement payer payee, (result 30).1 = .ok movement ∧
        CarriedOut ⟨9⟩ 1 2 30 payer payee (after extremes) movement (result 30).2 ∧
        movement.fromAccount.balance = -9223372036854775808 ∧
        movement.toAccount.balance = 9223372036854775807) ∧
      (result 31).1.isOk = false ∧ (result 31).2 = after extremes := by
  intro result
  constructor
  · obtain ⟨succeeds, changes, -, -⟩ := transfer_is_exact extremes ⟨9⟩ 1 2 30
    have isOk : (result 30).1.isOk := succeeds.mpr ⟨_, _, by decide, by decide, rfl, rfl, rfl, rfl,
      by decide, by decide⟩
    cases isMovement : (result 30).1 with
    | error error =>
        rw [isMovement] at isOk
        cases isOk
    | ok movement =>
        obtain ⟨payer, payee, transferable, carriedOut, -⟩ := changes movement isMovement
        obtain rfl := Option.some.inj transferable.payerStored
        obtain rfl := Option.some.inj transferable.payeeStored
        obtain rfl := carriedOut.answer
        exact ⟨_, _, _, rfl, carriedOut, by decide, by decide⟩
  · obtain ⟨-, -, -, fails⟩ := transfer_is_exact extremes ⟨9⟩ 1 2 31
    exact ⟨by decide, fails (.internal "balance overflow") (by decide)⟩

/-! ## The last number -/

/-- Two accounts are opened with nothing on them, and single units are moved from the first to the
second. -/
def payments (count : Nat) : List TimedCall :=
  [.createUser ⟨"alice", "", "A", "a@b.c"⟩, .createUser ⟨"bob", "", "B", "b@b.c"⟩,
    .createAccount ⟨"alice", .usd, 0⟩, .createAccount ⟨"bob", .usd, 0⟩].map (⟨⟨0⟩, ·⟩) ++
  List.replicate count ⟨⟨0⟩, .transferFunds 1 2 1⟩

theorem payments_succ (count : Nat) :
    payments (count + 1) = payments count ++ [⟨⟨0⟩, .transferFunds 1 2 1⟩] := by
  unfold payments
  rw [List.replicate_succ', List.append_assoc]

theorem payments_inRange (count : Nat) : ∀ timed ∈ payments count, timed.call.InRange := by
  intro timed member
  rcases List.mem_append.mp member with isOpening | isPayment
  · obtain ⟨call, isCall, rfl⟩ := List.mem_map.mp isOpening
    simp only [List.mem_cons, List.not_mem_nil, or_false] at isCall
    rcases isCall with rfl | rfl | rfl | rfl
    · trivial
    · trivial
    · exact (by decide : Fits 0)
    · exact (by decide : Fits 0)
  · obtain rfl := List.eq_of_mem_replicate isPayment
    exact ⟨by decide, by decide, by decide⟩

/-- One unit more can be moved, as long as the balances have 64 bits. -/
theorem transferable_payments {count : Nat} (few : count < 2 ^ 63 - 1)
    (payer : (after (payments count)).account? 1 = some ⟨1, "alice", -count, .usd, false, ⟨0⟩⟩)
    (payee : (after (payments count)).account? 2 = some ⟨2, "bob", count, .usd, false, ⟨0⟩⟩) :
    (after (payments count)).Transferable 1 2 1 ⟨1, "alice", -count, .usd, false, ⟨0⟩⟩
      ⟨2, "bob", count, .usd, false, ⟨0⟩⟩ where
  distinct := by decide
  positive := by decide
  payerStored := payer
  payerActive := rfl
  payeeStored := payee
  payeeActive := rfl
  debitFits := by
    unfold Fits
    dsimp only
    omega
  creditFits := by
    unfold Fits
    dsimp only
    omega

/-- Every payment is committed, as long as the balances have 64 bits. -/
theorem after_payments {count : Nat} (few : count < 2 ^ 63) :
    (after (payments count)).account? 1 = some ⟨1, "alice", -count, .usd, false, ⟨0⟩⟩ ∧
      (after (payments count)).account? 2 = some ⟨2, "bob", count, .usd, false, ⟨0⟩⟩ ∧
      (movements (payments count)).length = count := by
  induction count with
  | zero => exact ⟨by decide, by decide, by decide⟩
  | succ count inductionHypothesis =>
      obtain ⟨payer, payee, committed⟩ := inductionHypothesis (by omega)
      have paid := transferFunds_eq ⟨0⟩ (transferable_payments (by omega) payer payee)
      rw [payments_succ, after_concat, movements_concat, List.length_append, committed]
      have isNext : (after (payments count)).next ⟨⟨0⟩, .transferFunds 1 2 1⟩ = _ :=
        congrArg Prod.snd paid
      have isReply : (Access.mk ⟨⟨0⟩, .transferFunds 1 2 1⟩ (after (payments count))).reply = _ :=
        congrArg Prod.fst paid
      rw [isNext, isReply, account?_moved, account?_moved, payer, payee]
      refine ⟨?_, ?_, rfl⟩
      · simp [settle]
        omega
      · simp [settle]

/-- Numbers run out before transfers do. With `2 ^ 62 - 1` transfers committed, all by calls within
the range, one more has everything it needs and is carried out, but the number of its second entry
has more than 64 bits. -/
theorem entry_number_overflows :
    let before := after (payments (2 ^ 62 - 1))
    (∀ timed ∈ payments (2 ^ 62 - 1), timed.call.InRange) ∧
      (movements (payments (2 ^ 62 - 1))).length < 2 ^ 62 ∧
      ∃ payer payee movement, before.Transferable 1 2 1 payer payee ∧
        (before.transferFunds ⟨0⟩ 1 2 1).1 = .ok movement ∧
        ¬Fits movement.toEntry.id := by
  obtain ⟨payer, payee, committed⟩ := @after_payments (2 ^ 62 - 1) (by decide)
  have transferable := transferable_payments (by decide) payer payee
  refine ⟨payments_inRange _, by rw [committed]; decide, _, _, _, transferable,
    congrArg Prod.fst (transferFunds_eq ⟨0⟩ transferable), ?_⟩
  obtain ⟨-, -, -, isWithin⟩ := @movement_fits ⟨0⟩ 1 2 1 _ _ (payments (2 ^ 62 - 1)) (by decide)
    transferable (by rw [committed]; decide)
  rw [isWithin, committed]
  decide

end Countinghouse.Tables
