import Countinghouse.Proofs.Bank.Atomicity
import Countinghouse.Proofs.Operation.Decisive
import Countinghouse.Proofs.Store.Booking

/-!
# What becomes of a payment

A payment is checked against the accounts, then its amount is looked at, and then the store looks
at both accounts again. `Bank.paymentObjections` are all of these checks, in their order, and
`Bank.transfer_decides` says that they decide. Nothing comes between the checks and the store, so
the store finds the accounts as they were checked. It can object to the balances only.
-/

namespace Countinghouse.Bank

open Attempt

variable {clock : Instant → Prop} {tables : Tables} {caller : String}
  {source destination amount : Int} {payer payee : Account}

/-- The accounts that a payment is made between, when the caller may make it. -/
structure Valid (tables : Tables) (caller : String) (source destination : Int)
    (payer payee : Account) : Prop where
  distinct : source ≠ destination
  payerStored : tables.account? source = some payer
  payeeStored : tables.account? destination = some payee
  isOwner : caller = payer.owner
  sameCurrency : payer.currency = payee.currency
  payerActive : payer.isDeleted = false
  payeeActive : payee.isDeleted = false

/-- What a payment needs. There is no lower bound on the balance but that of its 64 bits. -/
structure Payable (tables : Tables) (caller : String) (source destination amount : Int)
    (payer payee : Account) : Prop extends Valid tables caller source destination payer payee where
  positive : 0 < amount
  debit : -9223372036854775808 ≤ payer.balance - amount
  credit : payee.balance + amount ≤ 9223372036854775807

/-- What stands against the accounts of a payment, in the order in which it is looked at. -/
def accountObjections (tables : Tables) (caller : String) (source destination : Int) :
    List (BankError → Prop) :=
  [fun error => source = destination ∧ error = .sameAccountTransfer source destination,
    fun error => tables.account? source = none ∧ error = .accountNotFound source,
    fun error => tables.account? destination = none ∧ error = .accountNotFound destination,
    fun error => (∃ payer, tables.account? source = some payer ∧ caller ≠ payer.owner) ∧
      error = .notAccountOwner,
    fun error => ∃ payer payee, tables.account? source = some payer ∧
      tables.account? destination = some payee ∧ payer.currency ≠ payee.currency ∧
      error = .currencyMismatch payer.currency payee.currency,
    fun error => (∃ payer, tables.account? source = some payer ∧ payer.isDeleted = true) ∧
      error = .accountDeleted source,
    fun error => (∃ payee, tables.account? destination = some payee ∧ payee.isDeleted = true) ∧
      error = .accountDeleted destination]

/-- What stands against the amount of a payment. -/
def amountObjections (tables : Tables) (source destination amount : Int) :
    List (BankError → Prop) :=
  [fun error => amount ≤ 0 ∧ error = .invalidAmount amount,
    fun error => (∃ payer payee, tables.account? source = some payer ∧
      tables.account? destination = some payee ∧
      (payer.balance - amount < -9223372036854775808 ∨
        9223372036854775807 < payee.balance + amount)) ∧
      error = .storage (.internal "balance overflow")]

/-- All that can stand against a payment, in order. -/
def paymentObjections (tables : Tables) (caller : String) (source destination amount : Int) :
    List (BankError → Prop) :=
  accountObjections tables caller source destination ++
    amountObjections tables source destination amount

/-- The checks of the accounts decide whether they are valid. -/
theorem validateTransfer_decides (tables : Tables) (caller : String) (source destination : Int) :
    (validateTransfer caller source destination).Decides clock
      (fun after accounts =>
        after = tables ∧ Valid tables caller source destination accounts.1 accounts.2)
      (accountObjections tables caller source destination) tables := by
  unfold validateTransfer refuseTransfer accountObjections
  apply Decides.check (fun _ => Iff.rfl)
  intro distinct
  apply Undisturbed.read_bind (fun _ => rfl)
  cases payerStored : tables.account? source with
  | none => exact Decides.rejects ⟨rfl, rfl⟩
  | some payer =>
      have payerIs := (Tables.account?_some payerStored).2
      apply Decides.objects (by simp)
      apply Undisturbed.read_bind (fun _ => rfl)
      cases payeeStored : tables.account? destination with
      | none => exact Decides.rejects ⟨rfl, rfl⟩
      | some payee =>
          have payeeIs := (Tables.account?_some payeeStored).2
          apply Decides.objects (by simp)
          apply Decides.check (by simp [isOwner])
          intro owns
          apply Decides.check (by simp)
          intro sameCurrency
          apply Decides.check (by simp [payerIs])
          intro payerActive
          apply Decides.check (by simp [payeeIs])
          intro payeeActive
          apply Decides.accepts
          exact ⟨rfl, distinct, payerStored, payeeStored, by simpa [isOwner] using owns,
            not_not.mp sameCurrency, Bool.eq_false_iff.mpr payerActive,
            Bool.eq_false_iff.mpr payeeActive⟩

/-- What a payment leaves when it succeeds. -/
def Paid (tables : Tables) (caller : String) (source destination amount : Int) (after : Tables)
    (movement : Movement) : Prop :=
  ∃ payer payee, Payable tables caller source destination amount payer payee ∧
    ∃ now, tables.CarriedOut now source destination amount payer payee movement after

/-- Between valid accounts the amount and the balances decide. -/
theorem createTransfer_decides (numbered : tables.Numbered) (inRange : tables.InRange)
    (valid : Valid tables caller source destination payer payee) :
    (createTransfer source destination amount).Decides clock
      (Paid tables caller source destination amount)
      (amountObjections tables source destination amount) tables := by
  have payerFits := inRange.balances payer (Tables.account?_some valid.payerStored).1
  have payeeFits := inRange.balances payee (Tables.account?_some valid.payeeStored).1
  unfold createTransfer amountObjections
  apply Decides.check (fun _ => Iff.rfl)
  intro notPositive
  have positive := Int.not_le.mp notPositive
  apply undisturbed_lift_call_bind.mpr
  intro now _
  obtain ⟨error, failed⟩ | ⟨_, _, transferable, done⟩ :=
    tables.transferFunds_cases now source destination amount
  · -- The store finds the accounts active, so a balance is what it objects to.
    obtain ⟨rfl, misfits⟩ := Tables.eq_overflow_of_active valid.distinct positive
      (Tables.activeAccount_eq_ok_iff.mpr ⟨valid.payerStored, valid.payerActive⟩)
      (Tables.activeAccount_eq_ok_iff.mpr ⟨valid.payeeStored, valid.payeeActive⟩)
      (congrArg Prod.fst failed)
    rw [show Tables.perform now (.transferFunds source destination amount) tables = _ from failed]
    apply Decides.rejects
    refine ⟨⟨payer, payee, valid.payerStored, valid.payeeStored, ?_⟩, rfl⟩
    unfold Fits at *
    omega
  · obtain rfl := Option.some.inj (valid.payerStored.symm.trans transferable.payerStored)
    obtain rfl := Option.some.inj (valid.payeeStored.symm.trans transferable.payeeStored)
    rw [show Tables.perform now (.transferFunds source destination amount) tables = _ from done]
    apply undisturbed_report_bind.mpr
    have debit := transferable.debitFits.1
    have credit := transferable.creditFits.2
    apply Decided.passed
    · rintro _ ⟨⟨otherPayer, otherPayee, payerStored, payeeStored, leaves⟩, -⟩
      obtain rfl := Option.some.inj (valid.payerStored.symm.trans payerStored)
      obtain rfl := Option.some.inj (valid.payeeStored.symm.trans payeeStored)
      omega
    · exact .accepted ⟨payer, payee, ⟨valid, positive, debit, credit⟩, now,
        Tables.carriedOut_moved numbered now transferable⟩

/-- The checks decide on a payment. -/
theorem transfer_decided (numbered : tables.Numbered) (inRange : tables.InRange) :
    (transfer caller source destination amount).Decides clock
      (Paid tables caller source destination amount)
      (paymentObjections tables caller source destination amount) tables := by
  unfold transfer
  apply Decides.bind (validateTransfer_decides tables caller source destination)
  rintro ⟨payer, payee⟩ valid
  obtain ⟨-, payerIs⟩ := Tables.account?_some valid.payerStored
  obtain ⟨-, payeeIs⟩ := Tables.account?_some valid.payeeStored
  dsimp only
  rw [payerIs, payeeIs]
  exact createTransfer_decides numbered inRange valid

/-- Nothing is objected to a payment that has what it needs. -/
theorem Payable.falls (payable : Payable tables caller source destination amount payer payee) :
    ∀ objection ∈ paymentObjections tables caller source destination amount,
      ∀ error, ¬objection error := by
  have debit := payable.debit
  have credit := payable.credit
  simp only [paymentObjections, accountObjections, amountObjections, payable.payerStored,
    payable.payeeStored, List.cons_append, List.nil_append, List.forall_mem_cons]
  simp [payable.distinct, payable.isOwner, payable.sameCurrency, payable.payerActive,
    payable.payeeActive, payable.positive, debit, credit]

/-- A payment is decided by its checks. Nothing being done in between, it succeeds just when it has
all that it needs, and then moves the two balances and answers with what is stored. Else the first
objection that stands is what it fails with, and nothing has changed. That an account became
unavailable is never what the store objects. -/
theorem payment_is_decided (calls : List TimedCall)
    (callsInRange : ∀ timed ∈ calls, timed.call.InRange) {course : Course}
    (noFault : ∀ met, course.fault? met = none) (caller : String)
    (source destination amount : Int) :
    let before := Tables.after calls
    let result := ((transfer caller source destination amount).tryOut course before).1
    let after := ((transfer caller source destination amount).tryOut course before).2.tables
    (result.isOk ↔
        ∃ payer payee, Payable before caller source destination amount payer payee) ∧
      Decided (Paid before caller source destination amount after)
        (paymentObjections before caller source destination amount) result ∧
      ∀ error, result = .error error →
        after = before ∧ ∀ id, error ≠ .storage (.accountUnavailable id) := by
  intro before result after
  have smooth : course.IsSmooth fun _ => True := ⟨noFault, fun _ => trivial⟩
  have decided : Decided (Paid before caller source destination amount after)
      (paymentObjections before caller source destination amount) result :=
    (transfer_decided (Tables.numbered_after calls)
      (Tables.inRange_after calls callsInRange)).tryOut smooth
  refine ⟨?_, decided, ?_⟩
  · constructor
    · intro isOk
      cases isResult : result with
      | error error =>
          rw [isResult] at isOk
          cases isOk
      | ok movement =>
          rw [isResult] at decided
          obtain ⟨payer, payee, payable, -⟩ := decided.good_of_ok
          exact ⟨payer, payee, payable⟩
    · rintro ⟨payer, payee, payable⟩
      exact decided.isOk_iff.mpr payable.falls
  · intro error failed
    rw [failed] at decided
    refine ⟨((transfer_atomic caller source destination amount).tryOut course).1 error failed, ?_⟩
    rintro id rfl
    obtain ⟨objection, member, stands⟩ := decided.exists_of_error
    simp only [paymentObjections, accountObjections, amountObjections, List.cons_append,
      List.nil_append, List.mem_cons, List.not_mem_nil, or_false] at member
    rcases member with rfl | rfl | rfl | rfl | rfl | rfl | rfl | rfl | rfl <;> simp at stands

/-- At the extremes Alice can pay Bob thirty units, and not one more. Bob is told that he does not own
her account before anybody looks at his amount. -/
theorem payment_is_decided_at_extremes :
    let before := Tables.after Tables.extremes
    let pay (caller : String) (amount : Int) :=
      (transfer caller 1 2 amount).tryOut (.standing ⟨9⟩) before
    (∃ movement, (pay "alice" 30).1 = .ok movement ∧
        Paid before "alice" 1 2 30 (pay "alice" 30).2.tables movement) ∧
      (pay "alice" 31).1 = .error (.storage (.internal "balance overflow")) ∧
      (pay "alice" 31).2.tables = before ∧
      (pay "bob" 0).1 = .error .notAccountOwner := by
  intro before pay
  have callsInRange : ∀ timed ∈ Tables.extremes, timed.call.InRange := by
    simp [Tables.extremes, StoreCall.InRange, Fits]
  have isDecided := @payment_is_decided Tables.extremes callsInRange (.standing ⟨9⟩) (fun _ => rfl)
  refine ⟨?_, by decide +kernel, ?_, by decide +kernel⟩
  · obtain ⟨succeeds, decided, -⟩ := isDecided "alice" 1 2 30
    have isOk : (pay "alice" 30).1.isOk := succeeds.mpr ⟨_, _, ⟨by decide, rfl, rfl, rfl, rfl, rfl,
      rfl⟩, by decide, by decide, by decide⟩
    cases isResult : (pay "alice" 30).1 with
    | error error =>
        rw [isResult] at isOk
        cases isOk
    | ok movement =>
        rw [show (Attempt.tryOut _ _ _).1 = _ from isResult] at decided
        exact ⟨movement, rfl, decided.good_of_ok⟩
  · obtain ⟨-, -, fails⟩ := isDecided "alice" 1 2 31
    exact (fails (.storage (.internal "balance overflow")) (by decide +kernel)).1

end Countinghouse.Bank
