import Countinghouse.Proofs.Bank.Order
import Countinghouse.Proofs.Operation.Undisturbed
import Countinghouse.Proofs.Store.Share

/-!
# Reads reveal the caller's own data only

There are five ways for a caller to read accounts and transfers. `Bank.Reading.answer` is what each
of them answers, as a function of the tables, and `Bank.Reading.Finds` says with what it succeeds.
That is a matter of the caller's share of the tables alone, so a reading tells nothing about the
rest of them.
-/

namespace Countinghouse.Bank

open Attempt

/-- A way to read accounts or transfers. -/
inductive Reading where
  | account (id : Int)
  | accounts
  | deletedAccounts
  | transfersOf (accountId : Int) (page : Page)
  | transferById (id : Int)

namespace Reading

/-- The order for a reading. -/
@[reducible] def order (caller : String) : Reading → Order
  | .account id => .account caller id
  | .accounts => .accounts caller
  | .deletedAccounts => .deletedAccounts caller
  | .transfersOf accountId page => .transfersOf caller accountId page
  | .transferById id => .transferById caller id

/-- What a reading answers. -/
def answer (tables : Tables) (caller : String) :
    (reading : Reading) → Except BankError (reading.order caller).Answer
  | .account id =>
    match tables.account? id with
    | none => .error (.accountNotFound id)
    | some row => if isOwner caller row then .ok row else .error .notAccountOwner
  | .accounts => .ok (tables.accounts.filter fun row => row.owner == caller && !row.isDeleted)
  | .deletedAccounts => .ok (tables.accounts.filter fun row => row.owner == caller && row.isDeleted)
  | .transfersOf accountId page =>
    match tables.account? accountId with
    | none => .error (.invalidAccountId accountId)
    | some row =>
      if isOwner caller row then .ok (tables.listTransfers accountId page.limit page.offset)
      else .error .notAccountOwner
  | .transferById id =>
    match tables.transfer? id with
    | none => .error (.transferNotFound id)
    | some row =>
      if (tables.account? row.fromAccountId).any (isOwner caller) ||
          (tables.account? row.toAccountId).any (isOwner caller) then .ok row
      else .error .notAccountOwner

/-- With what a reading succeeds. -/
def Finds (tables : Tables) (caller : String) :
    (reading : Reading) → (reading.order caller).Answer → Prop
  | .account id, row => tables.account? id = some row ∧ row.owner = caller
  | .accounts, rows =>
    (tables.accounts.filter fun row => row.owner == caller && !row.isDeleted) = rows
  | .deletedAccounts, rows =>
    (tables.accounts.filter fun row => row.owner == caller && row.isDeleted) = rows
  | .transfersOf accountId page, rows => tables.Holds caller accountId ∧
    tables.listTransfers accountId page.limit page.offset = rows
  | .transferById id, row => tables.transfer? id = some row ∧
    (tables.Holds caller row.fromAccountId ∨ tables.Holds caller row.toAccountId)

end Reading

variable {bank : Bank} {tables other : Tables} {caller : String} {clock : Instant → Prop}

/-! ## What a reading answers -/

theorem undisturbed_ownsAccount_bind {α : Type} {next : Bool → Attempt α} {id : Int}
    {post : Tables → Except BankError α → Prop}
    (rest : (next ((tables.account? id).any (isOwner caller))).Undisturbed clock post tables) :
    (ownsAccount caller id >>= next).Undisturbed clock post tables := by
  unfold ownsAccount
  rw [bind_assoc]
  exact .read_bind (fun _ => rfl) rest

/-- Every reading answers what the tables say, and leaves them as they are. -/
theorem undisturbed_reading (bank : Bank) (reading : Reading) :
    (bank.attempt (reading.order caller)).Undisturbed clock
      (fun after result => after = tables ∧ result = reading.answer tables caller) tables := by
  cases reading with
  | account id =>
      unfold attempt Bank.account anyAccount requireOwner
      dsimp only
      rw [bind_assoc]
      refine .read_bind (fun _ => rfl) ?_
      unfold Reading.answer
      dsimp only
      cases tables.account? id with
      | none => exact ⟨rfl, rfl⟩
      | some row =>
          rw [pure_bind]
          dsimp only
          cases isOwner caller row with
          | true => exact ⟨rfl, rfl⟩
          | false => exact fun _ => ⟨rfl, rfl⟩
  | accounts | deletedAccounts => exact fun _ _ => ⟨rfl, rfl⟩
  | transfersOf accountId page =>
      refine .read_bind (fun _ => rfl) ?_
      unfold Reading.answer
      dsimp only
      cases tables.account? accountId with
      | none => exact fun _ => ⟨rfl, rfl⟩
      | some row =>
          dsimp only
          cases isOwner caller row with
          | true => exact fun _ _ => ⟨rfl, rfl⟩
          | false => exact fun _ => ⟨rfl, rfl⟩
  | transferById id =>
      refine .read_bind (fun _ => rfl) ?_
      unfold Reading.answer
      dsimp only
      cases tables.transfer? id with
      | none => exact ⟨rfl, rfl⟩
      | some row =>
          refine undisturbed_ownsAccount_bind ?_
          dsimp only
          cases (tables.account? row.fromAccountId).any (isOwner caller) with
          | true => exact ⟨rfl, rfl⟩
          | false =>
              refine undisturbed_ownsAccount_bind ?_
              cases (tables.account? row.toAccountId).any (isOwner caller) with
              | true => exact ⟨rfl, rfl⟩
              | false => exact fun _ => ⟨rfl, rfl⟩

theorem tryOut_reading (bank : Bank) (reading : Reading) {course : Course}
    (noFault : ∀ met, course.fault? met = none) :
    ((bank.attempt (reading.order caller)).tryOut course tables).1 =
      reading.answer tables caller := by
  have smooth : course.IsSmooth fun _ => True := ⟨noFault, fun _ => trivial⟩
  exact (Attempt.Undisturbed.tryOut smooth (bank.undisturbed_reading reading)).2

/-! ## What a reading finds -/

theorem isOwner_iff {row : Account} : isOwner caller row = true ↔ row.owner = caller :=
  beq_iff_eq.trans eq_comm

theorem any_isOwner_iff {id : Int} :
    (tables.account? id).any (isOwner caller) = true ↔ tables.Holds caller id := by
  simp only [Option.any_eq_true, isOwner_iff, Tables.Holds]

theorem ite_ok_eq_ok_iff {α : Type} {passes : Prop} [Decidable passes] {found value : α}
    {error : BankError} :
    (if passes then Except.ok found else .error error) = .ok value ↔ passes ∧ found = value := by
  split <;> simp [*]

theorem Reading.answer_eq_ok_iff (reading : Reading) {value : (reading.order caller).Answer} :
    reading.answer tables caller = .ok value ↔ reading.Finds tables caller value := by
  cases reading with
  | account id =>
      simp only [answer, Finds]
      cases tables.account? id with
      | none => simp
      | some row =>
          rw [ite_ok_eq_ok_iff, isOwner_iff, Option.some_inj, and_comm]
          exact and_congr_right fun same => same ▸ Iff.rfl
  | accounts | deletedAccounts => simp only [answer, Finds, Except.ok.injEq]
  | transfersOf accountId page =>
      simp only [answer, Finds, ← any_isOwner_iff]
      cases tables.account? accountId with
      | none => simp
      | some row => exact ite_ok_eq_ok_iff
  | transferById id =>
      simp only [answer, Finds, ← any_isOwner_iff]
      cases tables.transfer? id with
      | none => simp
      | some row =>
          rw [ite_ok_eq_ok_iff, Bool.or_eq_true, Option.some_inj, and_comm]
          exact and_congr_right fun same => same ▸ Iff.rfl

/-! ## What a reading reveals -/

/-- What a reading finds is found wherever the caller's share is the same. -/
theorem Reading.Finds.of_sameShare {reading : Reading} {value : (reading.order caller).Answer}
    (finds : reading.Finds tables caller value) (numbered : tables.Numbered)
    (otherNumbered : other.Numbered) (same : Tables.SameShare caller tables other) :
    reading.Finds other caller value := by
  cases reading with
  | account id => exact ⟨same.account? numbered otherNumbered finds.2 finds.1, finds.2⟩
  | accounts =>
      exact (same.filter_accounts numbered otherNumbered (!·.isDeleted)).symm.trans finds
  | deletedAccounts =>
      exact (same.filter_accounts numbered otherNumbered (·.isDeleted)).symm.trans finds
  | transfersOf accountId page =>
      obtain ⟨holds, isListed⟩ := finds
      exact ⟨same.holds numbered otherNumbered holds,
        (same.listTransfers numbered otherNumbered holds _ _).symm.trans isListed⟩
  | transferById id =>
      obtain ⟨found, holdsSource | holdsDestination⟩ := finds
      · have touches : value.touches value.fromAccountId := by simp [Transfer.touches]
        exact ⟨same.transfer? numbered otherNumbered holdsSource touches found,
          .inl (same.holds numbered otherNumbered holdsSource)⟩
      · have touches : value.touches value.toAccountId := by simp [Transfer.touches]
        exact ⟨same.transfer? numbered otherNumbered holdsDestination touches found,
          .inr (same.holds numbered otherNumbered holdsDestination)⟩

/-- Reads reveal the caller's own data only.

In any state of the tables, as long as the store does not fail, a reading of one account or of its
history succeeds only for an account of the caller, and a reading of one transfer exactly when it is
stored and the caller holds its source or its destination. And after any two series of calls that
left the caller with the same accounts and the same transfers that touch them, whatever else they
did, each reading that succeeds in one of the two states succeeds in the other with the same
value. -/
theorem reads_reveal_own_data (bank : Bank) (caller : String) {course otherCourse : Course}
    (noFault : ∀ met, course.fault? met = none)
    (noOtherFault : ∀ met, otherCourse.fault? met = none) :
    (∀ tables : Tables,
      (∀ id row, ((Bank.account caller id).tryOut course tables).1 = .ok row →
        tables.account? id = some row ∧ row.owner = caller) ∧
      (∀ accountId page rows,
        ((transfersOf caller accountId page).tryOut course tables).1 = .ok rows →
          tables.Holds caller accountId) ∧
      ∀ id row, ((transferById caller id).tryOut course tables).1 = .ok row ↔
        tables.transfer? id = some row ∧
          (tables.Holds caller row.fromAccountId ∨ tables.Holds caller row.toAccountId)) ∧
    ∀ calls otherCalls,
      Tables.SameShare caller (Tables.after calls) (Tables.after otherCalls) →
      ∀ (reading : Reading) (value : (reading.order caller).Answer),
        ((bank.attempt (reading.order caller)).tryOut course (Tables.after calls)).1 = .ok value ↔
          ((bank.attempt (reading.order caller)).tryOut otherCourse (Tables.after otherCalls)).1 =
            .ok value := by
  have succeeds (reading : Reading) (value : (reading.order caller).Answer) (tables : Tables) :
      ((bank.attempt (reading.order caller)).tryOut course tables).1 = .ok value ↔
        reading.Finds tables caller value := by
    rw [bank.tryOut_reading reading noFault, reading.answer_eq_ok_iff]
  refine ⟨fun tables => ⟨?_, ?_, ?_⟩, fun calls otherCalls same reading value => ?_⟩
  · exact fun id row => (succeeds (.account id) row tables).mp
  · intro accountId page rows isOk
    exact ((succeeds (.transfersOf accountId page) rows tables).mp isOk).1
  · exact fun id row => succeeds (.transferById id) row tables
  have numbered := Tables.numbered_after calls
  have otherNumbered := Tables.numbered_after otherCalls
  rw [succeeds, bank.tryOut_reading reading noOtherFault, reading.answer_eq_ok_iff]
  exact ⟨fun finds => finds.of_sameShare numbered otherNumbered same,
    fun finds => finds.of_sameShare otherNumbered numbered same.symm⟩

/-- Alice, Bob and Carol open accounts, and Alice pays Bob. -/
def payment : List TimedCall :=
  [.createUser ⟨"alice", "", "A", "a@b.c"⟩, .createUser ⟨"bob", "", "B", "b@b.c"⟩,
    .createUser ⟨"carol", "", "C", "c@b.c"⟩, .createAccount ⟨"alice", .usd, 100⟩,
    .createAccount ⟨"bob", .usd, 100⟩, .createAccount ⟨"carol", .usd, 100⟩,
    .transferFunds 1 2 30].map (⟨⟨0⟩, ·⟩)

/-- Bob pays Carol, who deletes her account. -/
def affairs : List TimedCall := [.transferFunds 2 3 90, .deleteAccount 3].map (⟨⟨9⟩, ·⟩)

/-- What goes on between Bob and Carol is no part of Alice's share. -/
theorem sameShare_affairs :
    Tables.SameShare "alice" (Tables.after payment) (Tables.after (payment ++ affairs)) := by
  have accounts : (Tables.after payment).accounts = [⟨1, "alice", 70, .usd, false, ⟨0⟩⟩,
    ⟨2, "bob", 130, .usd, false, ⟨0⟩⟩, ⟨3, "carol", 100, .usd, false, ⟨0⟩⟩] := by decide +kernel
  have laterAccounts : (Tables.after (payment ++ affairs)).accounts =
    [⟨1, "alice", 70, .usd, false, ⟨0⟩⟩, ⟨2, "bob", 40, .usd, false, ⟨0⟩⟩,
      ⟨3, "carol", 190, .usd, true, ⟨0⟩⟩] := by decide +kernel
  have transfers : (Tables.after payment).transfers = [⟨1, 1, 2, 30, ⟨0⟩⟩] := by decide +kernel
  have laterTransfers : (Tables.after (payment ++ affairs)).transfers =
    [⟨1, 1, 2, 30, ⟨0⟩⟩, ⟨2, 2, 3, 90, ⟨9⟩⟩] := by decide +kernel
  constructor
  · intro account owns
    rw [accounts, laterAccounts]
    grind
  · intro account stored owns transfer touches
    rw [accounts] at stored
    rw [transfers, laterTransfers]
    grind [Transfer.touches]

/-- Alice sees the same history before and after Bob has paid Carol: her own transfer. -/
theorem reads_reveal_own_data_to_alice :
    let history := small.attempt (.transfersOf "alice" 1 ⟨1, 10, by decide, by decide, by decide⟩)
    Tables.SameShare "alice" (Tables.after payment) (Tables.after (payment ++ affairs)) ∧
    (history.tryOut (.standing ⟨0⟩) (Tables.after payment)).1 = .ok [⟨1, 1, 2, 30, ⟨0⟩⟩] ∧
    (history.tryOut (.standing ⟨9⟩) (Tables.after (payment ++ affairs))).1 =
      .ok [⟨1, 1, 2, 30, ⟨0⟩⟩] ∧
    (Tables.after payment).Holds "alice" 1 := by
  intro history
  obtain ⟨everywhere, twice⟩ := @reads_reveal_own_data small "alice" (.standing ⟨0⟩) (.standing ⟨9⟩)
    (fun _ => rfl) (fun _ => rfl)
  have isListed : (history.tryOut (.standing ⟨0⟩) (Tables.after payment)).1 =
      .ok [⟨1, 1, 2, 30, ⟨0⟩⟩] := by decide +kernel
  exact ⟨sameShare_affairs, isListed,
    (twice payment (payment ++ affairs) sameShare_affairs (.transfersOf 1 _) _).mp isListed,
    (everywhere _).2.1 1 _ _ isListed⟩

end Countinghouse.Bank
