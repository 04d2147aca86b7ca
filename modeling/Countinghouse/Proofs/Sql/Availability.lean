import Countinghouse.Proofs.Sql.Database
import Countinghouse.Proofs.Store.Booking

/-!
# Transfers with an end that is unavailable

A transfer with an account that is missing or deleted fails in both stores and leaves all rows as
they were, but it need not fail for that reason. The store in memory looks at the balance of the
source before it looks for the destination. The store on a server adds a transfer before it looks
for either account, so the schema is what a missing account meets with first, and it looks at the
balance of the one account before it looks at whether the other is deleted.
-/

namespace Countinghouse

variable {tables : Tables} {source destination amount : Int} {error : StoreError}

/-- The error says that an account is unavailable, and names one that is. -/
def Tables.Reported (tables : Tables) (error : StoreError) : Prop :=
  ∃ id, tables.Unavailable id ∧ error = .accountUnavailable id

namespace Tables

/-! ## In memory -/

/-- Why a transfer with an end that is unavailable fails in memory. -/
inductive Withheld (tables : Tables) (source destination amount : Int) : StoreError → Prop where
  | source (unavailable : tables.Unavailable source) :
      Withheld tables source destination amount (.accountUnavailable source)
  | overflow {payer : Account} (active : tables.activeAccount source = .ok payer)
      (misfits : ¬Fits (payer.balance - amount)) :
      Withheld tables source destination amount (.internal "balance overflow")
  | destination {payer : Account} (active : tables.activeAccount source = .ok payer)
      (fits : Fits (payer.balance - amount)) (unavailable : tables.Unavailable destination) :
      Withheld tables source destination amount (.accountUnavailable destination)

/-- Where one end is unavailable, nothing is written. -/
theorem transferFunds_withheld (now : Instant) (distinct : source ≠ destination)
    (positive : 0 < amount)
    (unavailable : tables.Unavailable source ∨ tables.Unavailable destination) :
    ∃ error, tables.transferFunds now source destination amount = (.error error, tables) ∧
      tables.Withheld source destination amount error := by
  have wellFormed : ¬(source = destination ∨ amount ≤ 0) :=
    not_or.mpr ⟨distinct, Int.not_le.mpr positive⟩
  unfold transferFunds balancesAfter
  rw [if_neg wellFormed]
  cases activeSource : tables.activeAccount source with
  | error refusal =>
      obtain ⟨isUnavailable, rfl⟩ := activeAccount_eq_error_iff.mp activeSource
      exact ⟨_, rfl, .source isUnavailable⟩
  | ok payer =>
      have isUnavailable : tables.Unavailable destination :=
        unavailable.resolve_left fun unavailable => unavailable.not_active activeSource
      have missing := activeAccount_eq_error_iff.mpr ⟨isUnavailable, rfl⟩
      by_cases fits : Fits (payer.balance - amount)
      · exact ⟨_, by simp only [fit?, if_pos fits, missing],
          .destination activeSource fits isUnavailable⟩
      · exact ⟨_, by simp only [fit?, if_neg fits], .overflow activeSource fits⟩

/-- In memory, the reason is given unless the source could not be debited. -/
theorem Withheld.reported_iff (withheld : tables.Withheld source destination amount error) :
    tables.Reported error ↔
      ∀ payer, tables.activeAccount source = .ok payer → Fits (payer.balance - amount) := by
  cases withheld with
  | source unavailable =>
      constructor
      · intro _ payer active
        exact (unavailable.not_active active).elim
      · intro _
        exact ⟨source, unavailable, rfl⟩
  | overflow active misfits =>
      constructor
      · rintro ⟨_, -, ⟨⟩⟩
      · intro fits
        exact absurd (fits _ active) misfits
  | destination active fits unavailable =>
      constructor
      · intro _ payer alsoActive
        obtain rfl := Except.ok.inj (active.symm.trans alsoActive)
        exact fits
      · intro _
        exact ⟨destination, unavailable, rfl⟩

end Tables

/-! ## On a server -/

namespace Database

/-- Where one end is unavailable, so is the one with the lesser number or the other. -/
theorem unavailable_min_or_max
    (unavailable : tables.Unavailable source ∨ tables.Unavailable destination) :
    tables.Unavailable (min source destination) ∨ tables.Unavailable (max source destination) := by
  rcases le_total source destination with le | le
  · rwa [min_eq_left le, max_eq_right le]
  · rw [min_eq_right le, max_eq_left le]
    exact unavailable.symm

/-- On a server, the reason is given if both accounts are stored, unless the balance of the one that
is looked at first could not be changed. -/
theorem Declined.reported_iff (declined : Declined tables source destination amount error)
    (distinct : source ≠ destination) (positive : 0 < amount)
    (unavailable : tables.Unavailable source ∨ tables.Unavailable destination) :
    tables.Reported error ↔ Known tables source ∧ Known tables destination ∧
      ∀ row, tables.activeAccount (min source destination) = .ok row →
        Fits (row.balance + share source amount (min source destination)) := by
  cases declined with
  | forbidden forbidden =>
      constructor
      · rintro ⟨id, -, rfl⟩
        cases forbidden
      · rintro ⟨sourceKnown, destinationKnown, -⟩
        exact absurd ⟨positive, distinct, sourceKnown, destinationKnown⟩ forbidden.not_allowed
  | refused allowed refused =>
      have known : Known tables source ∧ Known tables destination :=
        ⟨allowed.sourceKnown, allowed.destinationKnown⟩
      rcases refused with first | ⟨⟨one, isOne⟩, second⟩
      · cases first with
        | unavailable isUnavailable =>
            constructor
            · intro _
              refine ⟨known.1, known.2, ?_⟩
              intro row active
              exact (isUnavailable.not_active active).elim
            · intro _
              exact ⟨_, isUnavailable, rfl⟩
        | overflow active misfits =>
            constructor
            · rintro ⟨_, -, ⟨⟩⟩
            · rintro ⟨-, -, fits⟩
              exact absurd (fits _ active) misfits
      · have isUnavailable : tables.Unavailable (max source destination) :=
          (unavailable_min_or_max unavailable).resolve_left fun isUnavailable =>
            isUnavailable.not_active isOne.active
        cases second with
        | unavailable =>
            constructor
            · intro _
              refine ⟨known.1, known.2, ?_⟩
              intro row active
              obtain rfl := Except.ok.inj (isOne.active.symm.trans active)
              exact isOne.isFitting
            · intro _
              exact ⟨_, isUnavailable, rfl⟩
        | overflow active => exact (isUnavailable.not_active active).elim

end Database

namespace Sql

variable {others : Statement → Tables → Except ServerError SqlOutcome × Tables}

/-- A transfer with an end that is missing or deleted fails in both stores, and all rows stay as
they were. The store in memory says that the account is unavailable unless the source could not be
debited. The store on a server says so if both accounts are stored, unless the balance of the one
with the lesser number could not be changed. Otherwise it is the balance, or the key that refers to
no account, that is reported. -/
theorem unavailable_account_is_refused (serverNow now : Instant) (distinct : source ≠ destination)
    (positive : 0 < amount)
    (unavailable : tables.Unavailable source ∨ tables.Unavailable destination) :
    (∃ error, Tables.perform now (.transferFunds source destination amount) tables =
        (.error error, tables) ∧
      tables.Withheld source destination amount error ∧
      (tables.Reported error ↔
        ∀ payer, tables.activeAccount source = .ok payer → Fits (payer.balance - amount))) ∧
    (Database.Numberable tables → ∃ error after,
      backend (Database.serve others serverNow) (.transferFunds source destination amount)
          ⟨tables, .none⟩ = (.error error, ⟨Database.undo tables after, .none⟩) ∧
      Database.Declined tables source destination amount error ∧
      (tables.Reported error ↔
        Database.Known tables source ∧ Database.Known tables destination ∧
        ∀ row, tables.activeAccount (min source destination) = .ok row →
          Fits (row.balance + Database.share source amount (min source destination)))) := by
  constructor
  · obtain ⟨error, isResult, withheld⟩ :=
      Tables.transferFunds_withheld now distinct positive unavailable
    exact ⟨error, isResult, withheld, withheld.reported_iff⟩
  · intro numberable
    have ends : Database.Ends tables _ _ ((book source destination amount).runOn
        (Database.serve others serverNow) ⟨tables, .running tables⟩) :=
      Database.ends_book numberable source destination amount
    rcases Database.runOn_transaction ends with
      ⟨_, _, ⟨payer, payee, transferable, -⟩, -⟩ | ⟨error, after, declined, isResult⟩
    · obtain ⟨-, isOpen⟩ := Database.transferable_iff.mp transferable
      rcases unavailable with unavailable | unavailable
      · exact (unavailable.not_active isOpen.payer.active).elim
      · exact (unavailable.not_active isOpen.payee.active).elim
    · exact ⟨error, after, isResult, declined,
        declined.reported_iff distinct positive unavailable⟩

/-- Alice and Bob open accounts, and Bob's is deleted. -/
def departure : List TimedCall :=
  [.createUser ⟨"alice", "", "A", "a@b.c"⟩, .createUser ⟨"bob", "", "B", "b@b.c"⟩,
    .createAccount ⟨"alice", .usd, 100⟩, .createAccount ⟨"bob", .usd, 100⟩,
    .deleteAccount 2].map (⟨⟨0⟩, ·⟩)

/-- Both stores say that Bob's account is unavailable, as Alice has enough to pay him. -/
theorem unavailable_account_is_refused_after_departure :
    let tables := Tables.after departure
    (∃ error, Tables.perform ⟨9⟩ (.transferFunds 1 2 30) tables = (.error error, tables) ∧
        tables.Reported error) ∧
      ∃ error after, backend (Database.serve (fun _ tables => (.error .aborted, tables)) ⟨9⟩)
          (.transferFunds 1 2 30) ⟨tables, .none⟩ =
            (.error error, ⟨Database.undo tables after, .none⟩) ∧
        tables.Reported error := by
  intro tables
  have stored : tables.accounts = [⟨1, "alice", 100, .usd, false, ⟨0⟩⟩,
    ⟨2, "bob", 100, .usd, true, ⟨0⟩⟩] := by decide +kernel
  have isAlice : tables.account? 1 = some ⟨1, "alice", 100, .usd, false, ⟨0⟩⟩ := by
    rw [Tables.account?, stored]
    rfl
  have isBob : tables.account? 2 = some ⟨2, "bob", 100, .usd, true, ⟨0⟩⟩ := by
    rw [Tables.account?, stored]
    rfl
  have unavailable : tables.Unavailable 2 := by
    intro account isAccount
    obtain rfl := Option.some.inj (isBob.symm.trans isAccount)
    rfl
  have fits : ∀ payer, tables.activeAccount 1 = .ok payer → Fits (payer.balance + -30) := by
    intro payer active
    obtain ⟨isStored, -⟩ := Tables.activeAccount_eq_ok_iff.mp active
    obtain rfl := Option.some.inj (isAlice.symm.trans isStored)
    decide
  have numberable : Database.Numberable tables := by
    constructor
    · rw [stored]
      decide
    · decide +kernel
    · decide +kernel
    · constructor
      · decide +kernel
      · decide +kernel
  obtain ⟨⟨error, isResult, -, reported⟩, onServer⟩ :=
    @unavailable_account_is_refused tables 1 2 30 (fun _ tables => (.error .aborted, tables)) ⟨9⟩ ⟨9⟩
      (by decide) (by decide) (.inr unavailable)
  obtain ⟨serverError, after, isServerResult, -, serverReported⟩ := onServer numberable
  exact ⟨⟨error, isResult, reported.mpr fits⟩, serverError, after, isServerResult,
    serverReported.mpr ⟨⟨_, isAlice⟩, ⟨_, isBob⟩, fits⟩⟩

/-- Alice opens an account with the least balance there is. -/
def overdrawn : List TimedCall :=
  [.createUser ⟨"alice", "", "A", "a@b.c"⟩,
    .createAccount ⟨"alice", .usd, -9223372036854775808⟩].map (⟨⟨0⟩, ·⟩)

/-- When she pays into an account that is missing, neither store says that it is. -/
theorem missing_account_is_not_reported :
    let tables := Tables.after overdrawn
    tables.Unavailable 99 ∧
      (∃ error, (Tables.perform ⟨9⟩ (.transferFunds 1 99 1) tables).1 = .error error ∧
        ¬tables.Reported error) ∧
      ∃ error, (backend (Database.serve (fun _ tables => (.error .aborted, tables)) ⟨9⟩)
          (.transferFunds 1 99 1) ⟨tables, .none⟩).1 = .error error ∧ ¬tables.Reported error := by
  intro tables
  have missing : tables.account? 99 = none := by decide +kernel
  refine ⟨?_, ⟨.internal "balance overflow", by decide +kernel, ?_⟩,
    .foreignKeyViolation "transfers_to_account_id_fkey", by decide +kernel, ?_⟩
  · intro account stored
    rw [missing] at stored
    cases stored
  · rintro ⟨_, -, ⟨⟩⟩
  · rintro ⟨_, -, ⟨⟩⟩

end Sql

end Countinghouse
