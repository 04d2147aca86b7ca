import Countinghouse.Proofs.Operation.Undisturbed
import Countinghouse.Proofs.Store.Support

/-!
# Attempts that run into no guard

The bank has guards of its own behind the rules for requests: for a user who is not there, a text that
is no currency, an amount or a page out of bounds, and a session that is not that of its token. A
failure at one of them, or at one of the store's, is defensive. `Attempt.Harmless` judges an attempt
that is not disturbed: it does not fail like this, and `post` holds of the tables and its value when
it succeeds. One rule for each way to build an attempt follows.
-/

namespace Countinghouse

variable {α β : Type} {clock : Instant → Prop} {tables : Tables}

/-- The failure is that of a guard against what others have seen to. -/
inductive BankError.IsDefensive : BankError → Prop where
  | userNotFound (username : String) : IsDefensive (.userNotFound username)
  | unsupportedCurrency (code : String) : IsDefensive (.unsupportedCurrency code)
  | invalidAmount (amount : Int) : IsDefensive (.invalidAmount amount)
  | invalidPagination (reason : String) : IsDefensive (.invalidPagination reason)
  | mismatchedRefreshTokens : IsDefensive .mismatchedRefreshTokens
  | storage {error : StoreError} (isDefensive : error.IsDefensive) : IsDefensive (.storage error)

theorem BankError.not_isDefensive_storage {error : StoreError} (harmless : ¬error.IsDefensive) :
    ¬(BankError.storage error).IsDefensive := by
  rintro ⟨⟩
  exact harmless ‹_›

namespace Attempt

/-- Where an attempt may end: with a value and `post`, or with a failure that is not defensive. -/
def Safely (post : Tables → α → Prop) (after : Tables) : Except BankError α → Prop
  | .ok value => post after value
  | .error error => ¬error.IsDefensive

/-- While it is not disturbed the attempt does not run into a guard, and `post` holds in the end when
it succeeds. -/
def Harmless (clock : Instant → Prop) (attempt : Attempt α) (post : Tables → α → Prop)
    (tables : Tables) : Prop :=
  attempt.Undisturbed clock (Safely post) tables

variable {post : Tables → β → Prop} {event : Event} {error : BankError}

@[simp] theorem harmless_pure {value : β} :
    Harmless clock (pure value) post tables ↔ post tables value := Iff.rfl

@[simp] theorem harmless_throw :
    Harmless clock (throw error) post tables ↔ ¬error.IsDefensive := Iff.rfl

@[simp] theorem harmless_reject :
    Harmless clock (reject event error) post tables ↔ ¬error.IsDefensive := undisturbed_reject

theorem harmless_reject_bind {next : α → Attempt β} :
    Harmless clock (reject event error >>= next) post tables ↔ ¬error.IsDefensive :=
  ⟨fun harmless => harmless (), fun isHarmless _ => isHarmless⟩

@[simp] theorem harmless_report_bind {next : Unit → Attempt β} :
    Harmless clock (report event >>= next) post tables ↔ (next ()).Harmless clock post tables :=
  undisturbed_report_bind

theorem harmless_now_bind {next : Instant → Attempt β} :
    Harmless clock (ExceptT.lift Operation.now >>= next) post tables ↔
      ∀ now, clock now → (next now).Harmless clock post tables := Iff.rfl

theorem harmless_freshId_bind {next : Uuid → Attempt β} :
    Harmless clock (ExceptT.lift Operation.freshId >>= next) post tables ↔
      ∀ id, (next id).Harmless clock post tables := Iff.rfl

theorem harmless_freshSalt_bind {next : List UInt8 → Attempt β} :
    Harmless clock (ExceptT.lift Operation.freshSalt >>= next) post tables ↔
      ∀ salt, (next salt).Harmless clock post tables := Iff.rfl

theorem harmless_lift_call_bind {call : StoreCall} {next : Except StoreError call.Reply → Attempt β} :
    Harmless clock (ExceptT.lift (Operation.call call) >>= next) post tables ↔ ∀ now, clock now →
      (next (Tables.perform now call tables).1).Harmless clock post
        (Tables.perform now call tables).2 := Iff.rfl

theorem Harmless.mono {attempt : Attempt β} {weaker : Tables → β → Prop}
    (harmless : attempt.Harmless clock post tables)
    (implies : ∀ after value, post after value → weaker after value) :
    attempt.Harmless clock weaker tables := by
  refine Operation.Undisturbed.mono harmless fun after result safely => ?_
  cases result with
  | ok value => exact implies after value safely
  | error error => exact safely

/-- A result that is already known. -/
theorem Harmless.ofExcept {result : Except BankError β}
    (fails : ∀ error, result = .error error → ¬error.IsDefensive)
    (succeeds : ∀ value, result = .ok value → post tables value) :
    Harmless clock (ofExcept result) post tables := by
  cases result with
  | ok value => exact succeeds value rfl
  | error error => exact fails error rfl

/-- One attempt after another. -/
theorem Harmless.bind {attempt : Attempt α} {next : α → Attempt β} {middle : Tables → α → Prop}
    (first : attempt.Harmless clock middle tables)
    (second : ∀ after value, middle after value → (next value).Harmless clock post after) :
    (attempt >>= next).Harmless clock post tables := by
  refine Undisturbed.bind first fun after result safely => ?_
  cases result with
  | ok value => exact second after value safely
  | error error => exact safely

/-- A part that changes nothing, and what comes after it. -/
theorem Harmless.after {attempt : Attempt α} {next : α → Attempt β} {well : α → Prop}
    (first : attempt.Harmless clock (fun after value => after = tables ∧ well value) tables)
    (second : ∀ value, well value → (next value).Harmless clock post tables) :
    (attempt >>= next).Harmless clock post tables := by
  refine first.bind ?_
  rintro _ value ⟨rfl, isWell⟩
  exact second value isWell

/-- A check before the rest. -/
theorem Harmless.refuse {condition : Prop} [Decidable condition] {next : α → Attempt β}
    {rest : Attempt β} (harmless : condition → ¬error.IsDefensive)
    (passed : ¬condition → rest.Harmless clock post tables) :
    Harmless clock (if condition then reject event error >>= next else rest) post tables := by
  split
  · next holds => exact harmless_reject_bind.mpr (harmless holds)
  · next fails => exact passed fails

/-- A call for which the tables hold what it relies on. -/
theorem Harmless.call_bind {call : StoreCall} {next : call.Reply → Attempt β}
    (supports : tables.Supports call)
    (goesOn : ∀ now, clock now → ∀ reply, (Tables.perform now call tables).1 = .ok reply →
      (next reply).Harmless clock post (Tables.perform now call tables).2) :
    (Attempt.call call >>= next).Harmless clock post tables :=
  undisturbed_call_bind.mpr fun now inTime => ⟨goesOn now inTime, fun _ failed =>
    BankError.not_isDefensive_storage (Tables.not_isDefensive_of_perform supports failed)⟩

/-- A call that is answered from the tables and leaves them as they are. -/
theorem Harmless.read_bind {call : StoreCall} {reply : call.Reply} {next : call.Reply → Attempt β}
    (answers : ∀ now, Tables.perform now call tables = (.ok reply, tables))
    (goesOn : (next reply).Harmless clock post tables) :
    (Attempt.call call >>= next).Harmless clock post tables :=
  Undisturbed.read_bind answers goesOn

/-- A call that is the last. -/
theorem Harmless.call {call : StoreCall} {post : Tables → call.Reply → Prop}
    (supports : tables.Supports call)
    (holds : ∀ now, clock now → ∀ reply, (Tables.perform now call tables).1 = .ok reply →
      post (Tables.perform now call tables).2 reply) :
    (Attempt.call call).Harmless clock post tables := by
  rw [← bind_pure (Attempt.call call)]
  exact .call_bind supports holds

end Attempt

end Countinghouse
