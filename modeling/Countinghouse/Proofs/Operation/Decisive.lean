import Countinghouse.Proofs.Decision
import Countinghouse.Proofs.Operation.Undisturbed

/-!
# Attempts that objections decide

An attempt makes its checks one after another, each against what it has learned before.
`Attempt.Decides` says that objections decide on its result while nothing disturbs it. There is one
rule for each way in which checks follow one another.
-/

namespace Countinghouse.Attempt

variable {α β : Type} {clock : Instant → Prop} {tables : Tables}

/-- While the attempt is not disturbed, the first objection that stands is what it fails with, and
when none stands it ends with a value that is good in the tables that it leaves. -/
def Decides (clock : Instant → Prop) (attempt : Attempt α) (good : Tables → α → Prop)
    (objections : List (BankError → Prop)) (tables : Tables) : Prop :=
  attempt.Undisturbed clock (fun after => Decided (good after) objections) tables

namespace Decides

variable {attempt : Attempt α} {good : Tables → α → Prop} {objections : List (BankError → Prop)}

theorem tryOut {course : Course} (decides : attempt.Decides clock good objections tables)
    (smooth : course.IsSmooth clock) :
    Decided (good (attempt.tryOut course tables).2.tables) objections
      (attempt.tryOut course tables).1 :=
  Undisturbed.tryOut smooth decides

theorem accepts {value : α} (isGood : good tables value) :
    Decides clock (pure value) good [] tables :=
  Decided.accepted isGood

/-- An attempt that fails when the first objection stands, and else is decided by the rest. -/
theorem objects {objection : BankError → Prop} {rest : List (BankError → Prop)}
    (falls : ∀ error, ¬objection error) (decides : attempt.Decides clock good rest tables) :
    attempt.Decides clock good (objection :: rest) tables :=
  Operation.Undisturbed.mono decides fun _ _ decided => .passed falls decided

theorem rejects {event : Event} {error : BankError} {objection : BankError → Prop}
    {rest : List (BankError → Prop)} (stands : objection error) :
    Decides clock (reject event error) good (objection :: rest) tables :=
  undisturbed_reject.mpr (.refused stands)

/-- A check that rejects the attempt when its condition holds. -/
theorem check {condition : Prop} [Decidable condition] {event : Event} {error : BankError}
    {objection : BankError → Prop} {rest : List (BankError → Prop)} {next : β → Attempt α}
    (stands_iff : ∀ other, objection other ↔ condition ∧ other = error)
    (passes : ¬condition → attempt.Decides clock good rest tables) :
    Decides clock (if condition then reject event error >>= next else attempt) good
      (objection :: rest) tables := by
  by_cases holds : condition
  · rw [if_pos holds]
    intro _
    exact .refused ((stands_iff error).mpr ⟨holds, rfl⟩)
  · rw [if_neg holds]
    apply objects
    · intro other stands
      exact holds ((stands_iff other).mp stands).1
    · exact passes holds

/-- The objections to what is done first come before those to what is done with its value. -/
theorem bind {next : α → Attempt β} {known : α → Prop} {better : Tables → β → Prop}
    {later : List (BankError → Prop)}
    (first : attempt.Decides clock (fun after value => after = tables ∧ known value) objections
      tables)
    (second : ∀ value, known value → (next value).Decides clock better later tables) :
    (attempt >>= next).Decides clock better (objections ++ later) tables := by
  apply Undisturbed.bind first
  clear first
  intro after result decided
  induction decided with
  | refused stands => exact .refused stands
  | @passed objection rest result falls _ inductionHypothesis =>
      cases result with
      | error error => exact .passed falls inductionHypothesis
      | ok value => exact objects falls inductionHypothesis
  | accepted isKnown =>
      obtain ⟨rfl, isKnown⟩ := isKnown
      exact second _ isKnown

end Decides

end Countinghouse.Attempt
