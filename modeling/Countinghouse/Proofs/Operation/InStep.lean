import Countinghouse.Proofs.Operation.Report
import Countinghouse.Proofs.Store.Redaction

/-!
# Two runs in step

Two operations are carried out side by side. The tables that they find differ in secrets only, and
the courses that they follow differ in nothing but random bytes. `Operation.InStep` says that what
they report is the same, and that the tables differ in secrets only when they are done. For attempts
it also says that both fail or none does. One rule for each way to build an attempt follows.
-/

namespace Countinghouse

variable {α β γ δ : Type}

/-- Two courses go the same way, but for the random bytes: the store fails at the same places with
the same failures, the clock says the same, and the same identifiers are fresh. -/
structure Course.Twin (course other : Course) : Prop where
  faults (met : Nat) : course.fault? met = other.fault? met
  clocks (met : Nat) : course.answers met .clock = other.answers met .clock
  ids (met : Nat) : course.answers met .freshId = other.answers met .freshId

/-- Two operations have come equally far, with tables that differ in secrets only. -/
structure Trial.Twin (trial other : Trial) : Prop where
  met : trial.met = other.met
  tables : trial.tables.redacted = other.tables.redacted

/-- Two results are values that are related, or failures that are related. -/
inductive Outcomes {ε : Type} (failures : ε → ε → Prop) (values : α → β → Prop) :
    Except ε α → Except ε β → Prop where
  | ok {value : α} {otherValue : β} (related : values value otherValue) :
      Outcomes failures values (.ok value) (.ok otherValue)
  | error {error otherError : ε} (related : failures error otherError) :
      Outcomes failures values (.error error) (.error otherError)

theorem Outcomes.mono {ε : Type} {failures : ε → ε → Prop} {values weaker : α → β → Prop}
    {result : Except ε α} {otherResult : Except ε β}
    (implies : ∀ value otherValue, values value otherValue → weaker value otherValue)
    (outcomes : Outcomes failures values result otherResult) :
    Outcomes failures weaker result otherResult := by
  cases outcomes with
  | ok related => exact .ok (implies _ _ related)
  | error related => exact .error related

variable {course other : Course} {trial otherTrial : Trial}

/-- Two operations that have come equally far come equally far with one more need. -/
theorem Trial.Twin.next (trials : trial.Twin otherTrial) :
    Trial.Twin { trial with met := trial.met + 1 } { otherTrial with met := otherTrial.met + 1 } :=
  ⟨congrArg (· + 1) trials.met, trials.tables⟩

namespace Operation

/-- Side by side, two operations report the same, and come equally far, with tables that differ in
secrets only. `ends` holds of their values. -/
structure InStep (course other : Course) (ends : α → β → Prop) (operation : Operation α)
    (twin : Operation β) (trial otherTrial : Trial) : Prop where
  logs : operation.log course trial = twin.log other otherTrial
  values : ends (operation.tryOut course trial).1 (twin.tryOut other otherTrial).1
  trials : (operation.tryOut course trial).2.Twin (twin.tryOut other otherTrial).2

variable {ends : α → β → Prop}

theorem inStep_done {value : α} {otherValue : β} (trials : trial.Twin otherTrial)
    (values : ends value otherValue) :
    InStep course other ends (.done value) (.done otherValue) trial otherTrial :=
  ⟨rfl, values, trials⟩

/-- One operation after another. -/
theorem InStep.andThen {operation : Operation α} {twin : Operation β} {next : α → Operation γ}
    {otherNext : β → Operation δ} {post : γ → δ → Prop}
    (first : operation.InStep course other ends twin trial otherTrial)
    (second : ∀ value otherValue later otherLater, ends value otherValue →
      Trial.Twin later otherLater →
      (next value).InStep course other post (otherNext otherValue) later otherLater) :
    (operation.andThen next).InStep course other post (twin.andThen otherNext) trial
      otherTrial := by
  have rest := second _ _ _ _ first.values first.trials
  have goesOn : (operation.andThen next).tryOut course trial = _ :=
    run_andThen course.surroundings operation next trial
  have otherGoesOn : (twin.andThen otherNext).tryOut other otherTrial = _ :=
    run_andThen other.surroundings twin otherNext otherTrial
  constructor
  · rw [log_andThen, log_andThen, first.logs, rest.logs]
  · rw [goesOn, otherGoesOn]
    exact rest.values
  · rw [goesOn, otherGoesOn]
    exact rest.trials

end Operation

namespace Attempt

/-- Side by side, two attempts report the same, and come equally far, with tables that differ in
secrets only. Both fail, or they come to values that are related. -/
def InStep (course other : Course) (related : α → β → Prop) (attempt : Attempt α)
    (twin : Attempt β) (trial otherTrial : Trial) : Prop :=
  Operation.InStep course other (Outcomes (fun _ _ => True) related) attempt.run twin.run
    trial otherTrial

variable {related : α → β → Prop} {event : Event} {error otherError : BankError}

/-- One attempt after another. -/
theorem InStep.bind {attempt : Attempt α} {twin : Attempt β} {next : α → Attempt γ}
    {otherNext : β → Attempt δ} {post : γ → δ → Prop}
    (first : attempt.InStep course other related twin trial otherTrial)
    (second : ∀ value otherValue later otherLater, related value otherValue →
      Trial.Twin later otherLater →
      (next value).InStep course other post (otherNext otherValue) later otherLater) :
    (attempt >>= next).InStep course other post (twin >>= otherNext) trial otherTrial := by
  refine Operation.InStep.andThen first fun _ _ later otherLater results trials => ?_
  cases results with
  | ok values => exact second _ _ later otherLater values trials
  | error _ => exact Operation.inStep_done trials (.error trivial)

end Attempt

end Countinghouse
