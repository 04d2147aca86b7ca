import Countinghouse.Proofs.Operation.Trial

/-!
# Courses that differ in what failures say

A failure of the store is of a kind, and it carries a text: the name of a constraint, or what a
database or a lock had to say. `Course.Alike` relates two courses that differ in such texts only. An
operation that stops where the store fails goes the same way in both, up to the failure, and so two
attempts end alike.
-/

namespace Countinghouse

variable {α : Type}

/-- Two failures of the store are of one kind, and about the same account if they are about one. -/
inductive StoreError.Alike : StoreError → StoreError → Prop where
  | database (failure other : SqlFailure) : Alike (.database failure) (.database other)
  | uniqueViolation (name other : String) : Alike (.uniqueViolation name) (.uniqueViolation other)
  | foreignKeyViolation (name other : String) :
      Alike (.foreignKeyViolation name) (.foreignKeyViolation other)
  | accountUnavailable (id : Int) : Alike (.accountUnavailable id) (.accountUnavailable id)
  | internal (text other : String) : Alike (.internal text) (.internal other)

/-- Two failures of the bank are the same, or passed on from failures of the store that are
alike. -/
inductive BankError.Alike : BankError → BankError → Prop where
  | refl (error : BankError) : Alike error error
  | storage {error other : StoreError} (alike : error.Alike other) :
      Alike (.storage error) (.storage other)

/-- Two attempts came to the same, or failed alike. -/
inductive Attempt.EndAlike : Except BankError α → Except BankError α → Prop where
  | refl (result : Except BankError α) : EndAlike result result
  | error {error other : BankError} (alike : error.Alike other) :
      EndAlike (.error error) (.error other)

/-- Two courses answer the same, and the store fails in both at the same places with failures that
are alike. -/
structure Course.Alike (course other : Course) : Prop where
  answers : course.answers = other.answers
  faults (met : Nat) : Option.Rel StoreError.Alike (course.fault? met) (other.fault? met)

variable {course other : Course}

namespace Operation

variable {struck : Tables → StoreCall → StoreError → α → Prop} {well : α → Prop}

/-- A need that the store is not called for is met by the course. -/
theorem tryOut_ask {need : Need} (outside : ∀ call, need ≠ .store call)
    {next : need.Answer → Operation α} {trial : Trial} :
    (ask need next).tryOut course trial =
      (next (course.answers trial.met need)).tryOut course { trial with met := trial.met + 1 } := by
  cases need with
  | store call => exact absurd rfl (outside call)
  | clock | freshId | freshSalt | report _ | ping => rfl

/-- What does not call the store goes the same way in courses that are alike. -/
theorem Ends.tryOut_alike {operation : Operation α} (ends : operation.Ends well)
    (alike : course.Alike other) (trial : Trial) :
    operation.tryOut course trial = operation.tryOut other trial := by
  induction operation generalizing trial with
  | done value => rfl
  | ask need next inductionHypothesis =>
      cases need with
      | store call => exact ends.elim
      | clock | freshId | freshSalt | report _ | ping =>
          rw [tryOut_ask (by simp), tryOut_ask (by simp), ← alike.answers]
          exact inductionHypothesis _ (ends _) _

/-- What stops where the store fails goes the same way in courses that are alike, unless the store
fails: then it does so at the same call, with failures that are alike. -/
theorem Withstands.tryOut_alike {operation : Operation α} {post : Tables → α → Prop}
    (alike : course.Alike other) (trial : Trial)
    (withstands : operation.Withstands struck post trial.tables) :
    operation.tryOut course trial = operation.tryOut other trial ∨
      ∃ tables call error otherError, error.Alike otherError ∧
        struck tables call error (operation.tryOut course trial).1 ∧
        struck tables call otherError (operation.tryOut other trial).1 := by
  induction operation generalizing trial with
  | done value => exact .inl rfl
  | ask need next inductionHypothesis =>
      cases need with
      | store call =>
          -- As long as neither fails the trials are one, and so is the place of the next call.
          have faults := alike.faults trial.met
          cases fault : course.fault? trial.met with
          | some error =>
              cases otherFault : other.fault? trial.met with
              | some otherError =>
                  rw [fault, otherFault] at faults
                  obtain ⟨isAlike⟩ := faults
                  rw [tryOut_call_of_fault fault, tryOut_call_of_fault otherFault]
                  exact .inr ⟨trial.tables, call, error, otherError, isAlike,
                    ((withstands.1 error).tryOut course _).1,
                    ((withstands.1 otherError).tryOut other _).1⟩
              | none =>
                  rw [fault, otherFault] at faults
                  cases faults
          | none =>
              cases otherFault : other.fault? trial.met with
              | some otherError =>
                  rw [fault, otherFault] at faults
                  cases faults
              | none =>
                  rw [tryOut_call_of_noFault fault, tryOut_call_of_noFault otherFault,
                    ← alike.answers]
                  exact inductionHypothesis _ ⟨_, _, _⟩ (withstands.2 _)
      | clock | freshId | freshSalt | report _ | ping =>
          rw [tryOut_ask (by simp), tryOut_ask (by simp), ← alike.answers]
          exact inductionHypothesis _ { trial with met := trial.met + 1 } (withstands _)

end Operation

/-- An attempt that is carried out completely or not at all ends alike in courses that are alike,
when it blames alike failures alike. -/
theorem Attempt.Atomic.tryOut_alike {attempt : Attempt α}
    {blame : StoreCall → StoreError → BankError} {post : Tables → α → Prop}
    (alike : course.Alike other)
    (blames : ∀ call {error otherError : StoreError}, error.Alike otherError →
      (blame call error).Alike (blame call otherError))
    (trial : Trial) (atomic : attempt.Atomic blame trial.tables post trial.tables) :
    Attempt.EndAlike (attempt.run.tryOut course trial).1 (attempt.run.tryOut other trial).1 := by
  rcases Operation.Withstands.tryOut_alike alike trial atomic with
    same | ⟨tables, call, error, otherError, isAlike, ⟨-, failed⟩, -, otherFailed⟩
  · rw [same]
    exact .refl _
  · rw [failed, otherFailed]
    exact .error (blames call isAlike)

end Countinghouse
