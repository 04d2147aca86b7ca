import Countinghouse.Proofs.Operation.Trial

/-!
# Operations that make certain calls only

`Operation.CallsOnly` judges an operation by all calls of the store that it may make, whatever is
answered to any of them. What none of these calls changes is then not changed by the operation,
also when the store fails in between. One rule for each way to build an attempt follows.
-/

namespace Countinghouse

variable {α β : Type} {allowed : StoreCall → Prop}

namespace Operation

/-- Whatever is answered, the operation makes allowed calls of the store only. -/
def CallsOnly (allowed : StoreCall → Prop) : Operation α → Prop
  | .done _ => True
  | .ask (.store call) next => allowed call ∧ ∀ reply, (next reply).CallsOnly allowed
  | .ask _ next => ∀ answer, (next answer).CallsOnly allowed

/-- Where every call is allowed, only allowed calls are made. -/
theorem callsOnly_of_forall (all : ∀ call, allowed call) (operation : Operation α) :
    operation.CallsOnly allowed := by
  induction operation with
  | done value => trivial
  | ask need next inductionHypothesis =>
      cases need with
      | store call => exact ⟨all call, inductionHypothesis⟩
      | clock | freshId | freshSalt | report _ | ping => exact inductionHypothesis

theorem CallsOnly.andThen {operation : Operation α} {next : α → Operation β}
    (first : operation.CallsOnly allowed) (second : ∀ value, (next value).CallsOnly allowed) :
    (operation.andThen next).CallsOnly allowed := by
  induction operation with
  | done value => exact second value
  | ask need rest inductionHypothesis =>
      cases need with
      | store call => exact ⟨first.1, fun reply => inductionHypothesis reply (first.2 reply)⟩
      | clock | freshId | freshSalt | report _ | ping =>
          exact fun answer => inductionHypothesis answer (first answer)

/-- What holds of the tables before and is kept by every allowed call holds of them after. -/
theorem CallsOnly.tryOut {operation : Operation α} (calls : operation.CallsOnly allowed)
    {invariant : Tables → Prop}
    (kept : ∀ now call tables, allowed call → invariant tables →
      invariant (Tables.perform now call tables).2)
    (course : Course) {trial : Trial} (holds : invariant trial.tables) :
    invariant (operation.tryOut course trial).2.tables := by
  induction operation generalizing trial with
  | done value => exact holds
  | ask need next inductionHypothesis =>
      cases need with
      | store call =>
          cases fault : course.fault? trial.met with
          | some error =>
              rw [tryOut_call_of_fault fault]
              exact inductionHypothesis _ (calls.2 _) holds
          | none =>
              rw [tryOut_call_of_noFault fault]
              exact inductionHypothesis _ (calls.2 _) (kept _ _ _ calls.1 holds)
      | clock | freshId | freshSalt | report _ | ping =>
          exact inductionHypothesis _ (calls _) holds

end Operation

namespace Attempt

/-- Whatever is answered, the attempt makes allowed calls of the store only. -/
def CallsOnly (allowed : StoreCall → Prop) (attempt : Attempt α) : Prop :=
  attempt.run.CallsOnly allowed

@[simp] theorem callsOnly_pure {value : α} : CallsOnly allowed (pure value) := trivial

@[simp] theorem callsOnly_throw {error : BankError} :
    CallsOnly allowed (throw error : Attempt α) := trivial

@[simp] theorem callsOnly_reject {event : Event} {error : BankError} :
    CallsOnly allowed (reject event error : Attempt α) := fun _ => trivial

@[simp] theorem callsOnly_report {event : Event} : CallsOnly allowed (report event) :=
  fun _ => trivial

@[simp] theorem callsOnly_ofExcept {result : Except BankError α} :
    CallsOnly allowed (ofExcept result) := trivial

@[simp] theorem callsOnly_now : CallsOnly allowed (ExceptT.lift Operation.now) := fun _ => trivial

@[simp] theorem callsOnly_freshId : CallsOnly allowed (ExceptT.lift Operation.freshId) :=
  fun _ => trivial

theorem callsOnly_call {call : StoreCall} (isAllowed : allowed call) :
    CallsOnly allowed (Attempt.call call) :=
  ⟨isAllowed, fun reply => by cases reply <;> trivial⟩

theorem callsOnly_lift_call {call : StoreCall} (isAllowed : allowed call) :
    CallsOnly allowed (ExceptT.lift (Operation.call call)) := ⟨isAllowed, fun _ => trivial⟩

/-- One attempt after another. -/
theorem CallsOnly.bind {attempt : Attempt α} {next : α → Attempt β}
    (first : attempt.CallsOnly allowed) (second : ∀ value, (next value).CallsOnly allowed) :
    (attempt >>= next).CallsOnly allowed := by
  refine Operation.CallsOnly.andThen first fun result => ?_
  cases result with
  | ok value => exact second value
  | error error => trivial

/-- A check that fails with a report. -/
theorem CallsOnly.refuse {condition : Prop} [Decidable condition] {event : Event}
    {error : BankError} {next : β → Attempt α} {rest : Attempt α}
    (passed : rest.CallsOnly allowed) :
    CallsOnly allowed (if condition then reject event error >>= next else rest) := by
  split
  · exact fun _ => trivial
  · exact passed

end Attempt

end Countinghouse
