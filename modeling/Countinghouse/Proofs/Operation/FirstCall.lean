import Countinghouse.Proofs.Operation.Trial

/-!
# The first call of an operation

`Operation.FirstCall` judges an operation by the first call of the store that it makes, whatever
its other surroundings answer before. The judgement sees how the operation goes on after the call,
so an operation that makes a few calls one after another is judged by judgements within each other.
-/

namespace Countinghouse

namespace Operation

variable {α β : Type}

/-- Whatever is answered before, the first call of the store is as judged, along with how the
operation goes on after it. -/
def FirstCall (judge : (call : StoreCall) → (Except StoreError call.Reply → Operation α) → Prop) :
    Operation α → Prop
  | .done _ => True
  | .ask (.store call) next => judge call next
  | .ask _ next => ∀ answer, (next answer).FirstCall judge

variable {judge : (call : StoreCall) → (Except StoreError call.Reply → Operation α) → Prop}

/-- An operation that makes no call makes no wrong one. -/
theorem Ends.firstCall {operation : Operation α} {well : α → Prop} (ends : operation.Ends well) :
    operation.FirstCall judge := by
  induction operation with
  | done value => trivial
  | ask need next inductionHypothesis =>
      cases need with
      | store call => exact ends.elim
      | clock | freshId | freshSalt | report _ | ping =>
          exact fun answer => inductionHypothesis answer (ends answer)

theorem Ends.answer {need : Need} {next : need.Answer → Operation α} {well : α → Prop}
    (ends : (Operation.ask need next).Ends well) (answer : need.Answer) :
    (next answer).Ends well := by
  cases need with
  | store call => exact ends.elim
  | clock | freshId | freshSalt | report _ | ping => exact ends answer

/-- What makes no call may come before the first call. -/
theorem Ends.andThen_firstCall {operation : Operation β} {next : β → Operation α}
    {well : β → Prop} (ends : operation.Ends well)
    (first : ∀ value, well value → (next value).FirstCall judge) :
    (operation.andThen next).FirstCall judge := by
  induction operation with
  | done value => exact first value ends
  | ask need rest inductionHypothesis =>
      cases need with
      | store call => exact ends.elim
      | clock | freshId | freshSalt | report _ | ping =>
          exact fun answer => inductionHypothesis answer (ends answer)

theorem FirstCall.answer {need : Need} {next : need.Answer → Operation α}
    (first : (Operation.ask need next).FirstCall judge) (outside : ∀ call, need ≠ .store call)
    (answer : need.Answer) : (next answer).FirstCall judge := by
  cases need with
  | store call => exact absurd rfl (outside call)
  | clock | freshId | freshSalt | report _ | ping => exact first answer

end Operation

end Countinghouse
