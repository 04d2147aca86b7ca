import Countinghouse.Proofs.Bank.Atomicity
import Countinghouse.Proofs.Gateway.Envelope
import Countinghouse.Proofs.Operation.Alike

/-!
# What clients are not told

When the store fails, the text of the failure is for the log. Two courses that differ in such texts
lead to the same plan, the bank ends alike in both, and failures that are alike are answered with the
same reply. A failure inside the service is answered with one and the same text.
-/

namespace Countinghouse

/-- The failure is one inside the service, which is none of a client's business. -/
inductive BankError.IsInner : BankError → Prop where
  | internal (text : String) : IsInner (.internal text)
  | database (failure : SqlFailure) : IsInner (.storage (.database failure))
  | storeInternal (text : String) : IsInner (.storage (.internal text))

/-- Failures that are alike are answered with the same refusal. -/
theorem BankError.Alike.ofError_eq {error other : BankError} (alike : error.Alike other) :
    Refusal.ofError error = Refusal.ofError other := by
  cases alike with
  | refl => rfl
  | storage alike => cases alike <;> rfl

namespace Bank

/-- What says nothing about a name or an email is passed on. -/
theorem Errand.blame_of_ne (errand : Errand) (call : StoreCall) {error : StoreError}
    (isOther : ∀ name, error ≠ .uniqueViolation name) : errand.blame call error = .storage error := by
  unfold blame
  split
  · next name => exact absurd rfl (isOther name)
  · next name => exact absurd rfl (isOther name)
  · rfl

/-- Failures of the store that are alike are blamed alike. -/
theorem Errand.blame_alike (errand : Errand) (call : StoreCall) {error other : StoreError}
    (alike : error.Alike other) : (errand.blame call error).Alike (errand.blame call other) := by
  cases alike with
  | uniqueViolation name other =>
      unfold blame
      split
      · exact .refl _
      · exact .refl _
      · next isNone isNoChange =>
          split
          · next constraint => exact (isNone _ _ _ _ _ _ rfl rfl rfl).elim
          · next constraint => exact (isNoChange _ _ _ _ rfl rfl rfl).elim
          · exact .storage (.uniqueViolation name other)
  | database failure other =>
      rw [errand.blame_of_ne call (by simp), errand.blame_of_ne call (by simp)]
      exact .storage (.database failure other)
  | foreignKeyViolation name other =>
      rw [errand.blame_of_ne call (by simp), errand.blame_of_ne call (by simp)]
      exact .storage (.foreignKeyViolation name other)
  | accountUnavailable id => exact .refl _
  | internal text other =>
      rw [errand.blame_of_ne call (by simp), errand.blame_of_ne call (by simp)]
      exact .storage (.internal text other)

/-- An order ends alike in courses that are alike. -/
theorem attempt_alike (bank : Bank) (asked : Order) {course other : Course}
    (alike : course.Alike other) (trial : Trial) :
    Attempt.EndAlike ((bank.attempt asked).run.tryOut course trial).1
      ((bank.attempt asked).run.tryOut other trial).1 :=
  (bank.serve_atomic (.order asked) trial.tables).tryOut_alike alike
    (fun call => (Errand.order asked).blame_alike call) trial

end Bank

namespace Gateway

variable {gateway : Gateway} {request : Request} {course other : Course}

/-- A plan is drawn up without the store. -/
theorem ends_plan (gateway : Gateway) (request : Request) :
    (gateway.plan request).Ends fun _ => True := by
  unfold plan
  cases Route.ofPath? request.path with
  | none => trivial
  | some route =>
      dsimp only
      unfold planAt
      split
      · cases said : request.authorization with
        | missing | malformed =>
            unfold authenticate
            rw [said]
            trivial
        | bearer token =>
            rw [authenticate_of_bearer said]
            exact fun _ => trivial
      · cases verb? request route <;> trivial

namespace Plan

/-- A plan is answered the same in courses that are alike. -/
theorem tryOut_carryOut_alike (plan : Plan) (alike : course.Alike other) (trial : Trial) :
    ((plan.carryOut gateway).tryOut course trial).1 =
      ((plan.carryOut gateway).tryOut other trial).1 := by
  cases plan with
  | answer reply => rfl
  | decline error =>
      obtain ⟨met, answered⟩ := tryOut_answerFailure error course trial
      obtain ⟨otherMet, otherAnswered⟩ := tryOut_answerFailure error other trial
      exact (congrArg Prod.fst answered).trans (congrArg Prod.fst otherAnswered).symm
  | health => exact congrArg Prod.fst ((ends_health gateway).tryOut_alike alike trial)
  | order asked =>
      have ends := gateway.bank.attempt_alike asked alike trial
      cases outcome : (gateway.bank.attempt asked).run.tryOut course trial with
      | mk result later =>
          cases otherOutcome : (gateway.bank.attempt asked).run.tryOut other trial with
          | mk otherResult otherLater =>
              obtain ⟨met, answered⟩ := tryOut_order asked course outcome
              obtain ⟨otherMet, otherAnswered⟩ := tryOut_order asked other otherOutcome
              rw [outcome, otherOutcome] at ends
              rw [answered, otherAnswered]
              dsimp only at ends ⊢
              cases ends with
              | refl => rfl
              | error isAlike => exact congrArg Refusal.toReply isAlike.ofError_eq

end Plan

/-- The texts that failures of the store carry do not reach a client.

Let the same request be handled twice, on the same tables, and let the store fail at the same calls
with failures of the same kind and about the same accounts, if it fails. Then the replies are the
same, and when the handling ends in a failure inside the service, the reply has the status 500, the
code 5000 and a text that is always the same. -/
theorem reply_hides_store_texts (gateway : Gateway) (request : Request) {course other : Course}
    (alike : course.Alike other) (tables : Tables) :
    ((gateway.handle request).tryOut course (.start tables)).1 =
        ((gateway.handle request).tryOut other (.start tables)).1 ∧
      ∀ error, gateway.failure? request course tables = some error → error.IsInner →
        ((gateway.handle request).tryOut course (.start tables)).1.status = 500 ∧
        ((gateway.handle request).tryOut course (.start tables)).1.content =
          .envelope ⟨5000, .text "internal server error", none⟩ := by
  -- Both times the store is not called before the plan is there, and so the plan is the same.
  obtain ⟨plan, met, planned, -⟩ := exists_tryOut_plan gateway request course (.start tables)
  have otherPlanned := ((ends_plan gateway request).tryOut_alike alike _).symm.trans planned
  rw [tryOut_handle gateway request planned, tryOut_handle gateway request otherPlanned]
  refine ⟨congrArg (send request) (plan.tryOut_carryOut_alike alike _), fun error fails isInner => ?_⟩
  rw [← tryOut_handle gateway request planned, tryOut_handle_of_failure fails, status_send,
    content_send]
  cases isInner <;> exact ⟨rfl, rfl⟩

/-- The clock stands still, and the store fails from the first call on. -/
def broken (text : String) : Course :=
  { Course.standing ⟨0⟩ with fault? := fun _ => some (.internal text) }

/-- Whatever token Alice's wish carries, it ends in the failure of the store. -/
theorem failure?_of_wish {token : String}
    (knows : small.Knows ⟨0⟩ (wish.carrying token) (minute .access)) :
    small.failure? (wish.carrying token) (broken "disk") .empty =
      some (.storage (.internal "disk")) := by
  have leads : Route.ofPath? wish.path = some (.restoration "7") := by decide
  unfold failure?
  rw [@tryOut_plan_of_knows small (wish.carrying token) _ leads rfl _ _ _ knows, planBehind_wish]
  rfl

/-- Alice is not told why her wish was not looked at. -/
theorem reply_hides_store_texts_for_a_wish :
    let wishOfAlice := wish.carrying (small.bank.authority.write (minute .access))
    ((small.handle wishOfAlice).tryOut (broken "disk") (.start .empty)).1 =
        ((small.handle wishOfAlice).tryOut (broken "quota") (.start .empty)).1 ∧
      ((small.handle wishOfAlice).tryOut (broken "disk") (.start .empty)).1.status = 500 := by
  intro wishOfAlice
  have alike : (broken "disk").Alike (broken "quota") := ⟨rfl, fun _ => .some (.internal _ _)⟩
  have knows : small.Knows ⟨0⟩ wishOfAlice (minute .access) := knows_minute wish
  have outcome := reply_hides_store_texts small wishOfAlice alike .empty
  exact ⟨outcome.1, (outcome.2 _ (failure?_of_wish knows) (.storeInternal "disk")).1⟩

end Gateway

end Countinghouse
