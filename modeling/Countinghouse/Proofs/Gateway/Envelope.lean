import Countinghouse.Proofs.Gateway.Plan

/-!
# Which replies are envelopes

`Reply.IsEnvelope` says what clients are promised of a reply: its body is an object with a code and a
message, and status, code and data agree on whether the request was done. Whatever the bank answers
to an order is sent like this, and so is a refusal by the gate, by the rules of a form, and by a
reader of bodies or queries.

The one reader that sends something else is that of identifiers in paths, so the promise is kept
exactly as long as no known caller sends a path with an identifier that is none.
-/

namespace Countinghouse

/-- The reply is an envelope: its body is an object with a code and a message, and the status says
that the request was done if and only if the code is zero, and if and only if there are data. -/
def Reply.IsEnvelope (reply : Reply) : Prop :=
  ∃ (fields : List (String × Json)) (code : Int) (message : String),
    reply.body = (Json.object fields).render ∧
    (Json.object fields).field? "code" = some (.int code) ∧
    (Json.object fields).field? "msg" = some (.text message) ∧
    ((200 ≤ reply.status ∧ reply.status < 300) ↔ code = 0) ∧
    (((Json.object fields).field? "data").isSome ↔ code = 0)

/-- The status says that a request was done if and only if the envelope does, and if and only if it
holds data. -/
structure Envelope.Agrees (envelope : Envelope) (status : Nat) : Prop where
  success : (200 ≤ status ∧ status < 300) ↔ envelope.code = 0
  data : envelope.data.isSome ↔ envelope.code = 0

/-- The content of the reply is an envelope that agrees with its status. -/
def Reply.IsSealed (reply : Reply) : Prop :=
  ∃ envelope, reply.content = .envelope envelope ∧ envelope.Agrees reply.status

/-- What text a route names something by. -/
def Route.id? : Route → Option String
  | .account id | .restoration id | .history id | .transfer id => some id
  | _ => none

/-- The route is part of the interface of the bank, and not of its documentation. -/
def Route.IsService (route : Route) : Prop := "/api/v1/".toList <+: route.path.toList

namespace Reply

/-- An envelope is written as an object. -/
theorem IsSealed.isEnvelope {reply : Reply} (isSealed : reply.IsSealed)
    (isWhole : reply.headOnly = false) : reply.IsEnvelope := by
  obtain ⟨⟨code, notice, data?⟩, content, success, data⟩ := isSealed
  refine ⟨[("code", .int code), ("msg", .text notice.render)]
    ++ (data?.map fun data => ("data", data)).toList, code, notice.render, ?_, rfl, rfl, success, ?_⟩
  · rw [Reply.body, isWhole, content]
    rfl
  · cases data? <;> exact data

/-- A body that begins with anything but a brace is no envelope. -/
theorem not_isEnvelope_of_head {reply : Reply} {first : Char}
    (begins : reply.body.toList.head? = some first) (noBrace : first ≠ '\x7b') :
    ¬reply.IsEnvelope := by
  rintro ⟨fields, code, message, isObject, -⟩
  rw [isObject, Json.render, String.toList_append, String.toList_append] at begins
  exact noBrace (Option.some.inj begins).symm

theorem isSealed_success {status : Nat} (isSuccess : 200 ≤ status ∧ status < 300) (data : Json) :
    (Reply.success status data).IsSealed :=
  ⟨_, rfl, iff_of_true isSuccess rfl, iff_of_true rfl rfl⟩

theorem isSealed_toReply {refusal : Refusal} (isFailure : 300 ≤ refusal.status)
    (isCode : refusal.code ≠ 0) : refusal.toReply.IsSealed :=
  ⟨_, rfl, iff_of_false (fun isSuccess => by
    have := isSuccess.2
    simp only [Refusal.toReply] at this
    omega) isCode, iff_of_false Bool.false_ne_true isCode⟩

end Reply

/-! ## Every part but one seals its replies -/

/-- An order that succeeded is answered with a success. -/
theorem Bank.Order.isSealed_reply (order : Bank.Order) (answer : order.Answer) :
    (order.reply answer).IsSealed := by
  cases order <;> exact Reply.isSealed_success (by decide) _

/-- A failure of the bank is answered with a failure. -/
theorem Refusal.isSealed_ofError (error : BankError) : (Refusal.ofError error).toReply.IsSealed := by
  refine @Reply.isSealed_toReply (ofError error) (?_ : 300 ≤ error.httpStatus)
    (?_ : codeOf error ≠ 0)
  · unfold BankError.httpStatus
    split <;> decide
  · unfold codeOf
    split <;> decide

/-- A reply that is sealed is so on its way out. -/
theorem Reply.IsSealed.send {reply : Reply} (isSealed : reply.IsSealed) (request : Request) :
    (Gateway.send request reply).IsSealed := by
  unfold IsSealed
  rwa [Gateway.status_send, Gateway.content_send]

/-- The text of a fault does not begin like an object. -/
theorem Route.IdFault.head?_message (fault : Route.IdFault) :
    fault.message.toList.head? = some 'I' := by
  cases fault with
  | notText => rfl
  | notInteger text =>
      change ("Invalid URL: Cannot parse `" ++ text ++ "` to a `i64`").toList.head? = some 'I'
      rw [String.append_assoc, String.toList_append]
      rfl

namespace Gateway

open Handler

variable {gateway : Gateway} {request : Request} {route : Route}

/-- A refusal at the gate is sealed. -/
theorem IsRefused.isSealed {reply : Reply} (refused : IsRefused request reply) :
    reply.IsSealed := by
  obtain ⟨code, notice, content, isSilent, isSpoken⟩ := refused.content
  have isCode : code ≠ 0 := by
    by_cases silent : ∀ text, ¬ request.Says "authorization" text
    · rw [isSilent silent]
      decide
    · obtain ⟨text, isText⟩ := not_forall_not.mp silent
      rw [isSpoken text isText]
      decide
  refine ⟨_, content, iff_of_false ?_ isCode, iff_of_false Bool.false_ne_true isCode⟩
  rw [refused.status]
  decide

/-- A sign of life is sealed, and so is the notice that there is none. -/
theorem Pulse.isSealed {reply : Reply} (pulse : gateway.Pulse reply) : reply.IsSealed := by
  cases pulse with
  | alive now => exact Reply.isSealed_success (by decide) _
  | silent => exact Reply.isSealed_toReply (by decide) (by decide)

/-- A plan of which every reply is sealed if the one is that it may hold. -/
def Plan.IsSealed : Plan → Prop
  | .answer reply => reply.IsSealed
  | .decline _ | .health | .order _ => True

/-- What is sealed in the plan is sealed in the end. -/
theorem Plan.IsSealed.carryOut {plan : Plan} (isSealed : plan.IsSealed) (gateway : Gateway)
    (course : Course) (trial : Trial) : ((plan.carryOut gateway).tryOut course trial).1.IsSealed := by
  cases plan with
  | answer reply => exact isSealed
  | decline error =>
      obtain ⟨met, answered⟩ := tryOut_answerFailure error course trial
      exact (congrArg Prod.fst answered).symm ▸ Refusal.isSealed_ofError error
  | health => exact ((ends_health gateway).tryOut course trial).1.isSealed
  | order asked =>
      cases outcome : (gateway.bank.attempt asked).run.tryOut course trial with
      | mk result later =>
          obtain ⟨met, answered⟩ := tryOut_order asked course outcome
          rw [answered]
          cases result with
          | ok value => exact asked.isSealed_reply value
          | error error => exact Refusal.isSealed_ofError error

theorem isSealed_badRequest (notice : Notice) :
    (Plan.answer (Refusal.badRequest notice).toReply).IsSealed :=
  @Reply.isSealed_toReply (.badRequest notice) (by decide : 300 ≤ 400)
    (by decide : (1001 : Int) ≠ 0)

theorem isSealed_planPublic (isPublic : route.isPrivate = false) (isService : route.IsService) :
    (planPublic request route).IsSealed := by
  cases route with
  | health => trivial
  | users | login | renewal =>
      exact Plan.after_body (fun _ _ _ => trivial) isSealed_badRequest
  | documentation | description => exact absurd isService (by unfold Route.IsService; decide)
  | profile | accounts | deletedAccounts | account _ | restoration _ | history _ | transfers
  | transfer _ => cases isPublic

/-- The plan for a known caller is sealed, when the path names what it names by an identifier. -/
theorem isSealed_planPrivate {caller : String} {verb : Verb} (isPrivate : route.isPrivate = true)
    (isNamed : ∀ text, route.id? = some text → ∃ id, Route.readId text = .ok id) :
    (planPrivate caller request verb route).IsSealed := by
  cases route with
  | profile =>
      simp only [planPrivate]
      split
      · exact Plan.after_body (fun _ _ _ => trivial) isSealed_badRequest
      · trivial
  | accounts =>
      simp only [planPrivate]
      split
      · refine Plan.after_body (fun content _ _ => ?_) isSealed_badRequest
        cases Currency.parse content.currency <;> trivial
      · trivial
  | deletedAccounts => trivial
  | account text | restoration text | transfer text =>
      obtain ⟨id, isId⟩ := isNamed text rfl
      simp only [planPrivate, Plan.after_pathId_of_ok isId]
      trivial
  | history text =>
      obtain ⟨id, isId⟩ := isNamed text rfl
      simp only [planPrivate, Plan.after_pathId_of_ok isId]
      refine Plan.after_query (fun content _ => ?_) isSealed_badRequest
      cases Page.make content.number content.size <;> trivial
  | transfers => exact Plan.after_body (fun _ _ _ => trivial) isSealed_badRequest
  | health | users | login | renewal | documentation | description => cases isPrivate

/-! ## The part that does not -/

/-- A known caller names what is asked for by a text that is no identifier. -/
structure Misnames (gateway : Gateway) (now : Instant) (request : Request) (route : Route)
    (fault : Route.IdFault) : Prop where
  knows : ∃ claims, gateway.Knows now request claims
  isNone : ∃ text, route.id? = some text ∧ Route.readId text = .error fault

theorem planPrivate_of_readId_error {caller text : String} {verb : Verb} {fault : Route.IdFault}
    (named : route.id? = some text) (isNone : Route.readId text = .error fault) :
    planPrivate caller request verb route =
      .answer { status := 400, content := .plain fault.message } := by
  cases route with
  | account id | restoration id | history id | transfer id =>
      obtain rfl := Option.some.inj named
      exact Plan.after_pathId_of_error isNone
  | _ => cases named

theorem isPrivate_of_id? {text : String} (named : route.id? = some text) :
    route.isPrivate = true := by
  cases route with
  | account id | restoration id | history id | transfer id => rfl
  | _ => cases named

/-- Where nothing is misnamed, the plan is sealed. -/
theorem Plans.isSealed {now : Instant} {plan : Plan} (plans : gateway.Plans now request plan)
    (leads : Route.ofPath? request.path = some route) (isService : route.IsService) {verb : Verb}
    (asks : verb? request route = some verb)
    (isNamed : ∀ fault, ¬gateway.Misnames now request route fault) : plan.IsSealed := by
  cases plans with
  | lost astray => cases leads.symm.trans astray
  | unknown _ _ _ refused => exact refused.isSealed
  | notAllowed leadsTo nothing =>
      obtain rfl := Option.some.inj (leads.symm.trans leadsTo)
      cases asks.symm.trans nothing
  | anyone leadsTo isPublic =>
      obtain rfl := Option.some.inj (leads.symm.trans leadsTo)
      exact isSealed_planPublic isPublic isService
  | known leadsTo isPrivate knows _ =>
      obtain rfl := Option.some.inj (leads.symm.trans leadsTo)
      refine isSealed_planPrivate isPrivate fun text named => ?_
      cases isRead : Route.readId text with
      | ok id => exact ⟨id, rfl⟩
      | error fault => exact absurd ⟨⟨_, knows⟩, text, named, isRead⟩ (isNamed fault)

/-- Where something is misnamed, the plan is to say so. -/
theorem Plans.eq_of_misnames {now : Instant} {plan : Plan} (plans : gateway.Plans now request plan)
    (leads : Route.ofPath? request.path = some route) {verb : Verb}
    (asks : verb? request route = some verb) {fault : Route.IdFault}
    (misnames : gateway.Misnames now request route fault) :
    plan = .answer { status := 400, content := .plain fault.message } := by
  obtain ⟨⟨claims, isKnown⟩, text, named, isNone⟩ := misnames
  cases plans with
  | lost astray => cases leads.symm.trans astray
  | unknown _ _ isUnknown _ => exact absurd isKnown (isUnknown claims)
  | notAllowed leadsTo nothing =>
      obtain rfl := Option.some.inj (leads.symm.trans leadsTo)
      cases asks.symm.trans nothing
  | anyone leadsTo isPublic =>
      obtain rfl := Option.some.inj (leads.symm.trans leadsTo)
      cases (isPrivate_of_id? named).symm.trans isPublic
  | known leadsTo _ _ _ =>
      obtain rfl := Option.some.inj (leads.symm.trans leadsTo)
      exact planPrivate_of_readId_error named isNone

/-- A reply is sent with its body, unless only the head was asked for. -/
theorem headOnly_send (leads : Route.ofPath? request.path = some route)
    (isWhole : request.method ≠ "HEAD") (reply : Reply) :
    (send request reply).headOnly = false := by
  unfold send
  rw [leads]
  exact beq_false_of_ne isWhole

/-- Who misnames something is told so, in a body that is the text of the fault. -/
theorem tryOut_handle_of_misnames {verb : Verb} (leads : Route.ofPath? request.path = some route)
    (asks : verb? request route = some verb) (isWhole : request.method ≠ "HEAD") {course : Course}
    {tables : Tables} {fault : Route.IdFault}
    (misnames : gateway.Misnames (course.answers 0 .clock) request route fault) :
    ((gateway.handle request).tryOut course (.start tables)).1.status = 400 ∧
      ((gateway.handle request).tryOut course (.start tables)).1.body = fault.message := by
  obtain ⟨plan, met, planned, plans⟩ := exists_tryOut_plan gateway request course (.start tables)
  obtain rfl := plans.eq_of_misnames leads asks misnames
  rw [tryOut_handle gateway request planned]
  change (send request _).status = 400 ∧ (send request _).body = _
  rw [Reply.body, headOnly_send leads isWhole, status_send, content_send]
  exact ⟨rfl, rfl⟩

/-- A body that is the text of a fault is no envelope. -/
theorem not_isEnvelope_of_fault {reply : Reply} {fault : Route.IdFault}
    (isText : reply.body = fault.message) : ¬reply.IsEnvelope :=
  Reply.not_isEnvelope_of_head (isText ▸ fault.head?_message) (by decide : 'I' ≠ '\x7b')

/-- A request that is allowed at its route, and whose body is asked for, is answered with an
envelope, whatever it carries and whatever the store fails at. The one exception is a known caller
whose path names something by a text that is no identifier: the body is then the text of the fault
itself. -/
theorem answered_with_envelope_iff (gateway : Gateway) (request : Request) {route : Route}
    {verb : Verb} (leads : Route.ofPath? request.path = some route) (isService : route.IsService)
    (asks : verb? request route = some verb) (isWhole : request.method ≠ "HEAD") (course : Course)
    (tables : Tables) :
    (((gateway.handle request).tryOut course (.start tables)).1.IsEnvelope ↔
      ∀ fault, ¬gateway.Misnames (course.answers 0 .clock) request route fault) ∧
    ∀ fault, gateway.Misnames (course.answers 0 .clock) request route fault →
      ((gateway.handle request).tryOut course (.start tables)).1.status = 400 ∧
      ((gateway.handle request).tryOut course (.start tables)).1.body = fault.message := by
  refine ⟨⟨fun isEnvelope fault misnames => ?_, fun isNamed => ?_⟩, fun fault misnames =>
    tryOut_handle_of_misnames leads asks isWhole misnames⟩
  · exact not_isEnvelope_of_fault (tryOut_handle_of_misnames leads asks isWhole misnames).2
      isEnvelope
  · obtain ⟨plan, met, planned, plans⟩ := exists_tryOut_plan gateway request course (.start tables)
    rw [tryOut_handle gateway request planned]
    have isSealed := (plans.isSealed leads isService asks isNamed).carryOut gateway course
      ⟨tables, [], met⟩
    exact (isSealed.send request).isEnvelope (headOnly_send leads isWhole _)

/-- A look at an account that is named by letters. -/
def glance : Request := ⟨"GET", "/api/v1/accounts/abc", "", [], [], none⟩

/-- Alice's glance. -/
def glanceOfAlice : Request := glance.carrying (small.bank.authority.write (minute .access))

/-- Alice misnames an account. -/
theorem glanceOfAlice_misnames : small.Misnames ⟨0⟩ glanceOfAlice (.account "abc")
    (.notInteger "abc") where
  knows := ⟨minute .access, knows_minute glance⟩
  isNone := ⟨"abc", rfl, by decide +kernel⟩

theorem isService_account (id : String) : (Route.account id).IsService := by
  change "/api/v1/".toList <+: ("/api/v1/accounts/" ++ id).toList
  rw [String.toList_append]
  exact List.IsPrefix.trans (by decide) (List.prefix_append _ _)

theorem verb?_glance : verb? glance (.account "abc") = some .get := by decide

/-- Not every request that is allowed at its route is answered with an envelope. -/
theorem glance_is_answered_without_envelope :
    ¬∀ (gateway : Gateway) (request : Request) (route : Route) (verb : Verb) (course : Course)
      (tables : Tables), Route.ofPath? request.path = some route → route.IsService →
      verb? request route = some verb → request.method ∈ ["GET", "POST", "PATCH", "DELETE"] →
      ((gateway.handle request).tryOut course (.start tables)).1.IsEnvelope := by
  intro always
  have outcome := @tryOut_handle_of_misnames small glanceOfAlice (.account "abc") .get (by decide)
    verb?_glance (by decide) (.standing ⟨0⟩) .empty _ glanceOfAlice_misnames
  exact not_isEnvelope_of_fault outcome.2 (always small glanceOfAlice (.account "abc") .get
    (.standing ⟨0⟩) .empty (by decide) (isService_account "abc") verb?_glance (by decide))

/-- Nobody's glance is answered with an envelope, and Alice's is not. -/
theorem answered_with_envelope_iff_for_glances :
    ((small.handle glance).tryOut (.standing ⟨0⟩) (.start .empty)).1.IsEnvelope ∧
    ¬((small.handle glanceOfAlice).tryOut (.standing ⟨0⟩) (.start .empty)).1.IsEnvelope := by
  have leads : Route.ofPath? glance.path = some (.account "abc") := by decide
  have isService := isService_account "abc"
  refine ⟨(answered_with_envelope_iff small glance leads isService verb?_glance (by decide)
    (.standing ⟨0⟩) .empty).1.mpr ?_, fun isEnvelope => ?_⟩
  · rintro fault ⟨⟨claims, token, ⟨scheme, credential, ⟨before, bytes, after, headers, -⟩, -⟩, -⟩, -⟩
    exact absurd headers (by simp [glance])
  · exact (answered_with_envelope_iff small glanceOfAlice leads isService verb?_glance (by decide)
      (.standing ⟨0⟩) .empty).1.mp isEnvelope _ glanceOfAlice_misnames

end Gateway

end Countinghouse
