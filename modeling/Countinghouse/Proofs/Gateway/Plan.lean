import Countinghouse.Proofs.Gateway.Authentication
import Countinghouse.Proofs.Gateway.Handling

/-!
# What a request comes to

Before the bank is asked for anything, everything that a request carries was read. What it comes to
is then settled: an answer, an order for the bank, a sign of life, or a wish for something that the
bank does not have. `Gateway.Plan` is this as a value, `Gateway.plan` draws it up, and
`Gateway.handle_eq_plan` says that handling a request is to draw up the plan and to carry it out.

With the plan at hand it can be said in which failure of the bank the handling of a request ends,
which is more than the reply tells: several failures are answered alike.
-/

namespace Countinghouse

/-- How an order that succeeded is answered. -/
def Bank.Order.reply : (order : Bank.Order) → order.Answer → Reply
  | .register .., row => .created (User.toJson row)
  | .updateUser .., row | .user _, row => .ok (User.toJson row)
  | .openAccount .., row => .created (Account.toJson row)
  | .account .., row => .ok (Account.toJson row)
  | .accounts _, rows | .deletedAccounts _, rows => .ok (.list (List.map Account.toJson rows))
  | .deleteAccount .., _ | .restoreAccount .., _ => .ok .null
  | .transfer .., movement => .created (Movement.toJson movement)
  | .transferById .., row => .ok (Transfer.toJson row)
  | .transfersOf .., rows => .ok (.list (List.map Transfer.toJson rows))
  | .login .., opened => .ok (Login.toJson opened)
  | .renew _, renewed => .ok (Renewal.toJson renewed)

namespace Gateway

open Handler

variable {α : Type}

/-- What a request comes to. -/
inductive Plan where
  /-- It is answered as it is, without the bank. -/
  | answer (reply : Reply)
  /-- It asks for something that the bank does not have. -/
  | decline (error : BankError)
  | health
  | order (asked : Bank.Order)

namespace Plan

/-- Tells the client of a failure of the bank, and the log if the client is told nothing. -/
def answerFailure (error : BankError) : Operation Reply := do
  if let some event := Refusal.event? error then Operation.report event
  return (Refusal.ofError error).toReply

/-- Carries out a plan. -/
def carryOut (gateway : Gateway) : Plan → Operation Reply
  | .answer reply => return reply
  | .decline error => answerFailure error
  | .health => finish gateway.health
  | .order asked => do
    match ← (gateway.bank.attempt asked).run with
    | .ok value => return asked.reply value
    | .error error => answerFailure error

/-- The plan after a part of a request was read. A part that cannot be read is the last. -/
def after (first : Handler α) (next : α → Plan) : Plan :=
  match first.run with
  | .done (.ok value) => next value
  | .done (.error reply) => .answer reply
  -- Reading asks nothing of the surroundings.
  | .ask .. => .answer .notFound

end Plan

/-- The plan for a request to a route that takes no token. -/
def planPublic (request : Request) : Route → Plan
  | .health => .health
  | .users => .after (body Registration.form request) fun content =>
    .order (.register content.username content.fullName content.email content.password)
  | .login => .after (body Credentials.form request) fun content =>
    .order (.login content.username content.password request.client)
  | .renewal => .after (body RenewalRequest.form request) fun content =>
    .order (.renew content.refreshToken)
  | .documentation => .answer (.seeOther "/docs/")
  | .description => .answer { status := 200, content := .document Description.json }
  | _ => .answer .notFound

/-- The plan for a request of a caller to a route that takes a token. -/
def planPrivate (caller : String) (request : Request) (verb : Verb) : Route → Plan
  | .profile =>
    if verb = .patch then .after (body ProfileUpdate.form request) fun update =>
      .order (.updateUser caller update)
    else .order (.user caller)
  | .accounts =>
    if verb = .post then .after (body AccountRequest.form request) fun content =>
      match Currency.parse content.currency with
      | .ok currency => .order (.openAccount caller currency)
      | .error error => .decline error
    else .order (.accounts caller)
  | .deletedAccounts => .order (.deletedAccounts caller)
  | .account id => .after (pathId id) fun id =>
    .order (if verb = .delete then .deleteAccount caller id else .account caller id)
  | .restoration id => .after (pathId id) fun id => .order (.restoreAccount caller id)
  | .history id => .after (pathId id) fun id => .after (query PageRequest.form request) fun content =>
    match Page.make content.number content.size with
    | .ok page => .order (.transfersOf caller id page)
    | .error error => .decline error
  | .transfers => .after (body TransferRequest.form request) fun content =>
    .order (.transfer caller content.fromAccountId content.toAccountId content.amount)
  | .transfer id => .after (pathId id) fun id => .order (.transferById caller id)
  | _ => .answer .notFound

/-- What a method asks for at a route, if that is allowed there. -/
def verb? (request : Request) (route : Route) : Option Verb :=
  (Verb.ofMethod? request.method).filter route.verbs.contains

/-- The plan for a request to a private route, once it is known or not whom it comes from. -/
def planBehind (request : Request) (route : Route) : Except Reply Claims → Plan
  | .error reply => .answer reply
  | .ok claims =>
    match verb? request route with
    | some verb => planPrivate claims.username request verb route
    | none => .answer (.notAllowed [])

/-- Draws up the plan for a request to a route. -/
def planAt (gateway : Gateway) (request : Request) (route : Route) : Operation Plan :=
  if route.isPrivate then do
    return planBehind request route (← (gateway.authenticate request).run)
  else
    match verb? request route with
    | some _ => return planPublic request route
    | none => return .answer (.notAllowed [])

/-- Draws up the plan for a request. -/
def plan (gateway : Gateway) (request : Request) : Operation Plan :=
  match Route.ofPath? request.path with
  | some route => gateway.planAt request route
  | none => return .answer .notFound

/-- A reply on its way out. -/
def send (request : Request) (reply : Reply) : Reply :=
  match Route.ofPath? request.path with
  | some route => mark request route reply
  | none => reply

/-- On its way out a reply keeps its status and its content. -/
@[simp] theorem status_send (request : Request) (reply : Reply) :
    (send request reply).status = reply.status := by
  unfold send
  cases Route.ofPath? request.path <;> rfl

@[simp] theorem content_send (request : Request) (reply : Reply) :
    (send request reply).content = reply.content := by
  unfold send
  cases Route.ofPath? request.path <;> rfl

/-! ## What is read -/

/-- A body is read as content that keeps its rules, or the request is refused. -/
theorem body_cases (form : Form α) (request : Request) :
    (∃ content, readBody form request = .ok content ∧ form.violations content = [] ∧
        body form request = pure content) ∨
      ∃ notice, body form request = refuse (.badRequest notice) := by
  unfold body checked
  cases readBody form request with
  | error fault => exact .inr ⟨_, rfl⟩
  | ok content =>
      dsimp only
      cases broken : form.violations content with
      | nil => exact .inl ⟨content, rfl, broken, rfl⟩
      | cons first others => exact .inr ⟨_, rfl⟩

/-- A query is read as content that keeps its rules, or the request is refused. -/
theorem query_cases (form : Form α) (request : Request) :
    (∃ content, form.violations content = [] ∧ query form request = pure content) ∨
      ∃ notice, query form request = refuse (.badRequest notice) := by
  unfold query checked
  cases form.ofQuery (Utf8.encode request.query) with
  | error fault => exact .inr ⟨_, rfl⟩
  | ok content =>
      dsimp only
      cases broken : form.violations content with
      | nil => exact .inl ⟨content, broken, rfl⟩
      | cons first others => exact .inr ⟨_, rfl⟩

/-- What holds of the plan for content that keeps its rules, and of a refusal, holds of the plan for
a body. -/
theorem Plan.after_body {form : Form α} {request : Request} {onward : α → Plan}
    {property : Plan → Prop}
    (isRead : ∀ content, readBody form request = .ok content → form.violations content = [] →
      property (onward content))
    (isRefused : ∀ notice, property (.answer (Refusal.badRequest notice).toReply)) :
    property (.after (body form request) onward) := by
  rcases body_cases form request with ⟨content, read, kept, same⟩ | ⟨notice, same⟩
  · rw [same]
    exact isRead content read kept
  · rw [same]
    exact isRefused notice

/-- What holds of the plan for content that keeps its rules, and of a refusal, holds of the plan for
a query. -/
theorem Plan.after_query {form : Form α} {request : Request} {onward : α → Plan}
    {property : Plan → Prop}
    (isRead : ∀ content, form.violations content = [] → property (onward content))
    (isRefused : ∀ notice, property (.answer (Refusal.badRequest notice).toReply)) :
    property (.after (query form request) onward) := by
  rcases query_cases form request with ⟨content, kept, same⟩ | ⟨notice, same⟩
  · rw [same]
    exact isRead content kept
  · rw [same]
    exact isRefused notice

/-- The plan for a body of which it was computed what is read from it. -/
theorem Plan.after_body_of_toOption {form : Form α} {request : Request} {content : α}
    {onward : α → Plan} (isRead : (readBody form request).toOption = some content)
    (kept : (form.violations content).isEmpty) :
    Plan.after (body form request) onward = onward content := by
  unfold body checked
  cases read : readBody form request with
  | error fault => simp [read, Except.toOption] at isRead
  | ok found =>
      obtain rfl : found = content := by simpa [read, Except.toOption] using isRead
      dsimp only
      rw [List.isEmpty_iff.mp kept]
      rfl

theorem Plan.after_pathId_of_ok {text : String} {id : Int} {onward : Int → Plan}
    (isId : Route.readId text = .ok id) : Plan.after (pathId text) onward = onward id := by
  unfold pathId
  rw [isId]
  rfl

theorem Plan.after_pathId_of_error {text : String} {fault : Route.IdFault} {onward : Int → Plan}
    (isNone : Route.readId text = .error fault) : Plan.after (pathId text) onward =
      .answer { status := 400, content := .plain fault.message } := by
  unfold pathId
  rw [isNone]
  rfl

/-- What holds of the plan for an identifier, and of a refusal, holds of the plan for a path. -/
theorem Plan.after_pathId {text : String} {onward : Int → Plan} {property : Plan → Prop}
    (isRead : ∀ id, property (onward id))
    (isRefused : ∀ fault : Route.IdFault,
      property (.answer { status := 400, content := .plain fault.message })) :
    property (.after (pathId text) onward) := by
  cases read : Route.readId text with
  | ok id =>
      rw [Plan.after_pathId_of_ok read]
      exact isRead id
  | error fault =>
      rw [Plan.after_pathId_of_error read]
      exact isRefused fault

/-! ## The plan is what is done -/

variable {gateway : Gateway} {request : Request}

/-- A part that reads comes first in the plan as well. -/
theorem finish_after {first : Handler α} (settled : first.IsSettled) {next : α → Handler Reply}
    {onward : α → Plan} (same : ∀ value, finish (next value) = (onward value).carryOut gateway) :
    finish (first >>= next) = (Plan.after first onward).carryOut gateway := by
  -- A handler that is settled asks for nothing, so that its result is at hand.
  obtain ⟨result, rfl⟩ := settled
  cases result with
  | ok value => exact same value
  | error reply => rfl

/-- Whatever comes after it, a failure ends the handling. -/
theorem finish_attempt_error {error : BankError} {next : α → Handler Reply} :
    finish (attempt (.ofExcept (.error error)) >>= next) = Plan.answerFailure error := by
  rw [finish_bind]
  unfold attempt Plan.answerFailure
  simp only [Attempt.ofExcept, ExceptT.run_mk, pure_bind]
  cases Refusal.event? error <;> rfl

theorem finish_order (asked : Bank.Order) :
    finish (attempt (gateway.bank.attempt asked) >>= fun value => pure (asked.reply value)) =
      (Plan.order asked).carryOut gateway := by
  rw [finish_bind]
  refine (Operation.andThen_assoc _ _ _).trans ?_
  refine congrArg (Operation.andThen _) (funext fun result => ?_)
  cases result with
  | ok value => rfl
  | error error =>
      dsimp only
      unfold Plan.answerFailure
      cases Refusal.event? error <;> rfl

theorem finish_handlePublic (request : Request) (route : Route) :
    finish (gateway.handlePublic request route) = (planPublic request route).carryOut gateway := by
  cases route with
  | health => rfl
  | users => exact finish_after (settled_body _ request) fun content => finish_order (.register ..)
  | login => exact finish_after (settled_body _ request) fun content => finish_order (.login ..)
  | renewal => exact finish_after (settled_body _ request) fun content => finish_order (.renew _)
  | documentation | description => rfl
  | profile | accounts | deletedAccounts | account _ | restoration _ | history _ | transfers
  | transfer _ => rfl

theorem finish_handlePrivate (caller : String) (request : Request) (verb : Verb) (route : Route) :
    finish (gateway.handlePrivate caller request verb route) =
      (planPrivate caller request verb route).carryOut gateway := by
  cases route with
  | profile =>
      simp only [handlePrivate, planPrivate]
      split
      · exact finish_after (settled_body _ request) fun update => finish_order (.updateUser ..)
      · exact finish_order (.user caller)
  | accounts =>
      simp only [handlePrivate, planPrivate]
      split
      · refine finish_after (settled_body _ request) fun content => ?_
        cases Currency.parse content.currency with
        | ok currency => exact finish_order (.openAccount caller currency)
        | error error => exact finish_attempt_error
      · exact finish_order (.accounts caller)
  | deletedAccounts => exact finish_order (.deletedAccounts caller)
  | account id =>
      simp only [handlePrivate, planPrivate]
      split
      · exact finish_after (settled_pathId id) fun id => finish_order (.deleteAccount caller id)
      · exact finish_after (settled_pathId id) fun id => finish_order (.account caller id)
  | restoration id =>
      exact finish_after (settled_pathId id) fun id => finish_order (.restoreAccount caller id)
  | history id =>
      refine finish_after (settled_pathId id) fun id => ?_
      refine finish_after (settled_query _ request) fun content => ?_
      cases Page.make content.number content.size with
      | ok page => exact finish_order (.transfersOf caller id page)
      | error error => exact finish_attempt_error
  | transfers =>
      exact finish_after (settled_body _ request) fun content => finish_order (.transfer ..)
  | transfer id =>
      exact finish_after (settled_pathId id) fun id => finish_order (.transferById caller id)
  | health | users | login | renewal | documentation | description => rfl

/-- Behind the gate the plan of the caller is carried out. -/
theorem finish_behind (request : Request) (route : Route) (claims : Claims) :
    finish (gateway.behind request route claims) =
      (planBehind request route (.ok claims)).carryOut gateway := by
  unfold behind planBehind verb?
  dsimp only
  cases (Verb.ofMethod? request.method).filter route.verbs.contains with
  | some verb => exact finish_handlePrivate claims.username request verb route
  | none => rfl

theorem finish_authenticate {route : Route} (isPrivate : route.isPrivate = true) :
    finish (gateway.authenticate request >>= gateway.behind request route) =
      (gateway.planAt request route).andThen (Plan.carryOut gateway) := by
  unfold planAt
  rw [finish_bind, if_pos isPrivate]
  refine Eq.trans ?_ (Operation.andThen_assoc _ _ _).symm
  refine congrArg (Operation.andThen _) (funext fun result => ?_)
  cases result with
  | error reply => rfl
  | ok claims => exact finish_behind request route claims

theorem handleAt_eq_plan (gateway : Gateway) (request : Request) (route : Route) :
    gateway.handleAt request route = ((gateway.planAt request route).andThen
      (Plan.carryOut gateway)).andThen fun reply => .done (mark request route reply) := by
  cases isPrivate : route.isPrivate with
  | true =>
      rw [← finish_authenticate isPrivate]
      simp only [handleAt, if_pos isPrivate]
      rfl
  | false =>
      simp only [handleAt, planAt, mark, verb?, isPrivate, Bool.false_eq_true, if_false]
      cases (Verb.ofMethod? request.method).filter route.verbs.contains with
      | some verb =>
          dsimp only
          rw [finish_handlePublic]
          rfl
      | none => rfl

/-- To handle a request is to draw up its plan and to carry it out. -/
theorem handle_eq_plan (gateway : Gateway) (request : Request) :
    gateway.handle request = ((gateway.plan request).andThen (Plan.carryOut gateway)).andThen
      fun reply => .done (send request reply) := by
  unfold plan send handle
  cases Route.ofPath? request.path with
  | none => rfl
  | some route => exact gateway.handleAt_eq_plan request route

/-! ## A sign of life -/

/-- What a request for a sign of life may be answered with. -/
inductive Pulse (gateway : Gateway) : Reply → Prop where
  | alive (now : Instant) : Pulse gateway (.ok (.object [("timestamp_ms", .int now.milliseconds),
      ("version", .text gateway.version)]))
  | silent : Pulse gateway (Refusal.unavailable "unavailable").toReply

/-- A sign of life is given when there is no database, or one that answers. -/
theorem ends_health (gateway : Gateway) : (finish gateway.health).Ends gateway.Pulse := by
  unfold health
  cases gateway.hasDatabase with
  | false => exact fun now => .alive now
  | true =>
      intro alive
      cases alive with
      | error failure => exact fun _ => .silent
      | ok _ => exact fun now => .alive now

/-! ## Which plan is drawn up -/

/-- What a request comes to at an instant. -/
inductive Plans (gateway : Gateway) (now : Instant) (request : Request) : Plan → Prop where
  | lost (astray : Route.ofPath? request.path = none) :
      Plans gateway now request (.answer .notFound)
  | unknown {route : Route} (leads : Route.ofPath? request.path = some route)
      (isPrivate : route.isPrivate = true) (isUnknown : ∀ claims, ¬gateway.Knows now request claims)
      {reply : Reply} (refused : IsRefused request reply) : Plans gateway now request (.answer reply)
  | notAllowed {route : Route} (leads : Route.ofPath? request.path = some route)
      (nothing : verb? request route = none) : Plans gateway now request (.answer (.notAllowed []))
  | anyone {route : Route} (leads : Route.ofPath? request.path = some route)
      (isPublic : route.isPrivate = false) : Plans gateway now request (planPublic request route)
  | known {route : Route} (leads : Route.ofPath? request.path = some route)
      (isPrivate : route.isPrivate = true) {claims : Claims}
      (knows : gateway.Knows now request claims) {verb : Verb}
      (asks : verb? request route = some verb) :
      Plans gateway now request (planPrivate claims.username request verb route)

theorem tryOut_planAt {route : Route} (isPrivate : route.isPrivate = true) (course : Course)
    (trial : Trial) : (gateway.planAt request route).tryOut course trial =
      Prod.map (planBehind request route) id
        ((gateway.authenticate request).run.tryOut course trial) := by
  unfold planAt
  rw [if_pos isPrivate]
  exact Operation.run_andThen ..

/-- The plan for a request of a caller who is known. -/
theorem tryOut_plan_of_knows {route : Route} (leads : Route.ofPath? request.path = some route)
    (isPrivate : route.isPrivate = true) {course : Course} {trial : Trial} {claims : Claims}
    (knows : gateway.Knows (course.answers trial.met .clock) request claims) :
    (gateway.plan request).tryOut course trial =
      (planBehind request route (.ok claims), ⟨trial.tables, trial.calls, trial.met + 1⟩) := by
  unfold plan
  rw [leads]
  refine (tryOut_planAt isPrivate course trial).trans ?_
  rw [tryOut_authenticate_of_knows knows]
  rfl

/-- The plan for a request to a route that takes no token. -/
theorem tryOut_plan_of_public {route : Route} (leads : Route.ofPath? request.path = some route)
    (isPublic : route.isPrivate = false) {verb : Verb} (asks : verb? request route = some verb)
    (course : Course) (trial : Trial) :
    (gateway.plan request).tryOut course trial = (planPublic request route, trial) := by
  unfold plan
  rw [leads]
  dsimp only
  unfold planAt
  rw [if_neg (Bool.eq_false_iff.mp isPublic), asks]
  rfl

/-- A plan is drawn up without the store. -/
theorem exists_tryOut_plan (gateway : Gateway) (request : Request) (course : Course)
    (trial : Trial) : ∃ plan met,
      (gateway.plan request).tryOut course trial = (plan, ⟨trial.tables, trial.calls, met⟩) ∧
        gateway.Plans (course.answers trial.met .clock) request plan := by
  unfold plan
  cases leads : Route.ofPath? request.path with
  | none => exact ⟨_, _, rfl, .lost leads⟩
  | some route =>
      dsimp only
      cases isPrivate : route.isPrivate with
      | false =>
          unfold planAt
          rw [if_neg (Bool.eq_false_iff.mp isPrivate)]
          cases asks : verb? request route with
          | some verb => exact ⟨_, _, rfl, .anyone leads isPrivate⟩
          | none => exact ⟨_, _, rfl, .notAllowed leads asks⟩
      | true =>
          rw [tryOut_planAt isPrivate]
          by_cases isKnown :
              ∃ claims, gateway.Knows (course.answers trial.met .clock) request claims
          · obtain ⟨claims, knows⟩ := isKnown
            rw [tryOut_authenticate_of_knows knows]
            refine ⟨_, _, rfl, ?_⟩
            unfold planBehind
            cases asks : verb? request route with
            | some verb => exact .known leads isPrivate knows asks
            | none => exact .notAllowed leads asks
          · obtain ⟨reply, met, fails, refused⟩ :=
              tryOut_authenticate_of_not_knows (not_exists.mp isKnown)
            rw [fails]
            exact ⟨_, _, rfl, .unknown leads isPrivate (not_exists.mp isKnown) refused⟩

/-! ## What comes of a plan -/

namespace Plan

theorem tryOut_answerFailure (error : BankError) (course : Course) (trial : Trial) :
    ∃ met, (answerFailure error).tryOut course trial =
      ((Refusal.ofError error).toReply, ⟨trial.tables, trial.calls, met⟩) := by
  unfold answerFailure
  cases Refusal.event? error with
  | none => exact ⟨_, rfl⟩
  | some event => exact ⟨_, rfl⟩

/-- How an order is answered, and what it leaves. -/
theorem tryOut_order (asked : Bank.Order) (course : Course) {trial later : Trial}
    {result : Except BankError asked.Answer}
    (outcome : (gateway.bank.attempt asked).run.tryOut course trial = (result, later)) :
    ∃ met, ((Plan.order asked).carryOut gateway).tryOut course trial =
      (match result with
        | .ok value => asked.reply value
        | .error error => (Refusal.ofError error).toReply, ⟨later.tables, later.calls, met⟩) := by
  have parts := Operation.run_andThen course.surroundings (gateway.bank.attempt asked).run
    (fun | .ok value => .done (asked.reply value) | .error error => answerFailure error) trial
  unfold Operation.tryOut at outcome
  rw [outcome] at parts
  cases result with
  | ok value => exact ⟨_, parts⟩
  | error error =>
      obtain ⟨met, answered⟩ := tryOut_answerFailure error course later
      exact ⟨met, parts.trans answered⟩

/-- The failure that was come to, if it was one. -/
def failureOf? {Value : Type} : Except BankError Value → Option BankError
  | .ok _ => none
  | .error error => some error

/-- The failure of the bank in which it ends that a plan is carried out, if it ends in one. -/
def failure? (gateway : Gateway) (course : Course) (trial : Trial) : Plan → Option BankError
  | .answer _ | .health => none
  | .decline error => some error
  | .order asked => failureOf? ((gateway.bank.attempt asked).run.tryOut course trial).1

theorem failure?_order {asked : Bank.Order} {course : Course} {trial later : Trial}
    {result : Except BankError asked.Answer}
    (outcome : (gateway.bank.attempt asked).run.tryOut course trial = (result, later)) :
    (Plan.order asked).failure? gateway course trial = failureOf? result :=
  congrArg failureOf? (congrArg Prod.fst outcome)

/-- A failure is answered with its refusal. -/
theorem tryOut_of_failure {plan : Plan} {course : Course} {trial : Trial} {error : BankError}
    (fails : plan.failure? gateway course trial = some error) :
    ((plan.carryOut gateway).tryOut course trial).1 = (Refusal.ofError error).toReply := by
  cases plan with
  | answer reply | health => cases fails
  | decline declined =>
      obtain rfl := Option.some.inj fails
      obtain ⟨met, answered⟩ := tryOut_answerFailure declined course trial
      exact congrArg Prod.fst answered
  | order asked =>
      cases outcome : (gateway.bank.attempt asked).run.tryOut course trial with
      | mk result later =>
          obtain ⟨met, answered⟩ := tryOut_order asked course outcome
          rw [failure?_order outcome] at fails
          rw [answered]
          cases result with
          | ok value => cases fails
          | error failure =>
              obtain rfl := Option.some.inj fails
              rfl

end Plan

/-- The failure of the bank in which the handling of a request ends, if it ends in one. -/
def failure? (gateway : Gateway) (request : Request) (course : Course) (tables : Tables) :
    Option BankError :=
  let (plan, trial) := (gateway.plan request).tryOut course (.start tables)
  plan.failure? gateway course trial

theorem tryOut_handle (gateway : Gateway) (request : Request) {course : Course}
    {trial middle : Trial} {plan : Plan}
    (planned : (gateway.plan request).tryOut course trial = (plan, middle)) :
    (gateway.handle request).tryOut course trial =
      Prod.map (send request) id ((plan.carryOut gateway).tryOut course middle) := by
  unfold Operation.tryOut at planned ⊢
  rw [handle_eq_plan, Operation.run_andThen, Operation.run_andThen, planned]
  rfl

/-- A request whose handling ends in a failure is answered with the refusal of that failure. -/
theorem tryOut_handle_of_failure {course : Course} {tables : Tables} {error : BankError}
    (fails : gateway.failure? request course tables = some error) :
    ((gateway.handle request).tryOut course (.start tables)).1 =
      send request (Refusal.ofError error).toReply := by
  cases planned : (gateway.plan request).tryOut course (.start tables) with
  | mk plan trial =>
      unfold failure? at fails
      rw [planned] at fails
      rw [tryOut_handle gateway request planned]
      exact congrArg (send request) (Plan.tryOut_of_failure fails)

/-- Whatever token Alice's wish carries, it comes to her order. -/
theorem planBehind_wish {token : String} :
    planBehind (wish.carrying token) (.restoration "7") (.ok (minute .access)) =
      .order (.restoreAccount "alice" 7) := by
  have isId : Route.readId "7" = .ok 7 := by decide +kernel
  have asks : verb? (wish.carrying token) (.restoration "7") = some .post :=
    (by decide : verb? wish (.restoration "7") = some .post)
  simp only [planBehind, asks, planPrivate, Plan.after_pathId_of_ok isId]
  rfl

end Gateway

end Countinghouse
