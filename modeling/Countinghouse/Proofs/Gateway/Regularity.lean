import Countinghouse.Proofs.Bank.Permission
import Countinghouse.Proofs.Gateway.Honesty
import Countinghouse.Proofs.Store.Regularity

/-!
# What is stored keeps the rules of requests

Rules are checked when a request is read, and never again. An order that a request comes to is
regular: its texts are those of content that kept the rules, and its caller is a user. So is every
call that is made for it, and with it whatever is stored, visit after visit. A body that breaks the
rules of its form comes to no order at all.
-/

namespace Countinghouse

/-- The texts of an order keep the rules for what is stored. -/
def Bank.Order.IsRegular : Bank.Order → Prop
  | .register username fullName email _ => IsProfile username fullName email
  | .updateUser caller update =>
    (StoreCall.updateUser ⟨caller, update.fullName, update.email, none⟩).IsRegular
  | .openAccount caller _ => IsUsername caller
  | .login username _ _ => IsUsername username
  | _ => True

/-- What is permitted for a regular order is a regular call. -/
theorem Bank.isRegular_of_permits {bank : Bank} {order : Bank.Order} {tables : Tables}
    {call : StoreCall} (regular : order.IsRegular) (permitted : bank.Permits order tables call) :
    call.IsRegular := by
  cases call with
  | createUser new =>
      obtain ⟨password, rfl⟩ := permitted
      exact regular
  | updateUser change =>
      obtain ⟨oldPassword, newPassword, rfl⟩ := permitted
      exact regular
  | createAccount new =>
      obtain ⟨rfl, -⟩ := permitted
      exact regular
  | createSession new =>
      obtain ⟨password, rfl⟩ := permitted
      exact regular
  | _ => trivial

/-! ## Rules of forms -/

theorem isUsername_of_violations {field name : String}
    (kept : TextRule.violations field name usernameRules = []) : IsUsername name := by
  have length : TextRule.holds name (.length 6 (some 16)) = true :=
    TextRule.holds_of_violations kept (by simp [usernameRules])
  have alphanumeric : TextRule.holds name .alphanumeric = true :=
    TextRule.holds_of_violations kept (by simp [usernameRules])
  simp only [TextRule.holds, Option.all_some, Bool.and_eq_true, decide_eq_true_eq] at length
  exact ⟨length.1, length.2, List.all_eq_true.mp alphanumeric⟩

theorem ne_empty_of_violations {field text : String}
    (kept : TextRule.violations field text [.length 1 none] = []) : text ≠ "" := by
  rintro rfl
  cases kept

theorem isValid_of_violations {field email : String}
    (kept : TextRule.violations field email [.email] = []) : Email.isValid email = true :=
  TextRule.holds_of_violations kept (List.mem_singleton_self TextRule.email)

theorem Registration.isProfile {registration : Registration}
    (kept : registration.violations = []) :
    IsProfile registration.username registration.fullName registration.email := by
  simp only [violations, List.append_eq_nil_iff] at kept
  obtain ⟨⟨⟨⟨username, fullName⟩, email⟩, -⟩, -⟩ := kept
  exact ⟨isUsername_of_violations username, ne_empty_of_violations fullName,
    isValid_of_violations email⟩

theorem Credentials.isUsername {credentials : Credentials} (kept : credentials.violations = []) :
    IsUsername credentials.username :=
  isUsername_of_violations (List.append_eq_nil_iff.mp kept).1

theorem ProfileUpdate.isRegular {update : ProfileUpdate} {caller : String}
    (kept : update.violations = []) (isUsername : IsUsername caller) :
    (Bank.Order.updateUser caller update).IsRegular := by
  simp only [violations, List.append_eq_nil_iff] at kept
  obtain ⟨⟨⟨fullNameKept, emailKept⟩, -⟩, -⟩ := kept
  refine ⟨isUsername, fun fullName isAsked => ?_, fun email isAsked => ?_⟩
  · rw [show update.fullName = some fullName from isAsked] at fullNameKept
    exact ne_empty_of_violations fullNameKept
  · rw [show update.email = some email from isAsked] at emailKept
    exact isValid_of_violations emailKept

namespace Gateway

open Handler

variable {gateway : Gateway} {request : Request} {route : Route} {tables : Tables} {past : Past}
  {visit : Visit}

/-! ## Plans -/

/-- An order of the plan is regular. -/
def Plan.IsRegular : Plan → Prop
  | .order asked => asked.IsRegular
  | .answer _ | .decline _ | .health => True

theorem isRegular_planPublic : (planPublic request route).IsRegular := by
  cases route with
  | users => exact Plan.after_body (fun _ _ kept => Registration.isProfile kept) fun _ => trivial
  | login => exact Plan.after_body (fun _ _ kept => Credentials.isUsername kept) fun _ => trivial
  | renewal => exact Plan.after_body (fun _ _ _ => trivial) fun _ => trivial
  | health | documentation | description | profile | accounts | deletedAccounts | account _
  | restoration _ | history _ | transfers | transfer _ => trivial

theorem isRegular_planPrivate {caller : String} (isUsername : IsUsername caller) (verb : Verb) :
    (planPrivate caller request verb route).IsRegular := by
  cases route with
  | profile =>
      simp only [planPrivate]
      split
      · exact Plan.after_body (fun content _ kept => ProfileUpdate.isRegular kept isUsername)
          fun _ => trivial
      · trivial
  | accounts =>
      simp only [planPrivate]
      split
      · refine Plan.after_body (fun content _ _ => ?_) fun _ => trivial
        split
        · exact isUsername
        · trivial
      · trivial
  | account text =>
      refine Plan.after_pathId (fun id => ?_) fun _ => trivial
      split <;> trivial
  | restoration text | transfer text => exact Plan.after_pathId (fun _ => trivial) fun _ => trivial
  | history text =>
      refine Plan.after_pathId (fun id => ?_) fun _ => trivial
      refine Plan.after_query (fun content _ => ?_) fun _ => trivial
      split <;> trivial
  | transfers => exact Plan.after_body (fun _ _ _ => trivial) fun _ => trivial
  | deletedAccounts | health | users | login | renewal | documentation | description => trivial

/-- Whatever a request comes to is regular, if who is known to send one has a username. -/
theorem Plans.isRegular {now : Instant} {plan : Plan} (plans : gateway.Plans now request plan)
    (isUsername : ∀ claims, gateway.Knows now request claims → IsUsername claims.username) :
    plan.IsRegular := by
  cases plans with
  | lost _ | unknown _ _ _ _ | notAllowed _ _ => trivial
  | anyone _ _ => exact isRegular_planPublic
  | known _ _ knows _ => exact isRegular_planPrivate (isUsername _ knows) _

/-- A regular plan makes regular calls only, and keeps the tables regular. -/
theorem Plan.IsRegular.carryOut {plan : Plan} (regular : plan.IsRegular) (gateway : Gateway)
    {course : Course} (noFault : ∀ met, course.fault? met = none) (trial : Trial)
    (isRegular : trial.tables.IsRegular) :
    ((plan.carryOut gateway).tryOut course trial).2.tables.IsRegular ∧
      ∀ entry ∈ ((plan.carryOut gateway).tryOut course trial).2.calls,
        entry ∈ trial.calls ∨ entry.1.IsRegular := by
  cases plan with
  | answer reply => exact ⟨isRegular, fun entry member => .inl member⟩
  | decline error =>
      obtain ⟨met, answered⟩ := tryOut_answerFailure error course trial
      rw [show (Plan.decline error).carryOut gateway = answerFailure error from rfl, answered]
      exact ⟨isRegular, fun entry member => .inl member⟩
  | health =>
      obtain ⟨-, sameTables, sameCalls⟩ := (ends_health gateway).tryOut course trial
      change ((finish gateway.health).tryOut course trial).2.tables.IsRegular ∧ _
      exact ⟨sameTables ▸ isRegular, fun entry member => .inl (sameCalls ▸ member)⟩
  | order asked =>
      have guarded := (Bank.attempt_guarded gateway.bank asked trial.tables).forget
      obtain ⟨regularAfter, made⟩ := Operation.Guarded.tryOut (fun _ _ known => known) noFault trial
        (fun now call found permitted regularFound =>
          regularFound.perform (Bank.isRegular_of_permits regular permitted) now) guarded isRegular
      cases outcome : (gateway.bank.attempt asked).run.tryOut course trial with
      | mk result later =>
          obtain ⟨met, answered⟩ := tryOut_order asked course outcome
          rw [outcome] at regularAfter made
          rw [answered]
          refine ⟨regularAfter, fun entry member => (made entry member).imp_right ?_⟩
          rintro ⟨found, -, permitted⟩
          exact Bank.isRegular_of_permits regular permitted

/-! ## Visits -/

/-- The calls that are made of the store while a visit is received. -/
def calls (gateway : Gateway) (past : Past) (visit : Visit) : List StoreCall :=
  ((gateway.handle visit.request).tryOut visit.course (.start past.tables)).2.calls.map Prod.fst

/-- A user goes by a username. -/
theorem isUsername_of_isUser (regular : tables.IsRegular) {name : String}
    (isUser : tables.IsUser name) : IsUsername name := by
  obtain ⟨user, stored⟩ := isUser
  obtain ⟨member, rfl⟩ := Tables.user?_some stored
  exact (regular.users user member).username

/-- While an honest visit lasts, regular calls are made only, and the tables stay regular. -/
theorem IsHonest.isRegular (honest : gateway.IsHonest past visit)
    (vouched : past.IsVouchedFor gateway.bank) (regular : past.tables.IsRegular) :
    (gateway.attend past visit).tables.IsRegular ∧
      ∀ call ∈ gateway.calls past visit, call.IsRegular := by
  obtain ⟨plan, met, planned, plans⟩ :=
    exists_tryOut_plan gateway visit.request visit.course (.start past.tables)
  have isRegular : plan.IsRegular := plans.isRegular fun claims knows =>
    isUsername_of_isUser regular (honest.isUser vouched knows)
  obtain ⟨regularAfter, made⟩ := isRegular.carryOut gateway honest.smooth.noFault
    ⟨past.tables, [], met⟩ regular
  have handled := tryOut_handle gateway visit.request planned
  refine ⟨?_, fun call isMade => ?_⟩
  · change ((gateway.handle visit.request).tryOut visit.course _).2.tables.IsRegular
    rw [handled]
    exact regularAfter
  · unfold calls at isMade
    rw [handled] at isMade
    obtain ⟨entry, member, rfl⟩ := List.mem_map.mp isMade
    exact (made entry member).resolve_left nofun

/-- After a series of honest visits the tables are regular, and what was handed out is vouched
for. -/
theorem isRegular_foldl (failsInside : gateway.bank.passwords.FailsInside)
    {earlier later : List Visit} (honest : gateway.AreHonest past (earlier ++ later))
    (vouched : past.IsVouchedFor gateway.bank) (regular : past.tables.IsRegular) :
    (earlier.foldl gateway.attend past).tables.IsRegular ∧
      (earlier.foldl gateway.attend past).IsVouchedFor gateway.bank ∧
      gateway.AreHonest (earlier.foldl gateway.attend past) later := by
  induction earlier generalizing past with
  | nil => exact ⟨regular, vouched, honest⟩
  | cons visit rest inductionHypothesis =>
      exact inductionHypothesis honest.2 (honest.1.attend failsInside vouched).2
        (honest.1.isRegular vouched regular).1

/-! ## Bodies that break the rules -/

/-- The body of a request is not content that keeps the rules of a form. -/
def Breaks {α : Type} (request : Request) (form : Form α) : Prop :=
  ∀ content, readBody form request = .ok content → form.violations content ≠ []

/-- The body of a request breaks the rules of the form that is asked for. -/
def BreaksRules (request : Request) : Route → Verb → Prop
  | .users, .post => Breaks request Registration.form
  | .login, .post => Breaks request Credentials.form
  | .renewal, .post => Breaks request RenewalRequest.form
  | .profile, .patch => Breaks request ProfileUpdate.form
  | .accounts, .post => Breaks request AccountRequest.form
  | .transfers, .post => Breaks request TransferRequest.form
  | _, _ => False

theorem Breaks.after {α : Type} {form : Form α} (breaks : Breaks request form) (onward : α → Plan) :
    ∃ reply, Plan.after (body form request) onward = .answer reply := by
  rcases body_cases form request with ⟨content, isRead, kept, -⟩ | ⟨notice, same⟩
  · exact absurd kept (breaks content isRead)
  · rw [same]
    exact ⟨_, rfl⟩

theorem exists_answer_planPublic (isPublic : route.isPrivate = false) {verb : Verb}
    (breaks : BreaksRules request route verb) :
    ∃ reply, planPublic request route = .answer reply := by
  unfold BreaksRules at breaks
  split at breaks
  · exact breaks.after _
  · exact breaks.after _
  · exact breaks.after _
  · cases isPublic
  · cases isPublic
  · cases isPublic
  · exact breaks.elim

theorem exists_answer_planPrivate (isPrivate : route.isPrivate = true) (caller : String)
    {verb : Verb} (breaks : BreaksRules request route verb) :
    ∃ reply, planPrivate caller request verb route = .answer reply := by
  unfold BreaksRules at breaks
  split at breaks
  · cases isPrivate
  · cases isPrivate
  · cases isPrivate
  · exact breaks.after _
  · exact breaks.after _
  · exact breaks.after _
  · exact breaks.elim

/-- What breaks the rules is answered without the bank. -/
theorem Plans.exists_answer {now : Instant} {plan : Plan} {verb : Verb}
    (plans : gateway.Plans now request plan) (leads : Route.ofPath? request.path = some route)
    (asks : verb? request route = some verb) (breaks : BreaksRules request route verb) :
    ∃ reply, plan = .answer reply := by
  cases plans with
  | lost _ | unknown _ _ _ _ | notAllowed _ _ => exact ⟨_, rfl⟩
  | anyone leadsThere isPublic =>
      obtain rfl := Option.some.inj (leadsThere.symm.trans leads)
      exact exists_answer_planPublic isPublic breaks
  | known leadsThere isPrivate knows asksFor =>
      obtain rfl := Option.some.inj (leadsThere.symm.trans leads)
      obtain rfl := Option.some.inj (asksFor.symm.trans asks)
      exact exists_answer_planPrivate isPrivate _ breaks

/-- A request whose body breaks the rules is answered without a call of the store. -/
theorem calls_of_breaksRules (gateway : Gateway) (past : Past) {visit : Visit} {verb : Verb}
    (leads : Route.ofPath? visit.request.path = some route)
    (asks : verb? visit.request route = some verb) (breaks : BreaksRules visit.request route verb) :
    gateway.calls past visit = [] ∧ (gateway.attend past visit).tables = past.tables := by
  obtain ⟨plan, met, planned, plans⟩ :=
    exists_tryOut_plan gateway visit.request visit.course (.start past.tables)
  obtain ⟨reply, rfl⟩ := plans.exists_answer leads asks breaks
  have handled := tryOut_handle gateway visit.request planned
  unfold calls attend
  rw [handled]
  exact ⟨rfl, rfl⟩

/-! ## The law -/

/-- The rows of the tables fit the columns of the schema. -/
structure FitsSchema (tables : Tables) : Prop where
  users : ∀ user ∈ tables.users, Schema.users.TakesRow user.row
  accounts : ∀ account ∈ tables.accounts, Schema.accounts.TakesRow account.row
  sessions : ∀ session ∈ tables.sessions, Schema.sessions.TakesRow session.row

theorem FitsSchema.of_isRegular (regular : tables.IsRegular) : FitsSchema tables where
  users user stored := takesRow_user (regular.users user stored).username
  accounts account stored := takesRow_account (regular.owners account stored)
  sessions session stored := takesRow_session (regular.holders session stored)

/-- What is stored fits the schema.

Let requests be handled one after another, from the empty tables on, whatever their bodies are, and
let every token that one of them brings and that verifies be one that was handed out before. Then
before and after each of them the name of every user is a username, the full name is not empty and
the email is one; owners of accounts and holders of sessions go by usernames as well; and every row
fits the columns of its table. So does everything that a call of the store would write. And whoever
sends it, in whatever state of the tables, a request whose body breaks the rules of the form that is
asked for is answered without a call of the store. -/
theorem stored_values_fit_schema (gateway : Gateway) :
    (∀ earlier visit, gateway.bank.passwords.FailsInside →
      gateway.AreHonest .start (earlier ++ [visit]) →
      let past := earlier.foldl gateway.attend .start
      (past.tables.IsRegular ∧ FitsSchema past.tables) ∧
      ((gateway.attend past visit).tables.IsRegular ∧
        FitsSchema (gateway.attend past visit).tables) ∧
      ∀ call ∈ gateway.calls past visit, ∀ part row, call.writing? = some (part, row) →
        part.TakesRow row) ∧
    ∀ past visit route verb, Route.ofPath? visit.request.path = some route →
      verb? visit.request route = some verb → BreaksRules visit.request route verb →
        gateway.calls past visit = [] ∧ (gateway.attend past visit).tables = past.tables := by
  refine ⟨fun earlier visit failsInside honest => ?_, fun past visit route verb leads asks breaks =>
    calls_of_breaksRules gateway past leads asks breaks⟩
  have nothing : Past.start.IsVouchedFor gateway.bank := fun token member => by cases member
  obtain ⟨regular, vouched, isHonest, -⟩ :=
    isRegular_foldl failsInside honest nothing Tables.isRegular_empty
  obtain ⟨regularAfter, made⟩ := isHonest.isRegular vouched regular
  exact ⟨⟨regular, .of_isRegular regular⟩, ⟨regularAfter, .of_isRegular regularAfter⟩,
    fun call isMade part row writes => (made call isMade).takesRow writes⟩

/-- Alice registers under too short a name. -/
def signUpShort : Visit := sent "/api/v1/users" ("\x7b\"username\":\"alice\",\"full_name\":\"A\","
  ++ "\"email\":\"a@b.c\",\"password\":\"secret\",\"password_confirm\":\"secret\"\x7d")

/-- Alice registers and logs in, which stores what fits. With too short a name the store is not even
called. -/
theorem stored_values_fit_schema_for_alice :
    small.bank.passwords.FailsInside ∧ small.AreHonest .start ([signUp] ++ [signIn]) ∧
    IsProfile "alice1" "A" "a@b.c" ∧
    (∀ call ∈ small.calls ⟨onlyAlice, []⟩ signIn, ∀ part row, call.writing? = some (part, row) →
      part.TakesRow row) ∧
    BreaksRules signUpShort.request .users .post ∧ small.calls .start signUpShort = [] := by
  have failsInside : small.bank.passwords.FailsInside := fun _ _ _ failed => by cases failed
  have honest : small.AreHonest .start ([signUp] ++ [signIn]) :=
    ⟨isHonest_of_not_carries _ fun _ => not_carries rfl (by decide +kernel),
      isHonest_of_not_carries _ fun _ => not_carries rfl (by decide +kernel), trivial⟩
  have breaks : BreaksRules signUpShort.request .users .post := by
    intro content isRead
    have isShort : (readBody Registration.form signUpShort.request).toOption =
        some ⟨"alice", "A", "a@b.c", "secret", "secret"⟩ := by decide +kernel
    rw [isRead] at isShort
    obtain rfl := Option.some.inj isShort
    exact List.cons_ne_nil _ _
  obtain ⟨fits, refuses⟩ := stored_values_fit_schema small
  obtain ⟨⟨regular, -⟩, -, made⟩ := fits [signUp] signIn failsInside honest
  simp only [List.foldl_cons, List.foldl_nil, attend_signUp] at regular made
  exact ⟨failsInside, honest, regular.users _ List.mem_cons_self, made, breaks,
    (refuses .start signUpShort .users .post (by decide) (by decide) breaks).1⟩

end Gateway

end Countinghouse
