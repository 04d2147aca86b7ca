import Countinghouse.Proofs.Bank.Founded
import Countinghouse.Proofs.Gateway.Envelope
import Countinghouse.Proofs.Operation.CallsOnly

/-!
# Guards that nobody runs into

Visits to the gateway follow one another, and each finds the tables as the one before left them. A
visit is honest when every token that it brings and that verifies was handed out in the reply to an
earlier one. The rules for requests leave nothing for the guards of the bank to find, and what the
tables vouch for leaves nothing for the others, so in a series of honest visits none ends at a guard.
-/

namespace Countinghouse

/-- The tokens that are handed out with a reply. -/
def Reply.tokens (reply : Reply) : List String :=
  match reply.content with
  | .envelope ⟨_, _, some data⟩ => ["access_token", "refresh_token"].filterMap fun name =>
    match data.field? name with
    | some (.text token) => some token
    | _ => none
  | _ => []

/-- What succeeds hands out the tokens of its answer. -/
theorem Bank.Order.tokens_reply (asked : Bank.Order) (answer : asked.Answer) :
    (asked.reply answer).tokens = asked.tokens answer := by
  cases asked <;> rfl

/-- Content that keeps its rules passes the guards of the bank, whatever integers and texts it is
made of. -/
structure RulesCoverGuards : Prop where
  currency (content : AccountRequest) : AccountRequest.violations content = [] →
    ∃ currency, Currency.parse content.currency = .ok currency
  page (content : PageRequest) : PageRequest.violations content = [] →
    ∃ page, Page.make content.number content.size = .ok page
  amount (content : TransferRequest) : TransferRequest.violations content = [] → 0 < content.amount

theorem IntegerRule.holds_of_violations {field : String} {value : Int} {rule : IntegerRule}
    (kept : violations field value rule = []) : rule.holds value = true := by
  unfold violations at kept
  split at kept
  · assumption
  · cases kept

theorem TextRule.holds_of_violations {field text : String} {rules : List TextRule}
    (kept : violations field text rules = []) {rule : TextRule} (member : rule ∈ rules) :
    rule.holds text = true := by
  simpa using List.filter_eq_nil_iff.mp (List.map_eq_nil_iff.mp kept) rule member

theorem rulesCoverGuards : RulesCoverGuards where
  currency content kept := by
    have isSome := TextRule.holds_of_violations kept (List.mem_singleton_self TextRule.currency)
    obtain ⟨currency, isCode⟩ := Option.isSome_iff_exists.mp isSome
    exact ⟨currency, by rw [Currency.parse, isCode]⟩
  page content kept := by
    obtain ⟨numberKept, sizeKept⟩ := List.append_eq_nil_iff.mp kept
    have isNumber := IntegerRule.holds_of_violations numberKept
    have isSize := IntegerRule.holds_of_violations sizeKept
    simp only [IntegerRule.holds, Option.all_none, Option.all_some, Bool.and_true, Bool.and_eq_true,
      decide_eq_true_eq] at isNumber isSize
    exact ⟨_, by rw [Page.make, dif_pos isNumber, dif_pos isSize.1, dif_pos isSize.2]⟩
  amount content kept := by
    have amountKept := (List.append_eq_nil_iff.mp kept).2
    have isAmount := IntegerRule.holds_of_violations amountKept
    simp only [IntegerRule.holds, Option.all_none, Bool.and_true, decide_eq_true_eq] at isAmount
    omega

/-- The request brings a token: as a bearer does, or to have it renewed. -/
def Request.Carries (request : Request) (token : String) : Prop :=
  request.Presents token ∨ ∃ content, Handler.readBody RenewalRequest.form request = .ok content ∧
    content.refreshToken = token

/-- A reply hands out the same tokens on its way out. -/
theorem Gateway.tokens_send (request : Request) (reply : Reply) :
    (send request reply).tokens = reply.tokens := by
  unfold Reply.tokens
  rw [content_send]

namespace Gateway

open Handler

/-! ## Visits -/

/-- A request, with what the surroundings do while it is handled. -/
structure Visit where
  request : Request
  course : Course

/-- What is left of the visits that were made: the tables, and the tokens that were handed out. -/
structure Past where
  tables : Tables
  issued : List String

/-- No visit was made. -/
def Past.start : Past := ⟨.empty, []⟩

/-- Receives a visit. -/
def attend (gateway : Gateway) (past : Past) (visit : Visit) : Past :=
  let (reply, trial) := (gateway.handle visit.request).tryOut visit.course (.start past.tables)
  ⟨trial.tables, past.issued ++ reply.tokens⟩

/-- While the visit lasts the store does not fail and every instant of the clock has a date. A token
that the visit brings was handed out before, if it verifies at one of these instants. -/
structure IsHonest (gateway : Gateway) (past : Past) (visit : Visit) : Prop where
  smooth : visit.course.IsSmooth fun now => Instant.HasDate now.seconds
  handedOut (token : String) (claims : Claims) (met : Nat) : visit.request.Carries token →
    gateway.bank.authority.verify (visit.course.answers met .clock) token = .ok claims →
      token ∈ past.issued

/-- What is left of a visit that comes to an order that succeeds. -/
theorem attend_of_ok {gateway : Gateway} {past : Past} {visit : Visit} {asked : Bank.Order}
    {met : Nat} {value : asked.Answer} {later : Trial}
    (planned : (gateway.plan visit.request).tryOut visit.course (.start past.tables) =
      (.order asked, ⟨past.tables, [], met⟩))
    (succeeds : (gateway.bank.attempt asked).run.tryOut visit.course ⟨past.tables, [], met⟩ =
      (.ok value, later)) :
    gateway.attend past visit = ⟨later.tables, past.issued ++ asked.tokens value⟩ := by
  obtain ⟨met, answered⟩ := Plan.tryOut_order asked visit.course succeeds
  have handled := tryOut_handle gateway visit.request planned
  have tokens := (tokens_send visit.request (asked.reply value)).trans (asked.tokens_reply value)
  rw [answered] at handled
  rw [attend, handled, ← tokens]
  rfl

/-- All visits of a series are honest. -/
def AreHonest (gateway : Gateway) : Past → List Visit → Prop
  | _, [] => True
  | past, visit :: rest => gateway.IsHonest past visit ∧
    gateway.AreHonest (gateway.attend past visit) rest

variable {gateway : Gateway} {request : Request} {route : Route} {clock : Instant → Prop}
  {tables : Tables}

/-! ## Plans that are founded -/

/-- The plan asks for nothing but what is founded, and hands out no token by itself. -/
def Plan.Founded (bank : Bank) (clock : Instant → Prop) (tables : Tables) : Plan → Prop
  | .answer reply => reply.tokens = []
  | .decline _ => False
  | .health => True
  | .order asked => bank.Founded clock tables asked

theorem founded_badRequest {bank : Bank} (notice : Notice) :
    (Plan.answer (Refusal.badRequest notice).toReply).Founded bank clock tables := rfl

theorem founded_planPublic
    (vouched : ∀ content, readBody RenewalRequest.form request = .ok content →
      gateway.bank.Founded clock tables (.renew content.refreshToken)) :
    (planPublic request route).Founded gateway.bank clock tables := by
  cases route with
  | health => trivial
  | users | login => exact Plan.after_body (fun _ _ _ => trivial) founded_badRequest
  | renewal =>
      exact Plan.after_body (fun content isRead _ => vouched content isRead) founded_badRequest
  | documentation | description | profile | accounts | deletedAccounts | account _
  | restoration _ | history _ | transfers | transfer _ => exact rfl

theorem founded_planPrivate {bank : Bank} {caller : String} (isUser : tables.IsUser caller)
    (verb : Verb) : (planPrivate caller request verb route).Founded bank clock tables := by
  cases route with
  | profile =>
      simp only [planPrivate]
      split
      · exact Plan.after_body (fun _ _ _ => isUser) founded_badRequest
      · exact isUser
  | accounts =>
      simp only [planPrivate]
      split
      · refine Plan.after_body (fun content _ kept => ?_) founded_badRequest
        obtain ⟨currency, isCode⟩ := rulesCoverGuards.currency content kept
        rw [isCode]
        exact isUser
      · exact isUser
  | deletedAccounts => exact isUser
  | account text =>
      refine Plan.after_pathId (fun id => ?_) fun _ => rfl
      split <;> exact isUser
  | restoration text | transfer text => exact Plan.after_pathId (fun _ => isUser) fun _ => rfl
  | history text =>
      refine Plan.after_pathId (fun id => ?_) fun _ => rfl
      refine Plan.after_query (fun content kept => ?_) founded_badRequest
      obtain ⟨page, isPage⟩ := rulesCoverGuards.page content kept
      rw [isPage]
      exact isUser
  | transfers =>
      exact Plan.after_body (fun content _ kept => ⟨isUser, rulesCoverGuards.amount content kept⟩)
        founded_badRequest
  | health | users | login | renewal | documentation | description => exact rfl

/-- The plan for a request is founded when whom it comes from is a user and what it brings to be
renewed is vouched for. -/
theorem Plans.founded {now : Instant} {plan : Plan} (plans : gateway.Plans now request plan)
    (isUser : ∀ claims, gateway.Knows now request claims → tables.IsUser claims.username)
    (vouched : ∀ content, readBody RenewalRequest.form request = .ok content →
      gateway.bank.Founded clock tables (.renew content.refreshToken)) :
    plan.Founded gateway.bank clock tables := by
  cases plans with
  | lost _ => exact rfl
  | unknown _ _ _ refused =>
      obtain ⟨code, notice, content, -⟩ := refused.content
      change Reply.tokens _ = []
      rw [Reply.tokens, content]
  | notAllowed _ _ => exact rfl
  | anyone _ _ => exact founded_planPublic vouched
  | known _ _ knows _ => exact founded_planPrivate (isUser _ knows) _

/-- No token comes with a sign of life. -/
theorem Pulse.tokens {reply : Reply} (pulse : gateway.Pulse reply) : reply.tokens = [] := by
  cases pulse <;> rfl

/-- What is founded ends at no guard, and what is handed out is vouched for. -/
theorem Plan.Founded.carryOut (failsInside : gateway.bank.passwords.FailsInside)
    (isDated : ∀ now, clock now → Instant.HasDate now.seconds) {course : Course}
    (smooth : course.IsSmooth clock) {plan : Plan} {trial : Trial}
    (founded : plan.Founded gateway.bank clock trial.tables) :
    (∀ error, plan.failure? gateway course trial = some error → ¬error.IsDefensive) ∧
      ∀ token ∈ ((plan.carryOut gateway).tryOut course trial).1.tokens,
        gateway.bank.Vouches ((plan.carryOut gateway).tryOut course trial).2.tables token := by
  cases plan with
  | answer reply =>
      refine ⟨nofun, fun token member => ?_⟩
      have isNone : reply.tokens = [] := founded
      rw [show ((Plan.answer reply).carryOut gateway).tryOut course trial = (reply, trial) from rfl,
        isNone] at member
      cases member
  | decline error => exact founded.elim
  | health =>
      refine ⟨nofun, fun token member => ?_⟩
      have isNone := ((ends_health gateway).tryOut course trial).1.tokens
      change token ∈ ((finish gateway.health).tryOut course trial).1.tokens at member
      rw [isNone] at member
      cases member
  | order asked =>
      have safely := Operation.Undisturbed.tryOut smooth trial
        (gateway.bank.attempt_harmless failsInside isDated founded)
      cases outcome : (gateway.bank.attempt asked).run.tryOut course trial with
      | mk result later =>
          obtain ⟨met, answered⟩ := tryOut_order asked course outcome
          rw [outcome] at safely
          rw [answered, failure?_order outcome]
          cases result with
          | ok value =>
              refine ⟨nofun, fun token member => safely token ?_⟩
              rwa [← asked.tokens_reply value]
          | error error =>
              refine ⟨fun other same => ?_, fun token member => by cases member⟩
              obtain rfl := Option.some.inj same
              exact safely

/-! ## A series of visits -/

/-- The tables vouch for all tokens that were handed out. -/
def Past.IsVouchedFor (past : Past) (bank : Bank) : Prop :=
  ∀ token ∈ past.issued, bank.Vouches past.tables token

/-- What is vouched for remains so, whatever is done. -/
theorem vouches_tryOut {bank : Bank} {token : String} {α : Type} (operation : Operation α)
    (course : Course) {trial : Trial} (vouches : bank.Vouches trial.tables token) :
    bank.Vouches (operation.tryOut course trial).2.tables token := by
  have calls : operation.CallsOnly fun _ => True :=
    Operation.callsOnly_of_forall (fun _ => trivial) operation
  have kept (now : Instant) (call : StoreCall) (tables : Tables) (_ : True)
      (vouches : bank.Vouches tables token) :
      bank.Vouches (Tables.perform now call tables).2 token := by
    obtain ⟨claims, vouchesFor⟩ := vouches
    exact ⟨claims, vouchesFor.perform now call⟩
  exact calls.tryOut kept course vouches

variable {past : Past} {visit : Visit}

/-- Whom an honest visit is known to come from is a user. -/
theorem IsHonest.isUser (honest : gateway.IsHonest past visit)
    (vouched : past.IsVouchedFor gateway.bank) {claims : Claims}
    (knows : gateway.Knows (visit.course.answers 0 .clock) visit.request claims) :
    past.tables.IsUser claims.username := by
  obtain ⟨token, presents, accepted⟩ := knows
  have verified := (Authority.verifyKind_eq_ok_iff.mp accepted).1
  have isIssued := honest.handedOut token claims 0 (.inl presents) verified
  exact ((vouched token isIssued).of_verify verified).isUser

/-- The instants that a visit may see on the clock. -/
def Visit.Sees (visit : Visit) (now : Instant) : Prop :=
  Instant.HasDate now.seconds ∧ ∃ met, visit.course.answers met .clock = now

/-- What an honest visit brings to be renewed is vouched for. -/
theorem IsHonest.founded (honest : gateway.IsHonest past visit)
    (vouched : past.IsVouchedFor gateway.bank) {content : RenewalRequest}
    (isRead : readBody RenewalRequest.form visit.request = .ok content) :
    gateway.bank.Founded visit.Sees past.tables (.renew content.refreshToken) := by
  rintro _ claims ⟨-, met, rfl⟩ accepted
  have verified := (Authority.verifyKind_eq_ok_iff.mp accepted).1
  have isIssued := honest.handedOut _ claims met (.inr ⟨content, isRead, rfl⟩) verified
  exact (vouched _ isIssued).of_verify verified

/-- What an honest visit comes to: it ends at no guard, and what is handed out in the end is vouched
for. -/
theorem IsHonest.attend (failsInside : gateway.bank.passwords.FailsInside)
    (honest : gateway.IsHonest past visit) (vouched : past.IsVouchedFor gateway.bank) :
    (∀ error, gateway.failure? visit.request visit.course past.tables = some error →
        ¬error.IsDefensive) ∧
      (gateway.attend past visit).IsVouchedFor gateway.bank := by
  -- To draw up the plan leaves the tables alone, so it is founded on those it is carried out on.
  obtain ⟨plan, met, planned, plans⟩ :=
    exists_tryOut_plan gateway visit.request visit.course (.start past.tables)
  have smooth : visit.course.IsSmooth visit.Sees :=
    ⟨honest.smooth.noFault, fun met => ⟨honest.smooth.inTime met, met, rfl⟩⟩
  have founded : plan.Founded gateway.bank visit.Sees past.tables :=
    plans.founded (fun claims knows => honest.isUser vouched knows) fun content isRead =>
      honest.founded vouched isRead
  obtain ⟨harmless, handedOut⟩ := @Plan.Founded.carryOut gateway _ failsInside
    (fun now sees => sees.1) _ smooth plan ⟨past.tables, [], met⟩ founded
  constructor
  · intro error fails
    unfold failure? at fails
    rw [planned] at fails
    exact harmless error fails
  · intro token member
    rcases List.mem_append.mp member with isOld | isNew
    -- Nothing is struck from users and sessions, so what was vouched for before the visit is so now.
    · exact vouches_tryOut (gateway.handle visit.request) visit.course (vouched token isOld)
    · have handled := tryOut_handle gateway visit.request planned
      change token ∈
        ((gateway.handle visit.request).tryOut visit.course (.start past.tables)).1.tokens at isNew
      change gateway.bank.Vouches
        ((gateway.handle visit.request).tryOut visit.course (.start past.tables)).2.tables token
      rw [handled] at isNew ⊢
      exact handedOut token ((tokens_send visit.request _) ▸ isNew)

/-- After a series of honest visits everything that was handed out is vouched for. -/
theorem isVouchedFor_foldl (failsInside : gateway.bank.passwords.FailsInside)
    {earlier later : List Visit} (honest : gateway.AreHonest past (earlier ++ later))
    (vouched : past.IsVouchedFor gateway.bank) :
    (earlier.foldl gateway.attend past).IsVouchedFor gateway.bank ∧
      gateway.AreHonest (earlier.foldl gateway.attend past) later := by
  induction earlier generalizing past with
  | nil => exact ⟨vouched, honest⟩
  | cons visit rest inductionHypothesis =>
      exact inductionHypothesis honest.2 (honest.1.attend failsInside vouched).2

/-- No visitor runs into a guard that is behind the rules.

Let requests be handled one after another, from the empty tables on, where the store does not fail
and the clock says instants with dates; the requests may be any. Let every token that one of them
brings and that verifies be one that was handed out before. Then content that keeps the rules of its
form passes the guards of the bank, whom a request is known to come from is a user, and no request
ends in a failure that is defensive. In which failure a request ends is read off its plan: to handle
it is to draw up the plan and to carry that out, and the failure is what the client is answered
with. -/
theorem guards_are_out_of_reach (gateway : Gateway)
    (failsInside : gateway.bank.passwords.FailsInside) {earlier later : List Visit} {visit : Visit}
    (honest : gateway.AreHonest .start (earlier ++ visit :: later)) :
    RulesCoverGuards ∧
    (∀ claims, gateway.Knows (visit.course.answers 0 .clock) visit.request claims →
      (earlier.foldl gateway.attend .start).tables.IsUser claims.username) ∧
    (gateway.handle visit.request =
      ((gateway.plan visit.request).andThen (Plan.carryOut gateway)).andThen
        fun reply => .done (send visit.request reply)) ∧
    ∀ error, gateway.failure? visit.request visit.course
        (earlier.foldl gateway.attend .start).tables = some error →
      ¬error.IsDefensive ∧
        ((gateway.handle visit.request).tryOut visit.course
          (.start (earlier.foldl gateway.attend .start).tables)).1 =
            send visit.request (Refusal.ofError error).toReply := by
  have nothing : Past.start.IsVouchedFor gateway.bank := fun token member => by cases member
  obtain ⟨vouched, isHonest, -⟩ := isVouchedFor_foldl failsInside honest nothing
  exact ⟨rulesCoverGuards, fun claims knows => isHonest.isUser vouched knows,
    gateway.handle_eq_plan visit.request, fun error fails =>
      ⟨(isHonest.attend failsInside vouched).1 error fails, tryOut_handle_of_failure fails⟩⟩

/-! ## A rehearsal -/

/-- A body that is sent to a path at the start of 1970. -/
def sent (path body : String) : Visit where
  request := ⟨"POST", path, "", [("content-type", Utf8.encode "application/json")],
    Utf8.encode body, none⟩
  course := .standing ⟨0⟩

/-- Alice registers. -/
def signUp : Visit := sent "/api/v1/users" ("\x7b\"username\":\"alice1\",\"full_name\":\"A\","
  ++ "\"email\":\"a@b.c\",\"password\":\"secret\",\"password_confirm\":\"secret\"\x7d")

/-- Alice logs in. -/
def signIn : Visit :=
  sent "/api/v1/users/login" "\x7b\"username\":\"alice1\",\"password\":\"secret\"\x7d"

/-- The claims of the access token that Alice is given. -/
def accessOfAlice : Claims := ⟨⟨0⟩, "alice1", .access, ⟨0⟩, ⟨60000000000⟩⟩

/-- The claims of the refresh token that Alice is given. -/
def refreshOfAlice : Claims := ⟨⟨0⟩, "alice1", .refresh, ⟨0⟩, ⟨3600000000000⟩⟩

/-- Alice looks at her profile. -/
def lookAtProfile : Visit where
  request := Request.carrying ⟨"GET", "/api/v1/users/me", "", [], [], none⟩
    (small.bank.authority.write accessOfAlice)
  course := .standing ⟨0⟩

/-- The tables when Alice has registered. -/
def onlyAlice : Tables :=
  { Tables.empty with users := [⟨"alice1", "secret", "A", "a@b.c", ⟨0⟩, ⟨0⟩⟩] }

theorem attend_signUp : small.attend .start signUp = ⟨onlyAlice, []⟩ := by
  have isRead : (readBody Registration.form signUp.request).toOption =
      some ⟨"alice1", "A", "a@b.c", "secret", "secret"⟩ := by decide +kernel
  have planned : (small.plan signUp.request).tryOut signUp.course (.start .empty) =
      (.order (.register "alice1" "A" "a@b.c" "secret"), .start .empty) := by
    rw [@tryOut_plan_of_public small signUp.request .users (by decide) rfl .post (by decide)]
    exact congrArg (·, _) (Plan.after_body_of_toOption isRead (by decide +kernel))
  exact (@attend_of_ok small .start signUp _ 0 _ _ planned rfl).trans rfl

/-- The login hands out both tokens. -/
theorem issued_signIn : (small.attend ⟨onlyAlice, []⟩ signIn).issued =
    [small.bank.authority.write accessOfAlice, small.bank.authority.write refreshOfAlice] := by
  have isRead : (readBody Credentials.form signIn.request).toOption = some ⟨"alice1", "secret"⟩ := by
    decide +kernel
  have planned : (small.plan signIn.request).tryOut signIn.course (.start onlyAlice) =
      (.order (.login "alice1" "secret" signIn.request.client), .start onlyAlice) := by
    rw [@tryOut_plan_of_public small signIn.request .login (by decide) rfl .post (by decide)]
    exact congrArg (·, _) (Plan.after_body_of_toOption isRead (by decide +kernel))
  have succeeds : (small.bank.attempt (.login "alice1" "secret" signIn.request.client)).run.tryOut
      signIn.course (.start onlyAlice) = (.ok ⟨⟨0⟩, small.bank.authority.write accessOfAlice,
        accessOfAlice.expiresAt, small.bank.authority.write refreshOfAlice,
        refreshOfAlice.expiresAt, _⟩, _) := rfl
  rw [@attend_of_ok small ⟨onlyAlice, []⟩ signIn _ 0 _ _ planned succeeds]
  rfl

/-- A request without a header and a body for a token brings none. -/
theorem not_carries {token : String} (noHeader : request.header? "authorization" = none)
    (noBody : (readBody RenewalRequest.form request).toOption = none) : ¬request.Carries token := by
  rintro (⟨scheme, credential, isText, -⟩ | ⟨content, isRead, -⟩)
  · cases noHeader.symm.trans isText.header?_eq
  · rw [isRead] at noBody
    cases noBody

/-- A visit at the start of 1970 that brings no token is honest. -/
theorem isHonest_of_not_carries (request : Request) (bringsNone : ∀ token, ¬request.Carries token) :
    gateway.IsHonest past ⟨request, .standing ⟨0⟩⟩ where
  smooth := ⟨fun _ => rfl, fun _ => (by decide : Instant.HasDate 0)⟩
  handedOut token _ _ carries := absurd carries (bringsNone token)

/-- Alice registers, logs in and looks at her profile, and does so as a user. -/
theorem guards_are_out_of_reach_for_alice :
    small.bank.passwords.FailsInside ∧
    small.AreHonest .start [signUp, signIn, lookAtProfile] ∧
    small.Knows ⟨0⟩ lookAtProfile.request accessOfAlice ∧
    ([signUp, signIn].foldl small.attend .start).tables.IsUser "alice1" ∧
    ∀ error, small.failure? lookAtProfile.request lookAtProfile.course
      ([signUp, signIn].foldl small.attend .start).tables = some error → ¬error.IsDefensive := by
  have failsInside : small.bank.passwords.FailsInside := fun _ _ _ failed => by cases failed
  have presents := Request.presents_carrying ⟨"GET", "/api/v1/users/me", "", [], [], none⟩
    (small.bank.authority.graphic_write accessOfAlice)
  have knows : small.Knows ⟨0⟩ lookAtProfile.request accessOfAlice :=
    (knows_carrying_iff ⟨by decide, by decide⟩).mpr ⟨⟨⟨by decide, by decide⟩, rfl⟩, rfl⟩
  have honest : small.AreHonest .start [signUp, signIn, lookAtProfile] := by
    refine ⟨isHonest_of_not_carries _ fun _ => not_carries rfl (by decide +kernel),
      isHonest_of_not_carries _ fun _ => not_carries rfl (by decide +kernel),
      ⟨⟨fun _ => rfl, fun _ => (by decide : Instant.HasDate 0)⟩, ?_⟩, trivial⟩
    rintro token claims met (presented | ⟨content, isRead, -⟩) -
    · rw [attend_signUp, issued_signIn, presented.unique presents]
      exact List.mem_cons_self
    · cases isRead
  obtain ⟨-, isUser, -, harmless⟩ :=
    @guards_are_out_of_reach small failsInside [signUp, signIn] [] lookAtProfile honest
  exact ⟨failsInside, honest, knows, isUser accessOfAlice knows,
    fun error fails => (harmless error fails).1⟩

end Gateway

end Countinghouse
