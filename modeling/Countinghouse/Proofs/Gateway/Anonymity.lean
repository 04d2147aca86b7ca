import Countinghouse.Proofs.Bank.Credentials
import Countinghouse.Proofs.Gateway.Honesty

/-!
# Who is registered stays unknown

A login that is refused says that the credentials are wrong, but not which of them. A name that
nobody has and a password that is not the user's take the bank along different ways, and both ways
end alike: in the same failure, the same event and the same reply, after the same single call of the
store.
-/

namespace Countinghouse

open Attempt

namespace Bank

variable {bank : Bank} {tables : Tables} {username password : String} {course : Course}

/-- The event with which a login is refused. -/
def wrongCredentials (username : String) : Event :=
  Event.warning "auth" "login" "invalid credentials" [("username", .text username)]

section Wrong

variable (noFault : course.fault? 0 = none)
  (wrong : ∀ user, tables.user? username = some user →
    bank.passwords.check password user.hashedPassword = .ok false)

include noFault wrong

/-- What a login does without the right password: it looks for the user, complains and fails. -/
theorem tryOut_login_of_wrong (client : Client) :
    (bank.login username password client).tryOut course tables =
      (.error .invalidCredentials, ⟨tables, [(.getUser username, none)], 2⟩) := by
  unfold login Attempt.tryOut
  rw [tryOut_bind_of_ok (authenticate_of_wrong noFault wrong)]
  rfl

/-- Wrong credentials are looked at in silence. -/
theorem log_authenticate_of_wrong :
    (bank.authenticate username password).run.log course (.start tables) = [] := by
  have isRead : (Tables.perform (course.answers 0 .clock) (.getUser username) tables).1 =
      .ok (tables.user? username) := rfl
  unfold authenticate
  rw [log_bind_of_ok (tryOut_call_of_ok noFault isRead), log_call]
  cases stored : tables.user? username with
  | none => rfl
  | some user =>
      dsimp only
      rw [wrong user stored]
      rfl

/-- What a login reports without the right password. -/
theorem log_login_of_wrong (client : Client) :
    (bank.login username password client).run.log course (.start tables) =
      [wrongCredentials username] := by
  unfold login
  rw [log_bind_of_ok (authenticate_of_wrong noFault wrong),
    log_authenticate_of_wrong noFault wrong]
  rfl

end Wrong

end Bank

namespace Gateway

open Handler

variable {gateway : Gateway} {request : Request} {tables : Tables} {username password : String}
  {course : Course}

/-- A plan that needs no token is there without asking for anything. -/
theorem plan_of_public {route : Route} (leads : Route.ofPath? request.path = some route)
    (isPublic : route.isPrivate = false) : gateway.plan request = .done
      (match verb? request route with
        | some _ => planPublic request route
        | none => .answer (.notAllowed [])) := by
  unfold plan
  rw [leads]
  dsimp only
  unfold planAt
  rw [if_neg (Bool.eq_false_iff.mp isPublic)]
  cases verb? request route <;> rfl

/-- What a request to log in comes to: it is answered as it is, or the credentials that it carries
are shown to the bank. -/
theorem plan_of_login (gateway : Gateway) (leads : Route.ofPath? request.path = some .login) :
    (∃ reply, gateway.plan request = .done (.answer reply)) ∨
      ∃ content, readBody Credentials.form request = .ok content ∧
        gateway.plan request =
          .done (.order (.login content.username content.password request.client)) := by
  rw [plan_of_public leads rfl]
  cases verb? request .login with
  | none => exact .inl ⟨_, rfl⟩
  | some verb =>
      unfold planPublic
      rcases body_cases Credentials.form request with ⟨content, isRead, -, same⟩ | ⟨notice, same⟩
      · rw [same]
        exact .inr ⟨content, isRead, rfl⟩
      · rw [same]
        exact .inl ⟨_, rfl⟩

/-- The events that are reported while a request is handled whose plan is there at once. -/
theorem log_handle_of_plan {plan : Plan} (planned : gateway.plan request = .done plan)
    (trial : Trial) :
    (gateway.handle request).log course trial = (plan.carryOut gateway).log course trial := by
  rw [handle_eq_plan, planned]
  refine (Operation.log_andThen course (plan.carryOut gateway) (fun _ => .done _) trial).trans ?_
  exact List.append_nil _

/-- An order that fails is answered as its failure is, after what the bank has reported of it. -/
theorem Plan.carryOut_of_error {asked : Bank.Order} {trial later : Trial} {error : BankError}
    (fails : (gateway.bank.attempt asked).run.tryOut course trial = (.error error, later)) :
    ((Plan.order asked).carryOut gateway).tryOut course trial =
        (answerFailure error).tryOut course later ∧
      ((Plan.order asked).carryOut gateway).log course trial =
        (gateway.bank.attempt asked).run.log course trial ++
          (answerFailure error).log course later := by
  constructor
  · refine (Operation.run_andThen course.surroundings (gateway.bank.attempt asked).run _
      trial).trans ?_
    rw [show (gateway.bank.attempt asked).run.run course.surroundings trial = _ from fails]
    rfl
  · refine (Operation.log_andThen course (gateway.bank.attempt asked).run _ trial).trans ?_
    rw [fails]

/-- A request to log in without the right password, if it is read as one, is answered with the
refusal of the credentials. -/
theorem handle_login_of_wrong (noFault : course.fault? 0 = none)
    (wrong : ∀ user, tables.user? username = some user →
      gateway.bank.passwords.check password user.hashedPassword = .ok false)
    (planned : gateway.plan request = .done (.order (.login username password request.client))) :
    (gateway.handle request).tryOut course (.start tables) =
        (send request (Refusal.ofError .invalidCredentials).toReply,
          ⟨tables, [(.getUser username, none)], 2⟩) ∧
      (gateway.handle request).log course (.start tables) = [Bank.wrongCredentials username] := by
  have settled : (gateway.plan request).tryOut course (.start tables) = (_, .start tables) :=
    congrArg (·.tryOut course (.start tables)) planned
  have refused : (gateway.bank.attempt (.login username password request.client)).run.tryOut course
      (.start tables) = (.error .invalidCredentials, ⟨tables, [(.getUser username, none)], 2⟩) :=
    Bank.tryOut_login_of_wrong noFault wrong request.client
  have reported := Bank.log_login_of_wrong noFault wrong request.client
  obtain ⟨answered, logged⟩ := Plan.carryOut_of_error refused
  constructor
  · rw [tryOut_handle gateway request settled, answered]
    rfl
  · rw [log_handle_of_plan planned, logged]
    exact congrArg (· ++ []) reported

/-- A login does not tell who is registered.

Take two states of the tables: here a user is registered with a hash that the password does not
match, and there nobody has the name. As long as the store answers the only call that is made of it,
a login with this name and this password fails in both with wrong credentials, reports the same and
changes nothing. So does any request to log in, with whatever method and body, that carries no other
credentials: the replies are the same in every part. -/
theorem login_does_not_tell_who_is_registered (gateway : Gateway) {username password : String}
    {here there : Tables} {user : User} (registered : here.user? username = some user)
    (mismatch : gateway.bank.passwords.check password user.hashedPassword = .ok false)
    (unregistered : there.user? username = none) {course other : Course}
    (noFault : course.fault? 0 = none) (noOtherFault : other.fault? 0 = none) :
    (∀ client, (gateway.bank.login username password client).tryOut course here =
        (.error .invalidCredentials, ⟨here, [(.getUser username, none)], 2⟩) ∧
      (gateway.bank.login username password client).tryOut other there =
        (.error .invalidCredentials, ⟨there, [(.getUser username, none)], 2⟩) ∧
      (gateway.bank.login username password client).run.log course (.start here) =
        (gateway.bank.login username password client).run.log other (.start there)) ∧
    ∀ request, Route.ofPath? request.path = some .login →
      (∀ content, readBody Credentials.form request = .ok content →
        content = ⟨username, password⟩) →
      ((gateway.handle request).tryOut course (.start here)).1 =
          ((gateway.handle request).tryOut other (.start there)).1 ∧
        (gateway.handle request).log course (.start here) =
          (gateway.handle request).log other (.start there) ∧
        ((gateway.handle request).tryOut course (.start here)).2.tables = here ∧
        ((gateway.handle request).tryOut other (.start there)).2.tables = there := by
  have wrongHere : ∀ found, here.user? username = some found →
      gateway.bank.passwords.check password found.hashedPassword = .ok false := by
    intro found isFound
    obtain rfl := Option.some.inj (registered.symm.trans isFound)
    exact mismatch
  have wrongThere : ∀ found, there.user? username = some found →
      gateway.bank.passwords.check password found.hashedPassword = .ok false :=
    fun found isFound => absurd (unregistered.symm.trans isFound) (Option.some_ne_none found).symm
  refine ⟨fun client => ⟨Bank.tryOut_login_of_wrong noFault wrongHere client,
    Bank.tryOut_login_of_wrong noOtherFault wrongThere client, ?_⟩, fun request leads carries => ?_⟩
  · rw [Bank.log_login_of_wrong noFault wrongHere, Bank.log_login_of_wrong noOtherFault wrongThere]
  rcases plan_of_login gateway leads with ⟨reply, planned⟩ | ⟨content, isRead, planned⟩
  -- A request that carries no credentials is answered without the bank.
  · rw [handle_eq_plan, planned]
    exact ⟨rfl, rfl, rfl, rfl⟩
  · obtain rfl := carries content isRead
    obtain ⟨answeredHere, loggedHere⟩ := handle_login_of_wrong noFault wrongHere planned
    obtain ⟨answeredThere, loggedThere⟩ := handle_login_of_wrong noOtherFault wrongThere planned
    rw [answeredHere, answeredThere, loggedHere, loggedThere]
    exact ⟨rfl, rfl, rfl, rfl⟩

/-- Alice tries to log in with a password that is not hers. -/
def mistype : Request :=
  (sent "/api/v1/users/login" "\x7b\"username\":\"alice1\",\"password\":\"sesame\"\x7d").request

/-- Whether Alice is registered or not, she is told the same. -/
theorem login_does_not_tell_who_is_registered_to_alice :
    (readBody Credentials.form mistype).toOption = some ⟨"alice1", "sesame"⟩ ∧
    (small.bank.login "alice1" "sesame" mistype.client).tryOut (.standing ⟨0⟩) onlyAlice =
      (.error .invalidCredentials, ⟨onlyAlice, [(.getUser "alice1", none)], 2⟩) ∧
    (small.bank.login "alice1" "sesame" mistype.client).tryOut (.standing ⟨9⟩) .empty =
      (.error .invalidCredentials, ⟨.empty, [(.getUser "alice1", none)], 2⟩) ∧
    ((small.handle mistype).tryOut (.standing ⟨0⟩) (.start onlyAlice)).1 =
      ((small.handle mistype).tryOut (.standing ⟨9⟩) (.start .empty)).1 := by
  have isRead : (readBody Credentials.form mistype).toOption = some ⟨"alice1", "sesame"⟩ := by
    decide +kernel
  have carries : ∀ content, readBody Credentials.form mistype = .ok content →
      content = ⟨"alice1", "sesame"⟩ := by
    intro content same
    rw [same] at isRead
    exact Option.some.inj isRead
  obtain ⟨served, answered⟩ := @login_does_not_tell_who_is_registered small "alice1" "sesame"
    onlyAlice .empty ⟨"alice1", "secret", "A", "a@b.c", ⟨0⟩, ⟨0⟩⟩ rfl rfl rfl (.standing ⟨0⟩)
    (.standing ⟨9⟩) rfl rfl
  exact ⟨isRead, (served _).1, (served _).2.1, (answered mistype (by decide) carries).1⟩

end Gateway

end Countinghouse
