import Countinghouse.Gateway.Handler
import Countinghouse.Proofs.Bank.Order
import Countinghouse.Proofs.Gateway.Bearer
import Countinghouse.Proofs.Operation.Undisturbed
import Countinghouse.Proofs.Token.Acceptance

/-!
# Who is let in

A private route is entered with an access token, and with nothing else. `Gateway.Knows` says when
the gateway knows whom a request comes from. Who is known passes, and who is not is refused before
the store is called. What is behind the gate is `Gateway.behind`.
-/

namespace Countinghouse

namespace Gateway

variable {gateway : Gateway} {request : Request} {claims : Claims}

/-- The gateway knows at an instant whom a request comes from: it presents an access token that
verifies. -/
def Knows (gateway : Gateway) (now : Instant) (request : Request) (claims : Claims) : Prop :=
  ∃ token, request.Presents token ∧
    gateway.bank.authority.verifyKind now token .access = .ok claims

/-- The empty text is no token. -/
theorem ne_empty_of_verifyKind {authority : Authority} {now : Instant} {token : String}
    {kind : TokenKind} (accepted : authority.verifyKind now token kind = .ok claims) :
    token ≠ "" := by
  rintro rfl
  obtain ⟨isRead, -⟩ :=
    Authority.verify_eq_ok_iff.mp (Authority.verifyKind_eq_ok_iff.mp accepted).1
  cases isRead

/-- A token that was written for a visit is known as long as it is not over, and a refresh token is
not. -/
theorem knows_carrying_iff {now : Instant} {found : Claims} (isWhole : claims.IsWhole) :
    gateway.Knows now (request.carrying (gateway.bank.authority.write claims)) found ↔
      ((0 ≤ claims.expiresAt.seconds ∧ now.seconds ≤ claims.expiresAt.seconds) ∧
        claims.kind = .access) ∧ found = claims := by
  have presents := request.presents_carrying (gateway.bank.authority.graphic_write claims)
  have verdict := @Authority.verifyKind_write gateway.bank.authority _ isWhole now .access
  constructor
  · intro knows
    obtain ⟨token, presented, accepted⟩ := knows
    obtain rfl := presented.unique presents
    rw [verdict] at accepted
    split at accepted
    · next good => exact ⟨good, (Except.ok.inj accepted).symm⟩
    · cases accepted
  · rintro ⟨good, rfl⟩
    exact ⟨_, presents, verdict.trans (if_pos good)⟩

/-- What is known of a request is genuine, and the second in which it expires is not over. -/
theorem Knows.genuine {now : Instant} (knows : gateway.Knows now request claims) :
    claims.kind = .access ∧ now.seconds ≤ claims.expiresAt.seconds ∧
      ∃ token header body, request.Presents token ∧
        gateway.bank.authority.Genuine header body token claims := by
  obtain ⟨token, presents, accepted⟩ := knows
  obtain ⟨verified, isAccess⟩ := Authority.verifyKind_eq_ok_iff.mp accepted
  obtain ⟨header, body, genuine⟩ := Authority.genuine_of_verify verified
  exact ⟨isAccess, (Authority.verify_eq_ok_iff.mp verified).2.2, token, header, body, presents,
    genuine⟩

/-- What is done with a token that is presented. -/
theorem authenticate_of_bearer {token : String} (bearer : request.authorization = .bearer token) :
    (gateway.authenticate request).run = .ask .clock fun now =>
      .done (match gateway.bank.authority.verifyKind now token .access with
        | .ok claims => .ok claims
        | .error _ => .error (Refusal.unauthorized Refusal.failedAuthorization
            "Invalid or expired token").toReply) := by
  unfold authenticate
  rw [bearer]
  refine congrArg (Operation.ask .clock) (funext fun now => ?_)
  simp only [Operation.andThen, Function.comp_apply, ExceptT.bindCont]
  cases gateway.bank.authority.verifyKind now token .access <;> rfl

/-- Who is known passes when the clock was read. -/
theorem tryOut_authenticate_of_knows {course : Course} {trial : Trial}
    (knows : gateway.Knows (course.answers trial.met .clock) request claims) :
    (gateway.authenticate request).run.tryOut course trial =
      (.ok claims, ⟨trial.tables, trial.calls, trial.met + 1⟩) := by
  obtain ⟨token, presents, accepted⟩ := knows
  have bearer := Request.bearer_of_presents presents (ne_empty_of_verifyKind accepted)
  rw [authenticate_of_bearer bearer]
  simp only [Operation.tryOut, Operation.run, Course.surroundings, accepted]

/-- How a request of nobody who is known is answered: with the code for a request that does not say
who is calling when it does not, and with the code for one whose caller cannot be made out
otherwise. -/
structure IsRefused (request : Request) (reply : Reply) : Prop where
  status : reply.status = 401
  content : ∃ code notice, reply.content = .envelope ⟨code, notice, none⟩ ∧
    ((∀ text, ¬ request.Says "authorization" text) → code = 2001) ∧
    ∀ text, request.Says "authorization" text → code = 2002

/-- Who is not known does not pass, and the store is not called. -/
theorem tryOut_authenticate_of_not_knows {course : Course} {trial : Trial}
    (unknown : ∀ claims, ¬ gateway.Knows (course.answers trial.met .clock) request claims) :
    ∃ reply met, (gateway.authenticate request).run.tryOut course trial =
      (.error reply, ⟨trial.tables, trial.calls, met⟩) ∧ IsRefused request reply := by
  have unreadable (notice : String) (isText : request.authorization ≠ .missing) :
      IsRefused request (Refusal.unauthorized Refusal.failedAuthorization notice).toReply :=
    ⟨rfl, _, _, rfl, fun silent => absurd (Request.authorization_of_silent silent) isText,
      fun _ _ => rfl⟩
  cases said : request.authorization with
  | missing =>
      have silent {text : List Char} (isText : request.Says "authorization" text) : False :=
        Request.authorization_ne_missing isText said
      refine ⟨(Refusal.unauthorized Refusal.missingAuthorization
        "Missing Authorization header").toReply, trial.met, ?_,
        rfl, _, _, rfl, fun _ => rfl, fun _ isText => (silent isText).elim⟩
      unfold authenticate
      rw [said]
      rfl
  | malformed =>
      refine ⟨_, trial.met, ?_, unreadable "Invalid authorization header format" (by simp [said])⟩
      unfold authenticate
      rw [said]
      rfl
  | bearer token =>
      rw [authenticate_of_bearer said]
      refine ⟨_, trial.met + 1, ?_, unreadable "Invalid or expired token" (by simp [said])⟩
      cases accepted : gateway.bank.authority.verifyKind (course.answers trial.met .clock) token
          .access with
      | ok claims =>
          exact absurd ⟨token, Request.presents_of_bearer said, accepted⟩ (unknown claims)
      | error error =>
          simp only [Operation.tryOut, Operation.run, Course.surroundings, accepted]

/-! ## The gate -/

variable {route : Route}

/-- What is done for a caller who is known. -/
def behind (gateway : Gateway) (request : Request) (route : Route) (claims : Claims) :
    Handler Reply :=
  match (Verb.ofMethod? request.method).filter route.verbs.contains with
  | some verb => gateway.handlePrivate claims.username request verb route
  | none => return .notAllowed []

/-- What becomes of a reply on its way out: it says which methods are allowed if another one was
used, and its body is left out if only the head was asked for. -/
def mark (request : Request) (route : Route) (reply : Reply) : Reply :=
  { reply with
    allow := if ((Verb.ofMethod? request.method).filter route.verbs.contains).isNone
      then route.methods else []
    headOnly := request.method == "HEAD" }

/-- A private route is behind the gate. -/
theorem handle_eq (gateway : Gateway) (leads : Route.ofPath? request.path = some route)
    (isPrivate : route.isPrivate = true) :
    gateway.handle request =
      (Handler.finish (gateway.authenticate request >>= gateway.behind request route)).andThen
        fun reply => .done (mark request route reply) := by
  simp only [handle, leads, handleAt, if_pos isPrivate]
  rfl

/-- A gateway to a small bank. -/
def small : Gateway := ⟨Bank.small, false, ""⟩

/-- The wish to have an account restored, without a word about who wishes it. -/
def wish : Request := ⟨"POST", "/api/v1/accounts/7/restore", "", [], [], none⟩

/-- The claims of a token for Alice that is good for the first minute of 1970. -/
def minute (kind : TokenKind) : Claims := ⟨⟨0⟩, "alice", kind, ⟨0⟩, ⟨60000000000⟩⟩

/-- What carries Alice's access token in that minute is known to come from her. -/
theorem knows_minute (request : Request) :
    small.Knows ⟨0⟩ (request.carrying (small.bank.authority.write (minute .access)))
      (minute .access) :=
  (knows_carrying_iff ⟨by decide, by decide⟩).mpr ⟨⟨⟨by decide, by decide⟩, rfl⟩, rfl⟩

end Gateway

end Countinghouse
