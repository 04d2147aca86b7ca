import Countinghouse.Proofs.Bank.Order
import Countinghouse.Proofs.Operation.Trial
import Countinghouse.Proofs.Token.RoundTrip

/-!
# The course of a renewal

A renewal asks the clock, verifies its token, and looks up the session that the token is for.
`Bank.grant` is what it does with the session that it finds, and `Bank.renew_eq` puts the two
halves together.
-/

namespace Countinghouse.Bank

variable {bank : Bank}

/-- What a renewal does when its session was looked up. -/
def grant (bank : Bank) (token : String) (claims : Claims) : Option Session → Attempt Renewal
  | none =>
    Attempt.reject
      (Event.warning "auth" "renew" "session not found" [("session_id", .text claims.id.render)])
      .invalidToken
  | some session => do
    let present ← ExceptT.lift Operation.now
    match checkSession present session claims token with
    | .error error =>
      Attempt.reject
        (Event.warning "auth" "renew" "renewal rejected"
          [("session_id", .text session.id.render), ("username", .text session.username),
            ("error", .text error.message)])
        error
    | .ok () =>
      let (accessToken, access) ← bank.authority.mint .access session.username
      Attempt.report (Event.notice "auth" "access token renewed"
        [("session_id", .text session.id.render), ("username", .text session.username)])
      return ⟨accessToken, access.expiresAt⟩

/-- A renewal is a verification and a look-up before it is anything else. -/
theorem renew_eq (bank : Bank) (token : String) :
    bank.renew token = ExceptT.lift Operation.now >>= fun now =>
      Attempt.ofExcept (bank.authority.verifyKind now token .refresh) >>= fun claims =>
        Attempt.call (.getSession claims.id) >>= fun session? =>
          bank.grant token claims session? := by
  unfold renew grant
  congr 1
  funext now
  congr 1
  funext claims
  congr 1
  funext session?
  cases session? with
  | none => rfl
  | some session =>
      refine congrArg (ExceptT.lift Operation.now >>= ·) ?_
      funext present
      cases checkSession present session claims token <;> rfl

/-- A renewal waits for the clock first. If its token is accepted then, it waits for the session. -/
theorem renew_waits (bank : Bank) (token : String) : ∃ atStart,
    (bank.renew token).run = .ask .clock atStart ∧
      ∀ now claims, bank.authority.verifyKind now token .refresh = .ok claims →
        ∃ next, atStart now = .ask (.store (.getSession claims.id)) next := by
  rw [renew_eq]
  refine ⟨_, rfl, fun now claims accepted => ?_⟩
  change ∃ next,
    ExceptT.run (Attempt.ofExcept (bank.authority.verifyKind now token .refresh) >>= _) = _
  rw [accepted]
  exact ⟨_, rfl⟩

/-- Nothing is asked of the store once the session was looked up. -/
theorem grant_ends (token : String) (claims : Claims) (session? : Option Session) :
    (bank.grant token claims session?).run.Ends fun _ => True := by
  cases session? with
  | none => exact fun _ => trivial
  | some session =>
      intro present
      change Operation.Ends _ (ExceptT.run (match checkSession present session claims token with
        | .error _ => _
        | .ok () => _))
      cases checkSession present session claims token with
      | error error => exact fun _ => trivial
      | ok =>
          intro issuedAt id
          change Operation.Ends _ (ExceptT.run (Attempt.ofExcept
            (bank.authority.issue issuedAt id .access session.username) >>= _))
          cases bank.authority.issue issuedAt id .access session.username with
          | error error => trivial
          | ok issued => exact fun _ => trivial

/-- A blocked session is good for nothing. -/
theorem grant_ends_of_isBlocked (token : String) (claims : Claims) {session : Session}
    (isBlocked : session.isBlocked) :
    (bank.grant token claims (some session)).run.Ends fun result => ¬result.isOk := by
  intro present
  have checked : checkSession present session claims token = .error .blockedRefreshToken :=
    if_pos isBlocked
  change Operation.Ends _ (ExceptT.run (match checkSession present session claims token with
    | .error _ => _
    | .ok () => _))
  rw [checked]
  exact fun _ => Bool.false_ne_true

/-! ## A rehearsal -/

/-- What the refresh token says that Alice gets when she logs in at the start of 1970. -/
def aliceClaims : Claims := ⟨⟨0⟩, "alice", .refresh, ⟨0⟩, ⟨3600000000000⟩⟩

/-- The token itself. -/
def aliceToken : String := small.authority.write aliceClaims

theorem read?_aliceToken : small.authority.read? aliceToken.toList = some aliceClaims :=
  Authority.read?_write ⟨by decide, by decide⟩

/-- Only Alice is registered. -/
def onlyAlice : Tables :=
  { Tables.empty with
    users := [⟨"alice", "secret", "Alice", "alice@example.com", ⟨0⟩, ⟨0⟩⟩] }

/-- Alice has logged in. -/
def aliceLoggedIn : Tables :=
  { onlyAlice with
    sessions := [⟨aliceClaims.id, "alice", aliceToken, ⟨"browser", "::1"⟩, false,
      aliceClaims.expiresAt, ⟨0⟩⟩] }

end Countinghouse.Bank
