import Countinghouse.Proofs.Bank.Errand
import Countinghouse.Proofs.Bank.Renewal
import Countinghouse.Proofs.Operation.Undisturbed
import Countinghouse.Proofs.Store.Sessions
import Countinghouse.Proofs.Token.RoundTrip

/-!
# The lifetime of a refresh token

A login leaves a session behind that agrees with its refresh token in everything, which is
`Bank.Keeps`. Sessions are permanent, so it agrees with the token ever after. What a renewal
comes to is then a matter of the clock and of whether the session was blocked. Two checks look at
the clock: the authority accepts the token until the second of its expiry is over, the session
counts as expired as soon as that second has begun. Between the two the session is looked at, so
there a renewal fails for another reason than later.
-/

namespace Countinghouse

namespace Bank

variable {bank : Bank} {claims : Claims} {session : Session} {tables : Tables}

/-- The session is the one that was opened with the token that says the claims. -/
structure Keeps (bank : Bank) (claims : Claims) (session : Session) : Prop where
  isWhole : claims.IsWhole
  isRecent : 0 ≤ claims.expiresAt.seconds
  kind : claims.kind = .refresh
  id : session.id = claims.id
  username : session.username = claims.username
  refreshToken : session.refreshToken = bank.authority.write claims
  expiresAt : session.expiresAt = claims.expiresAt

theorem Keeps.same {latest : Session} (keeps : bank.Keeps claims session)
    (same : session.Same latest) : bank.Keeps claims latest where
  isWhole := keeps.isWhole
  isRecent := keeps.isRecent
  kind := keeps.kind
  id := same.id.trans keeps.id
  username := same.username.trans keeps.username
  refreshToken := same.refreshToken.trans keeps.refreshToken
  expiresAt := same.expiresAt.trans keeps.expiresAt

/-! ## Logging in -/

theorem undisturbed_mint_bind {α : Type} {clock : Instant → Prop} {kind : TokenKind}
    {username : String} {next : String × Claims → Attempt α}
    {post : Tables → Except BankError α → Prop} :
    (bank.authority.mint kind username >>= next).Undisturbed clock post tables ↔
      ∀ now, clock now → ∀ id,
        Attempt.Onward clock next post tables (bank.authority.issue now id kind username) := by
  refine forall_congr' fun now => imp_congr_right fun _ => forall_congr' fun id => ?_
  exact Attempt.undisturbed_ofExcept_bind

/-- What is true of a login that succeeds, and of the tables that it leaves. -/
def Opens (bank : Bank) (username : String) (tables : Tables) (result : Except BankError Login) :
    Prop :=
  ∀ login, result = .ok login → ∃ claims session,
    bank.Keeps claims session ∧ tables.session? claims.id = some session ∧
      session.isBlocked = false ∧ session.username = username ∧
      login.refreshToken = session.refreshToken ∧ login.refreshTokenExpiresAt = session.expiresAt

/-- A user who is authenticated is the one whose name was given. -/
theorem authenticate_undisturbed (bank : Bank) (clock : Instant → Prop)
    (username password : String) (tables : Tables) :
    (bank.authenticate username password).Undisturbed clock
      (fun _ result => ∀ user, result = .ok (some user) → user.username = username) tables := by
  refine Attempt.undisturbed_call_bind.mpr fun now _ => ⟨fun user? isFound => ?_, nofun⟩
  cases user? with
  | none => exact nofun
  | some user =>
      have stored : tables.user? username = some user := Except.ok.inj isFound
      have named : user.username = username := by simpa using List.find?_some stored
      refine Attempt.undisturbed_ofExcept_bind.mpr
        (Attempt.onward_of_ok (fun _ => nofun) fun isRight _ other isOther => ?_)
      cases isRight with
      | false => cases isOther
      | true => cases isOther; exact named

/-- The session that is opened with a refresh token agrees with it. -/
theorem keeps_row {now : Instant} {id : Uuid} {username : String} (isRecent : 0 ≤ now.seconds)
    (issued : bank.authority.claims now id .refresh username = .ok claims) (client : Client)
    (created : Instant) :
    bank.Keeps claims (NewSession.row created
      ⟨claims.id, username, bank.authority.write claims, client, claims.expiresAt⟩) := by
  have isWhole := Authority.claims_isWhole isRecent issued
  obtain ⟨expiresAt, expires, rfl⟩ := Authority.claims_eq_ok_iff.mp issued
  obtain ⟨-, rfl⟩ := Authority.expiry?_eq_some expires
  refine ⟨isWhole, ?_, rfl, rfl, rfl, rfl, rfl⟩
  rw [Instant.seconds_ofSeconds]
  omega

/-- The session is opened with the refresh token, so the two agree. -/
theorem login_opens (bank : Bank) (username password : String) (client : Client)
    (tables : Tables) : (bank.login username password client).Undisturbed (0 ≤ ·.nanos)
      (bank.Opens username) tables := by
  refine (authenticate_undisturbed bank _ username password tables).bind fun found result named =>
    Attempt.onward_of_ok (fun _ => nofun) fun user? isUser => ?_
  cases user? with
  | none => exact fun _ => nofun
  | some user =>
      obtain rfl := named user isUser
      refine undisturbed_mint_bind.mpr fun _ _ _ =>
        Attempt.onward_of_ok (fun _ => nofun) fun access _ => ?_
      refine undisturbed_mint_bind.mpr fun now isRecent id =>
        Attempt.onward_of_ok (fun _ => nofun) fun (token, claims) isIssued => ?_
      obtain ⟨issued, rfl⟩ := Authority.issue_eq_ok_iff.mp isIssued
      refine Attempt.undisturbed_call_bind.mpr fun created _ =>
        ⟨fun session isOpened => ?_, fun _ _ => nofun⟩
      obtain ⟨rfl, stored⟩ := Tables.session?_createSession isOpened
      refine Attempt.undisturbed_report_bind.mpr fun login isLogin => ?_
      obtain rfl := Except.ok.inj isLogin
      exact ⟨claims, _, keeps_row (Int.ediv_nonneg isRecent (by decide)) issued client created,
        stored, rfl, rfl, rfl, rfl⟩

/-! ## Renewing -/

/-- An access token that was issued in the name of a user at an instant, and is good from then on
until it expires. -/
structure Grants (bank : Bank) (username : String) (now : Instant) (renewal : Renewal)
    (access : Claims) : Prop where
  username : access.username = username
  expiresAt : renewal.accessTokenExpiresAt = access.expiresAt
  later : now.seconds ≤ access.expiresAt.seconds
  accepted : ∀ instant : Instant, instant.seconds ≤ access.expiresAt.seconds →
    bank.authority.verifyKind instant renewal.accessToken .access = .ok access

/-- What a renewal with the refresh token of a session comes to at an instant: one case for each
check that can fail, and one for none. -/
inductive RenewsAt (bank : Bank) (session : Session) (now : Instant) :
    Except BankError Renewal → Prop where
  /-- The second of the expiry is over. -/
  | ended (isOver : session.expiresAt.nanos + Instant.nanosPerSecond ≤ now.nanos) :
      RenewsAt bank session now (.error .invalidToken)
  | blocked (inTime : now.nanos < session.expiresAt.nanos + Instant.nanosPerSecond)
      (isBlocked : session.isBlocked = true) :
      RenewsAt bank session now (.error .blockedRefreshToken)
  /-- The second of the expiry has begun. -/
  | expired (inTime : now.nanos < session.expiresAt.nanos + Instant.nanosPerSecond)
      (notBlocked : session.isBlocked = false) (isExpired : session.expiresAt.nanos < now.nanos) :
      RenewsAt bank session now (.error .expiredRefreshToken)
  | renewed (notBlocked : session.isBlocked = false)
      (notExpired : now.nanos ≤ session.expiresAt.nanos) {renewal : Renewal} {access : Claims}
      (grants : bank.Grants session.username now renewal access) :
      RenewsAt bank session now (.ok renewal)

theorem checkSession_eq (keeps : bank.Keeps claims session) (now : Instant) :
    checkSession now session claims (bank.authority.write claims) =
      if session.isBlocked then .error .blockedRefreshToken
      else if session.expiresAt.nanos < now.nanos then .error .expiredRefreshToken
      else .ok () := by
  unfold checkSession
  simp [keeps.username, keeps.refreshToken]

/-- What an access token is good for that is issued at an instant. -/
theorem issue_grants {now : Instant} (isRecent : 0 ≤ now.seconds)
    (hasExpiry : (bank.authority.expiry? now .access).isSome) (id : Uuid) (username : String) :
    ∃ token access, bank.authority.issue now id .access username = .ok (token, access) ∧
      bank.Grants username now ⟨token, access.expiresAt⟩ access := by
  obtain ⟨expiresAt, expires⟩ := Option.isSome_iff_exists.mp hasExpiry
  have issued : bank.authority.claims now id .access username = .ok _ :=
    Authority.claims_eq_ok_iff.mpr ⟨expiresAt, expires, rfl⟩
  have isWhole := Authority.claims_isWhole isRecent issued
  obtain ⟨-, rfl⟩ := Authority.expiry?_eq_some expires
  have later : now.seconds ≤ now.seconds + bank.authority.lifetime .access := by omega
  refine ⟨_, _, congrArg (Except.map _) issued, rfl, rfl, ?_, fun instant inTime => ?_⟩
  · rw [Instant.seconds_ofSeconds]
    exact later
  · rw [Instant.seconds_ofSeconds] at inTime
    rw [Authority.verifyKind_write isWhole, Instant.seconds_ofSeconds,
      if_pos ⟨⟨isRecent.trans later, inTime⟩, rfl⟩]

/-- What is made of the session of a token that was accepted. -/
theorem grant_renewsAt (keeps : bank.Keeps claims session) {now : Instant}
    (isRecent : 0 ≤ now.seconds) (hasExpiry : (bank.authority.expiry? now .access).isSome)
    (inTime : now.nanos < session.expiresAt.nanos + Instant.nanosPerSecond) :
    (bank.grant (bank.authority.write claims) claims (some session)).Undisturbed (now = ·)
      (fun _ => bank.RenewsAt session now) tables := by
  refine Attempt.undisturbed_now_bind.mpr ?_
  rintro _ rfl
  rw [checkSession_eq keeps]
  by_cases isBlocked : session.isBlocked
  · rw [if_pos isBlocked]
    exact Attempt.undisturbed_reject.mpr (.blocked inTime isBlocked)
  rw [Bool.not_eq_true] at isBlocked
  by_cases isExpired : session.expiresAt.nanos < now.nanos
  · rw [isBlocked, if_neg Bool.false_ne_true, if_pos isExpired]
    exact Attempt.undisturbed_reject.mpr (.expired inTime isBlocked isExpired)
  · rw [isBlocked, if_neg Bool.false_ne_true, if_neg isExpired]
    refine undisturbed_mint_bind.mpr ?_
    rintro _ rfl id
    obtain ⟨token, access, issued, grants⟩ := issue_grants isRecent hasExpiry id session.username
    rw [issued]
    exact Attempt.undisturbed_report_bind.mpr (.renewed isBlocked (Int.not_lt.mp isExpired) grants)

theorem renew_renewsAt (keeps : bank.Keeps claims session)
    (stored : tables.session? claims.id = some session) {now : Instant} (isRecent : 0 ≤ now.nanos)
    (hasExpiry : (bank.authority.expiry? now .access).isSome) :
    (bank.renew (bank.authority.write claims)).Undisturbed (now = ·)
      (fun _ => bank.RenewsAt session now) tables := by
  have inTime_iff := keeps.isWhole.expiresAt.seconds_le_iff now
  rw [← keeps.expiresAt] at inTime_iff
  rw [renew_eq]
  refine Attempt.undisturbed_now_bind.mpr ?_
  rintro _ rfl
  rw [Authority.verifyKind_write keeps.isWhole, keeps.kind, ← keeps.expiresAt]
  by_cases inTime : now.seconds ≤ session.expiresAt.seconds
  · rw [if_pos ⟨⟨keeps.expiresAt ▸ keeps.isRecent, inTime⟩, rfl⟩]
    refine Attempt.undisturbed_call_bind.mpr fun _ _ => ⟨fun session? isFound => ?_, nofun⟩
    obtain rfl := stored.symm.trans (Except.ok.inj isFound)
    exact grant_renewsAt keeps (Int.ediv_nonneg isRecent (by decide)) hasExpiry
      (inTime_iff.mp inTime)
  · rw [if_neg fun accepted => inTime accepted.1.2]
    exact .ended (Int.not_lt.mp fun less => inTime (inTime_iff.mpr less))

/-! ## The lifetime of a refresh token -/

/-- A login hands out a refresh token `login.refreshToken` that expires at an instant. From then on
anything may be asked of the bank and of the store, also what was asked for before and is not
finished. At any time, the session of the token is stored, it says what the token says, and it is
blocked if a call has blocked it. A renewal with the token then comes to one of four ends, by
whether the second of the expiry is over, whether the session is blocked, and whether that second
has begun. The session is never taken for another one. -/
theorem refreshToken_lifetime {bank : Bank} {username password : String} {client : Client}
    {found : Tables} {opening : Course} (opensSmoothly : opening.IsSmooth (0 ≤ ·.nanos))
    {login : Login} {opened : Trial}
    (loggedIn : (bank.login username password client).tryOut opening found = (.ok login, opened))
    {tasks : List bank.exposed.Task} {deeds : List bank.exposed.Deed} {state : bank.exposed.State}
    (goesOn : Service.Steps ⟨opened.tables, tasks⟩ deeds state)
    {now : Instant} (isRecent : 0 ≤ now.nanos)
    (hasExpiry : (bank.authority.expiry? now .access).isSome)
    {renewing : Course} (renewsSmoothly : renewing.IsSmooth (now = ·))
    {result : Except BankError Renewal}
    (asked : ((bank.renew login.refreshToken).tryOut renewing state.tables).1 = result) :
    ∃ (claims : Claims) (session : Session),
      bank.authority.read? login.refreshToken.toList = some claims ∧
      state.tables.session? claims.id = some session ∧
      session.id = claims.id ∧ session.username = claims.username ∧ session.username = username ∧
      session.refreshToken = login.refreshToken ∧
      session.expiresAt = login.refreshTokenExpiresAt ∧
      (session.isBlocked ↔ ∃ deed ∈ deeds, deed.access.call = .blockSession claims.id) ∧
      (login.refreshTokenExpiresAt.nanos + Instant.nanosPerSecond ≤ now.nanos →
        result = .error .invalidToken) ∧
      (now.nanos < login.refreshTokenExpiresAt.nanos + Instant.nanosPerSecond →
        session.isBlocked → result = .error .blockedRefreshToken) ∧
      (login.refreshTokenExpiresAt.nanos < now.nanos →
        now.nanos < login.refreshTokenExpiresAt.nanos + Instant.nanosPerSecond →
        ¬session.isBlocked → result = .error .expiredRefreshToken) ∧
      (now.nanos ≤ login.refreshTokenExpiresAt.nanos → ¬session.isBlocked →
        ∃ renewal access, result = .ok renewal ∧ bank.Grants username now renewal access) ∧
      result ≠ .error .mismatchedRefreshTokens := by
  have opens := (login_opens bank username password client found).tryOut opensSmoothly
  rw [loggedIn] at opens
  obtain ⟨claims, row, keeps, stored, notBlocked, named, isToken, isExpiry⟩ := opens login rfl
  obtain ⟨session, isStored, same, isBlocked_iff⟩ :=
    Tables.follow_session (deeds.map Service.Deed.timed) stored
  rw [← goesOn.tables_eq] at isStored
  have keeps := keeps.same same
  have isToken : login.refreshToken = bank.authority.write claims :=
    isToken.trans (same.refreshToken.symm.trans keeps.refreshToken)
  have renews := (renew_renewsAt keeps isStored isRecent hasExpiry).tryOut renewsSmoothly
  rw [← isToken, asked] at renews
  rw [isExpiry, ← same.expiresAt]
  refine ⟨claims, session, isToken ▸ Authority.read?_write keeps.isWhole, isStored, keeps.id,
    keeps.username, same.username.trans named, keeps.refreshToken.trans isToken.symm, rfl, ?_, ?_⟩
  · rw [isBlocked_iff, notBlocked]
    simp [Service.Deed.timed]
  · have named := same.username.trans named
    have second : 0 < Instant.nanosPerSecond := by decide
    cases renews with
    | ended isOver =>
        exact ⟨fun _ => rfl, fun inTime => by omega, fun _ inTime => by omega,
          fun notExpired => by omega, nofun⟩
    | blocked inTime isBlocked =>
        exact ⟨fun isOver => by omega, fun _ _ => rfl,
          fun _ _ notBlocked => absurd isBlocked notBlocked,
          fun _ notBlocked => absurd isBlocked notBlocked, nofun⟩
    | expired inTime notBlocked isExpired =>
        exact ⟨fun isOver => by omega, fun _ isBlocked => by simp [notBlocked] at isBlocked,
          fun _ _ _ => rfl, fun notExpired => by omega, nofun⟩
    | renewed notBlocked notExpired grants =>
        exact ⟨fun isOver => by omega, fun _ isBlocked => by simp [notBlocked] at isBlocked,
          fun isExpired => by omega, fun _ _ => ⟨_, _, rfl, named ▸ grants⟩, nofun⟩

/-- Alice logs in, and her session is blocked. When half of the second of its expiry is over, that
is still the reason why it is not renewed. -/
theorem refreshToken_lifetime_in_rehearsal : ∃ login opened,
    (small.login "alice" "secret" ⟨"browser", "::1"⟩).tryOut (.standing ⟨0⟩) onlyAlice =
      (.ok login, opened) ∧
    ((small.renew login.refreshToken).tryOut (.standing ⟨3600500000000⟩)
      (Tables.perform ⟨0⟩ (.blockSession ⟨0⟩) opened.tables).2).1 =
        .error .blockedRefreshToken := by
  have loggedIn : (small.login "alice" "secret" ⟨"browser", "::1"⟩).tryOut (.standing ⟨0⟩)
      onlyAlice = (.ok ⟨⟨0⟩, small.authority.write ⟨⟨0⟩, "alice", .access, ⟨0⟩, ⟨60000000000⟩⟩,
        ⟨60000000000⟩, aliceToken, aliceClaims.expiresAt, _⟩, _) := rfl
  refine ⟨_, _, loggedIn, ?_⟩
  have isRecent : 0 ≤ (⟨3600500000000⟩ : Instant).nanos := by decide
  obtain ⟨claims, session, isRead, -, -, -, -, -, -, isBlocked_iff, -, blocked, -⟩ :=
    refreshToken_lifetime ⟨fun _ => rfl, fun _ => le_rfl⟩ loggedIn
      (exposed_call ⟨0⟩ (.blockSession ⟨0⟩) ⟨_, []⟩) isRecent rfl (Course.standing_isSmooth _) rfl
  obtain rfl : aliceClaims = claims := Option.some.inj (read?_aliceToken.symm.trans isRead)
  exact blocked (by decide) (isBlocked_iff.mpr ⟨_, List.mem_singleton_self _, rfl⟩)

end Bank

end Countinghouse
