import Countinghouse.Proofs.Bank.Reports
import Countinghouse.Proofs.Operation.Harmless
import Countinghouse.Proofs.Store.Sessions
import Countinghouse.Proofs.Token.RoundTrip

/-!
# Orders that are well founded

The tables vouch for a token when it says the name of a user, and when the session of a refresh token
is that of the token. They do so for every token that is handed out, and users and sessions are stored
for good, so they go on vouching for it.

An order is founded when its caller is a user, its amount is positive and its token is one that the
tables vouch for. Such an order does not run into a guard, and what it hands out is vouched for in
turn.
-/

namespace Countinghouse

namespace Bank

/-- What the token says, and what its renewal relies on, is in the tables. -/
structure VouchesFor (bank : Bank) (tables : Tables) (claims : Claims) (token : String) : Prop where
  isWhole : claims.IsWhole
  isToken : token = bank.authority.write claims
  isUser : tables.IsUser claims.username
  session : claims.kind = .refresh → ∃ session, tables.session? claims.id = some session ∧
    session.username = claims.username ∧ session.refreshToken = token

/-- A token that says the claims was written for a user. -/
structure Mints (bank : Bank) (kind : TokenKind) (username token : String) (claims : Claims) :
    Prop where
  isWhole : claims.IsWhole
  isHolder : claims.username = username
  ofKind : claims.kind = kind
  isToken : token = bank.authority.write claims

/-- The tables vouch for a token. -/
def Vouches (bank : Bank) (tables : Tables) (token : String) : Prop :=
  ∃ claims, bank.VouchesFor tables claims token

/-- What an order hands out when it succeeds. -/
def Order.tokens : (order : Order) → order.Answer → List String
  | .login .., opened => [opened.accessToken, opened.refreshToken]
  | .renew _, renewed => [renewed.accessToken]
  | .register .., _ | .updateUser .., _ | .user _, _ | .openAccount .., _ | .account .., _
  | .accounts _, _ | .deletedAccounts _, _ | .deleteAccount .., _ | .restoreAccount .., _
  | .transfer .., _ | .transferById .., _ | .transfersOf .., _ => []

/-- What an order relies on is in the tables: its caller is a user, its amount is positive, and its
token is one that the tables vouch for if it is accepted. -/
def Founded (bank : Bank) (clock : Instant → Prop) (tables : Tables) : Order → Prop
  | .register .. | .login .. => True
  | .updateUser caller _ | .user caller | .openAccount caller _ | .account caller _
  | .accounts caller | .deletedAccounts caller | .deleteAccount caller _ | .restoreAccount caller _
  | .transferById caller _ | .transfersOf caller .. => tables.IsUser caller
  | .transfer caller _ _ amount => tables.IsUser caller ∧ 0 < amount
  | .renew token => ∀ now claims, clock now →
    bank.authority.verifyKind now token .refresh = .ok claims → bank.VouchesFor tables claims token

open Attempt

variable {bank : Bank} {clock : Instant → Prop} {tables : Tables} {claims : Claims} {token : String}

/-! ## Vouching -/

/-- A call leaves users and sessions in place, so what was vouched for is so after it. -/
theorem VouchesFor.perform (vouches : bank.VouchesFor tables claims token) (now : Instant)
    (call : StoreCall) : bank.VouchesFor (Tables.perform now call tables).2 claims token where
  isWhole := vouches.isWhole
  isToken := vouches.isToken
  isUser := vouches.isUser.perform now call
  session isRefresh := by
    obtain ⟨session, stored, isHolder, isSame⟩ := vouches.session isRefresh
    obtain ⟨changed, found, change⟩ := Tables.session_change now call stored
    exact ⟨changed, found, change.same.username.trans isHolder,
      change.same.refreshToken.trans isSame⟩

/-- A token that is vouched for is accepted for nothing but what it was written to say. -/
theorem Vouches.of_verify {now : Instant} (vouches : bank.Vouches tables token)
    (accepted : bank.authority.verify now token = .ok claims) :
    bank.VouchesFor tables claims token := by
  obtain ⟨written, vouched⟩ := vouches
  have isRead := (Authority.verify_eq_ok_iff.mp accepted).1
  rw [vouched.isToken, Authority.read?_write vouched.isWhole] at isRead
  obtain rfl := Option.some.inj isRead
  exact vouched

/-- A token is written for a user. -/
theorem mint_harmless (isDated : ∀ now, clock now → Instant.HasDate now.seconds) (kind : TokenKind)
    (username : String) : (bank.authority.mint kind username).Harmless clock
      (fun after issued => after = tables ∧ bank.Mints kind username issued.1 issued.2) tables := by
  unfold Authority.mint
  refine harmless_now_bind.mpr fun now inTime => harmless_freshId_bind.mpr fun id => ?_
  refine .ofExcept (fun error failed => ?_) ?_
  · rw [Authority.eq_internal_of_issue failed]
    nofun
  · rintro ⟨token, claims⟩ isIssued
    obtain ⟨issued, rfl⟩ := Authority.issue_eq_ok_iff.mp isIssued
    have isWhole := Authority.isWhole_of_claims (isDated now inTime) issued
    obtain ⟨expiresAt, -, rfl⟩ := Authority.claims_eq_ok_iff.mp issued
    exact ⟨rfl, isWhole, rfl, rfl, rfl⟩

/-- A user is vouched for with an access token. -/
theorem Mints.vouches {username : String} (mints : bank.Mints .access username token claims)
    (isUser : tables.IsUser username) : bank.Vouches tables token :=
  ⟨claims, mints.isWhole, mints.isToken, mints.isHolder ▸ isUser, fun isRefresh => by
    cases mints.ofKind.symm.trans isRefresh⟩

/-! ## Users -/

theorem hashPassword_harmless (password : String) :
    (bank.hashPassword password).Harmless clock (fun after _ => after = tables ∧ True) tables := by
  refine harmless_freshSalt_bind.mpr fun salt => ?_
  cases bank.passwords.fault? password with
  | none => exact harmless_pure.mpr ⟨rfl, trivial⟩
  | some fault => exact harmless_throw.mpr nofun

theorem register_harmless (username fullName email password : String) :
    (bank.register username fullName email password).Harmless clock (fun _ _ => True) tables := by
  refine (hashPassword_harmless password).after fun hashedPassword _ => ?_
  refine harmless_lift_call_bind.mpr fun now _ => ?_
  cases created : (Tables.perform now
      (.createUser ⟨username, hashedPassword, fullName, email⟩) tables).1 with
  | ok user => exact harmless_report_bind.mpr trivial
  | error error =>
      obtain ⟨name, rfl⟩ := Tables.createUser_error created
      exact harmless_reject.mpr nofun

theorem user_harmless {username : String} (isUser : tables.IsUser username) :
    (user username).Harmless clock
      (fun after row => after = tables ∧ tables.user? username = some row) tables := by
  obtain ⟨row, stored⟩ := isUser
  refine .read_bind (fun _ => rfl) ?_
  rw [stored]
  exact ⟨rfl, rfl⟩

/-- A check of a password fails inside, if it fails. -/
theorem check_harmless (failsInside : bank.passwords.FailsInside) (password hashed : String) :
    (ofExcept (bank.passwords.check password hashed)).Harmless clock
      (fun after _ => after = tables ∧ True) tables := by
  refine .ofExcept (fun error failed => ?_) fun _ _ => ⟨rfl, trivial⟩
  obtain ⟨text, rfl⟩ := failsInside _ _ _ failed
  nofun

theorem newHash_harmless (failsInside : bank.passwords.FailsInside) (caller : String)
    (current : User) (update : ProfileUpdate) : (bank.newHash caller current update).Harmless clock
      (fun after _ => after = tables ∧ True) tables := by
  unfold newHash refuseUpdate
  cases update.newPassword with
  | none => exact harmless_pure.mpr ⟨rfl, trivial⟩
  | some newPassword =>
      refine (check_harmless failsInside _ _).after fun isRight _ => ?_
      refine .refuse (fun _ => nofun) fun _ => ?_
      exact (hashPassword_harmless newPassword).after fun hashedPassword _ => ⟨rfl, trivial⟩

theorem updateUser_harmless (failsInside : bank.passwords.FailsInside) {caller : String}
    (isUser : tables.IsUser caller) (update : ProfileUpdate) :
    (bank.updateUser caller update).Harmless clock (fun _ _ => True) tables := by
  unfold updateUser refuseUpdate
  refine (user_harmless isUser).after fun current _ => .refuse (fun _ => nofun) fun _ => ?_
  refine (newHash_harmless failsInside caller current update).after fun hash? _ => ?_
  refine harmless_lift_call_bind.mpr fun now _ => ?_
  cases answered : (Tables.perform now
      (.updateUser ⟨caller, update.fullName, update.email, hash?⟩) tables).1 with
  | error error =>
      obtain ⟨name, rfl⟩ := Tables.updateUser_error answered
      exact harmless_reject.mpr nofun
  | ok found? =>
      cases found? with
      | none => exact absurd answered (Tables.updateUser_ne_none isUser)
      | some row => exact harmless_report_bind.mpr trivial

/-! ## Accounts -/

theorem openAccount_harmless {caller : String} (isUser : tables.IsUser caller)
    (currency : Currency) :
    (bank.openAccount caller currency).Harmless clock (fun _ _ => True) tables := by
  refine harmless_lift_call_bind.mpr fun now _ => ?_
  cases answered : (Tables.perform now
      (.createAccount ⟨caller, currency, bank.startingBalance⟩) tables).1 with
  | ok account => exact harmless_report_bind.mpr trivial
  | error error =>
      obtain ⟨name, rfl⟩ := Tables.createAccount_error isUser answered
      exact harmless_reject.mpr nofun

theorem anyAccount_harmless (id : Int) :
    (anyAccount id).Harmless clock (fun after _ => after = tables ∧ True) tables := by
  refine .read_bind (fun _ => rfl) ?_
  cases tables.account? id with
  | some account => exact harmless_pure.mpr ⟨rfl, trivial⟩
  | none => exact harmless_throw.mpr nofun

theorem requireOwner_harmless (caller : String) (account : Account) (action : String) :
    (requireOwner caller account action).Harmless clock (fun after _ => after = tables ∧ True)
      tables := by
  unfold requireOwner refuseAccess
  split
  · exact ⟨rfl, trivial⟩
  · exact harmless_reject.mpr nofun

theorem account_harmless (caller : String) (id : Int) :
    (account caller id).Harmless clock (fun _ _ => True) tables :=
  (anyAccount_harmless id).after fun account _ =>
    (requireOwner_harmless caller account "get").after fun _ _ => trivial

/-- A call for the owner of an account, after which only a report is made. -/
theorem ownersCall_harmless (caller action : String) (id : Int) (call : StoreCall)
    (supports : tables.Supports call) (event : call.Reply → Event) :
    Harmless clock (anyAccount id >>= fun account => requireOwner caller account action >>= fun _ =>
      Attempt.call call >>= fun reply => Attempt.report (event reply)) (fun _ _ => True) tables :=
  (anyAccount_harmless id).after fun account _ =>
    (requireOwner_harmless caller account action).after fun _ _ =>
      .call_bind supports fun _ _ _ _ _ => trivial

/-! ## Transfers -/

/-- A transfer that is validated is between active accounts. -/
theorem validateTransfer_harmless (caller : String) (source destination : Int) :
    (validateTransfer caller source destination).Harmless clock
      (fun after accounts => after = tables ∧
        tables.IsActive accounts.1.id ∧ tables.IsActive accounts.2.id) tables := by
  unfold validateTransfer refuseTransfer
  refine .refuse (fun _ => nofun) fun _ => .read_bind (fun _ => rfl) ?_
  cases payerStored : tables.account? source with
  | none => exact harmless_reject.mpr nofun
  | some payer =>
      refine .read_bind (fun _ => rfl) ?_
      cases payeeStored : tables.account? destination with
      | none => exact harmless_reject.mpr nofun
      | some payee =>
          refine .refuse (fun _ => nofun) fun _ => .refuse (fun _ => nofun) fun _ => ?_
          refine .refuse (fun _ => nofun) fun payerKept => ?_
          refine .refuse (fun _ => nofun) fun payeeKept => ?_
          exact ⟨rfl, Tables.isActive_of_account? payerStored (Bool.eq_false_iff.mpr payerKept),
            Tables.isActive_of_account? payeeStored (Bool.eq_false_iff.mpr payeeKept)⟩

theorem createTransfer_harmless {source destination amount : Int} (isPositive : 0 < amount)
    (fromActive : tables.IsActive source) (toActive : tables.IsActive destination) :
    (createTransfer source destination amount).Harmless clock (fun _ _ => True) tables := by
  unfold createTransfer
  refine .refuse (fun notPositive => absurd isPositive (Int.not_lt.mpr notPositive)) fun _ => ?_
  refine harmless_lift_call_bind.mpr fun now _ => ?_
  cases answered : (Tables.perform now (.transferFunds source destination amount) tables).1 with
  | ok movement => exact harmless_report_bind.mpr trivial
  | error error =>
      obtain ⟨text, rfl⟩ := Tables.transferFunds_error fromActive toActive answered
      exact harmless_reject.mpr nofun

theorem transfersOf_harmless (caller : String) (accountId : Int) (page : Page) :
    (transfersOf caller accountId page).Harmless clock (fun _ _ => True) tables := by
  unfold transfersOf refuseAccess
  refine .read_bind (fun _ => rfl) ?_
  cases tables.account? accountId with
  | none => exact harmless_reject.mpr nofun
  | some account => exact .refuse (fun _ => nofun) fun _ => .call trivial fun _ _ _ _ => trivial

theorem ownsAccount_harmless (caller : String) (accountId : Int) :
    (ownsAccount caller accountId).Harmless clock (fun after _ => after = tables ∧ True) tables :=
  .read_bind (fun _ => rfl) ⟨rfl, trivial⟩

theorem transferById_harmless (caller : String) (id : Int) :
    (transferById caller id).Harmless clock (fun _ _ => True) tables := by
  unfold transferById refuseAccess
  refine .read_bind (fun _ => rfl) ?_
  cases tables.transfer? id with
  | none => exact harmless_throw.mpr nofun
  | some transfer =>
      refine (ownsAccount_harmless _ _).after fun ownsSource _ => ?_
      cases ownsSource with
      | true => exact trivial
      | false =>
          refine (ownsAccount_harmless _ _).after fun ownsDestination _ => ?_
          cases ownsDestination with
          | true => exact trivial
          | false => exact harmless_reject.mpr nofun

/-! ## Sessions -/

/-- Who is authenticated is a user. -/
theorem authenticate_harmless (failsInside : bank.passwords.FailsInside)
    (username password : String) : (bank.authenticate username password).Harmless clock
      (fun after found => after = tables ∧ ∀ user, found = some user → tables.IsUser user.username)
      tables := by
  refine .read_bind (fun _ => rfl) ?_
  cases stored : tables.user? username with
  | none => exact ⟨rfl, nofun⟩
  | some user =>
      refine (check_harmless failsInside _ _).after fun isRight _ => ⟨rfl, fun other isOther => ?_⟩
      obtain ⟨-, rfl⟩ := Tables.user?_some stored
      cases isRight with
      | false => cases isOther
      | true =>
          obtain rfl := Option.some.inj isOther
          exact ⟨user, stored⟩

/-- A login hands out two tokens for the user, and opens a session that agrees with one of them. -/
theorem login_harmless (failsInside : bank.passwords.FailsInside)
    (isDated : ∀ now, clock now → Instant.HasDate now.seconds) (username password : String)
    (client : Client) : (bank.login username password client).Harmless clock
      (fun after opened => ∀ token ∈ [opened.accessToken, opened.refreshToken],
        bank.Vouches after token) tables := by
  unfold login
  refine (authenticate_harmless failsInside username password).after fun found? isUser => ?_
  cases found? with
  | none => exact harmless_reject.mpr nofun
  | some user =>
      have isUser := isUser user rfl
      refine (mint_harmless isDated .access user.username).after ?_
      rintro ⟨accessToken, access⟩ accessWritten
      refine (mint_harmless isDated .refresh user.username).after ?_
      rintro ⟨refreshToken, refresh⟩ refreshWritten
      refine .call_bind isUser fun now _ session isOpened => ?_
      -- The session is stored under the number of the refresh token, together with the token itself.
      obtain ⟨rfl, stored⟩ := Tables.session?_createSession isOpened
      have stays := isUser.perform now
        (.createSession ⟨refresh.id, user.username, refreshToken, client, refresh.expiresAt⟩)
      refine harmless_report_bind.mpr fun token member => ?_
      simp only [List.mem_cons, List.not_mem_nil, or_false] at member
      rcases member with rfl | rfl
      · exact accessWritten.vouches stays
      · exact ⟨refresh, refreshWritten.isWhole, refreshWritten.isToken,
          refreshWritten.isHolder ▸ stays, fun _ => ⟨_, stored, refreshWritten.isHolder.symm, rfl⟩⟩

/-- A renewal hands out a token for the user whose session it is. -/
theorem renew_harmless (isDated : ∀ now, clock now → Instant.HasDate now.seconds)
    (founded : bank.Founded clock tables (.renew token)) :
    (bank.renew token).Harmless clock
      (fun after renewed => ∀ token ∈ [renewed.accessToken], bank.Vouches after token) tables := by
  unfold renew
  refine harmless_now_bind.mpr fun now inTime => ?_
  have verified : (ofExcept (bank.authority.verifyKind now token .refresh)).Harmless clock
      (fun after claims => after = tables ∧ bank.VouchesFor tables claims token ∧
        claims.kind = .refresh) tables := by
    refine .ofExcept (fun error refused => ?_) fun claims accepted => ⟨rfl, ?_⟩
    · rw [Authority.eq_invalidToken_of_verifyKind refused]
      nofun
    · exact ⟨founded now claims inTime accepted, (Authority.verifyKind_eq_ok_iff.mp accepted).2⟩
  refine verified.after fun claims ⟨vouches, isRefresh⟩ => ?_
  obtain ⟨session, stored, isHolder, isSame⟩ := vouches.session isRefresh
  refine .read_bind (fun _ => rfl) ?_
  rw [stored]
  refine harmless_now_bind.mpr fun present _ => ?_
  cases checked : checkSession present session claims token with
  | error error =>
      refine harmless_reject_bind.mpr ?_
      rcases checkSession_error checked with rfl | rfl | ⟨rfl, isOther⟩
      · nofun
      · nofun
      · exact absurd isSame (isOther isHolder)
  | ok =>
      refine (mint_harmless isDated .access session.username).after ?_
      rintro ⟨accessToken, access⟩ written
      refine harmless_report_bind.mpr fun token member => ?_
      obtain rfl := List.mem_singleton.mp member
      exact written.vouches (isHolder ▸ vouches.isUser)

/-- An order that is founded does not run into a guard, and what it hands out is vouched for. -/
theorem attempt_harmless (failsInside : bank.passwords.FailsInside)
    (isDated : ∀ now, clock now → Instant.HasDate now.seconds) {asked : Order}
    (founded : bank.Founded clock tables asked) : (bank.attempt asked).Harmless clock
      (fun after answer => ∀ token ∈ asked.tokens answer, bank.Vouches after token) tables := by
  -- Nothing is handed out but by a login and a renewal.
  have nothing {after : Tables} (token : String) (member : token ∈ ([] : List String)) :
      bank.Vouches after token := absurd member List.not_mem_nil
  cases asked with
  | register username fullName email password =>
      exact (register_harmless username fullName email password).mono fun _ _ _ => nothing
  | updateUser caller update =>
      exact (updateUser_harmless failsInside founded update).mono fun _ _ _ => nothing
  | user username => exact (user_harmless founded).mono fun _ _ _ => nothing
  | openAccount caller currency =>
      exact (openAccount_harmless founded currency).mono fun _ _ _ => nothing
  | account caller id => exact (account_harmless caller id).mono fun _ _ _ => nothing
  | accounts caller | deletedAccounts caller => exact .call trivial fun _ _ _ _ => nothing
  | deleteAccount caller id =>
      exact (ownersCall_harmless caller "delete" id (.deleteAccount id) trivial _).mono
        fun _ _ _ => nothing
  | restoreAccount caller id =>
      exact (ownersCall_harmless caller "restore" id (.restoreAccount id) trivial _).mono
        fun _ _ _ => nothing
  | transfer caller source destination amount =>
      refine (validateTransfer_harmless caller source destination).after fun accounts active => ?_
      exact (createTransfer_harmless founded.2 active.1 active.2).mono fun _ _ _ => nothing
  | transferById caller id => exact (transferById_harmless caller id).mono fun _ _ _ => nothing
  | transfersOf caller accountId page =>
      exact (transfersOf_harmless caller accountId page).mono fun _ _ _ => nothing
  | login username password client =>
      exact login_harmless failsInside isDated username password client
  | renew token => exact renew_harmless isDated founded

end Bank

end Countinghouse
