import Countinghouse.Password.Argon
import Countinghouse.Proofs.Bank.Errand
import Countinghouse.Proofs.Operation.Report
import Countinghouse.Proofs.Operation.Undisturbed
import Countinghouse.Proofs.Token.Authority

/-!
# Which failures are complained about

Whoever watches over the bank is to see each failure once, as a complaint that names the component
and the action. `Errand.isTold` says of which failures this is true. An errand that succeeds is never
loud, and one that fails is loud at most once; but a row that is missing, a failure of the store that
is passed on, a token or a hash that cannot be read, and a password that cannot be hashed are not
complained about.
-/

namespace Countinghouse

/-- Passwords are checked without a failure, or with one of the service itself. -/
def PasswordScheme.FailsInside (scheme : PasswordScheme) : Prop :=
  ∀ password hashed error, scheme.check password hashed = .error error →
    ∃ text, error = .internal text

/-- The only failure of a check is that the hash cannot be read. -/
theorem Argon2.scheme_failsInside (cost : Cost) : (scheme cost).FailsInside := by
  intro password hashed error failed
  change check password hashed = .error error at failed
  unfold check at failed
  split at failed
  · exact ⟨_, (Except.error.inj failed).symm⟩
  · split at failed <;> cases failed

/-- A failure at this call is complained about by whoever made the call. -/
def StoreCall.isWatched : StoreCall → Bool
  | .createUser _ | .createAccount _ | .transferFunds .. => true
  | _ => false

namespace Bank

namespace Errand

/-- The errand looks at the accounts of a transfer. -/
def validates : Errand → Bool
  | .order (.transfer ..) | .validateTransfer .. => true
  | _ => false

/-- Whether an errand complains about a failure, given the last call that it made of the store. -/
def isTold (errand : Errand) (last : Option StoreCall) : BankError → Bool
  | .accountNotFound _ => errand.validates
  | .invalidToken => last.isSome
  | .storage _ => last.any StoreCall.isWatched
  | .userNotFound _ | .transferNotFound _ | .internal _ | .unsupportedCurrency _
  | .invalidPagination _ => false
  | .sameAccountTransfer .. | .invalidAccountId _ | .notAccountOwner | .currencyMismatch ..
  | .accountDeleted _ | .invalidAmount _ | .blockedRefreshToken | .expiredRefreshToken
  | .mismatchedRefreshTokens | .emailSameAsOld | .passwordWrong | .userAlreadyExists
  | .invalidCredentials => true

end Errand

open Attempt

variable {bank : Bank} {errand : Errand} {last : Option StoreCall}

/-! ## Parts of errands -/

theorem mint_complains (authority : Authority) (kind : TokenKind) (username : String) :
    (authority.mint kind username).Complains errand.isTold last := by
  unfold Authority.mint
  refine complains_now_bind fun now => complains_freshId_bind fun id => ?_
  refine complains_ofExcept fun error failed => ?_
  rw [Authority.eq_internal_of_issue failed]
  rfl

theorem anyAccount_complains (isOther : errand.validates = false) (id : Int) :
    (anyAccount id).Complains errand.isTold last := by
  unfold anyAccount
  refine .call_bind (fun _ => rfl) fun reply => ?_
  cases reply with
  | some account => exact complains_pure
  | none => exact complains_throw isOther

theorem requireOwner_complains (caller : String) (account : Account) (action : String) :
    (requireOwner caller account action).Complains errand.isTold last := by
  unfold requireOwner refuseAccess
  split
  · exact complains_pure
  · exact complains_reject (Event.warning_isComplaint ..) rfl

theorem validateTransfer_complains (isValidation : errand.validates = true) (caller : String)
    (source destination : Int) :
    (validateTransfer caller source destination).Complains errand.isTold last := by
  unfold validateTransfer refuseTransfer
  have complaint := Event.warning_isComplaint "transfer" "validate" "transfer rejected"
  refine .refuse (complaint _) rfl (.call_bind (fun _ => rfl) fun payer => ?_)
  cases payer with
  | none => exact complains_reject (complaint _) isValidation
  | some payer =>
      refine .call_bind (fun _ => rfl) fun payee => ?_
      cases payee with
      | none => exact complains_reject (complaint _) isValidation
      | some payee =>
          exact .refuse (complaint _) rfl (.refuse (complaint _) rfl (.refuse (complaint _) rfl
            (.refuse (complaint _) rfl complains_pure)))

theorem createTransfer_complains (source destination amount : Int) :
    (createTransfer source destination amount).Complains errand.isTold last := by
  unfold createTransfer
  refine .refuse (Event.warning_isComplaint ..) rfl (complains_lift_call_bind fun reply => ?_)
  cases reply with
  | ok movement => exact complains_report_bind (Event.isLoud_notice ..) complains_pure
  | error error => exact complains_reject (Event.warning_isComplaint ..) rfl

/-- A call for the owner of an account, after which only a report is made. -/
theorem ownersCall_complains (isOther : errand.validates = false) (caller action : String) (id : Int)
    {call : StoreCall} (unwatched : call.isWatched = false) (event : call.Reply → Event)
    (quiet : ∀ reply, (event reply).isLoud = false) :
    Complains errand.isTold last (anyAccount id >>= fun account =>
      requireOwner caller account action >>= fun _ =>
        Attempt.call call >>= fun reply => Attempt.report (event reply)) := by
  refine (anyAccount_complains isOther id).bind fun _ account => ?_
  refine (requireOwner_complains caller account action).bind fun _ _ => ?_
  refine .call_bind (fun _ => unwatched) fun reply => ?_
  exact complains_report (quiet reply)

/-! ## All errands -/

theorem hashPassword_complains (password : String) :
    (bank.hashPassword password).Complains errand.isTold last := by
  unfold hashPassword
  refine complains_freshSalt_bind fun salt => ?_
  cases bank.passwords.fault? password with
  | none => exact complains_pure
  | some fault => exact complains_throw rfl

theorem register_complains (username fullName email password : String) :
    (bank.register username fullName email password).Complains errand.isTold last := by
  unfold register
  refine (hashPassword_complains password).bind fun _ hashedPassword => ?_
  refine complains_lift_call_bind fun reply => ?_
  cases reply with
  | ok user => exact complains_report_bind (Event.isLoud_notice ..) complains_pure
  | error error =>
      refine complains_reject (Event.warning_isComplaint ..) ?_
      cases error <;> rfl

theorem user_complains (username : String) : (user username).Complains errand.isTold last := by
  unfold user
  refine .call_bind (fun _ => rfl) fun reply => ?_
  cases reply with
  | some user => exact complains_pure
  | none => exact complains_throw rfl

theorem newHash_complains (failsInside : bank.passwords.FailsInside) (caller : String)
    (current : User) (update : ProfileUpdate) :
    (bank.newHash caller current update).Complains errand.isTold last := by
  unfold newHash refuseUpdate
  cases update.newPassword with
  | none => exact complains_pure
  | some newPassword =>
      refine Complains.bind (complains_ofExcept fun error failed => ?_) fun _ isRight => ?_
      · obtain ⟨text, rfl⟩ := failsInside _ _ _ failed
        rfl
      · exact .refuse (Event.warning_isComplaint ..) rfl
          ((hashPassword_complains newPassword).bind fun _ _ => complains_pure)

theorem updateUser_complains (failsInside : bank.passwords.FailsInside) (caller : String)
    (update : ProfileUpdate) : (bank.updateUser caller update).Complains errand.isTold last := by
  unfold updateUser refuseUpdate
  refine (user_complains caller).bind fun _ current => ?_
  refine .refuse (Event.warning_isComplaint ..) rfl ?_
  refine (newHash_complains failsInside caller current update).bind fun _ hash => ?_
  refine complains_lift_call_bind fun reply => ?_
  match reply with
  | .error (.uniqueViolation _) => exact complains_reject (Event.warning_isComplaint ..) rfl
  | .error (.database _) | .error (.foreignKeyViolation _) | .error (.accountUnavailable _)
  | .error (.internal _) => exact complains_throw rfl
  | .ok none => exact complains_throw rfl
  | .ok (some user) => exact complains_report_bind (Event.isLoud_notice ..) complains_pure

theorem openAccount_complains (caller : String) (currency : Currency) :
    (bank.openAccount caller currency).Complains errand.isTold last := by
  unfold openAccount
  refine complains_lift_call_bind fun reply => ?_
  cases reply with
  | ok account => exact complains_report_bind (Event.isLoud_notice ..) complains_pure
  | error error => exact complains_reject (Event.warning_isComplaint ..) rfl

theorem transfersOf_complains (caller : String) (accountId : Int) (page : Page) :
    (transfersOf caller accountId page).Complains errand.isTold last := by
  unfold transfersOf refuseAccess
  refine .call_bind (fun _ => rfl) fun reply => ?_
  cases reply with
  | none => exact complains_reject (Event.warning_isComplaint ..) rfl
  | some account => exact .refuse (Event.warning_isComplaint ..) rfl (complains_call fun _ => rfl)

theorem ownsAccount_complains (caller : String) (accountId : Int) :
    (ownsAccount caller accountId).Complains errand.isTold last := by
  unfold ownsAccount
  exact .call_bind (fun _ => rfl) fun reply => complains_pure

theorem transferById_complains (caller : String) (id : Int) :
    (transferById caller id).Complains errand.isTold last := by
  unfold transferById refuseAccess
  refine .call_bind (fun _ => rfl) fun reply => ?_
  cases reply with
  | none => exact complains_throw rfl
  | some transfer =>
      refine (ownsAccount_complains _ _).bind fun _ ownsSource => ?_
      cases ownsSource with
      | true => exact complains_pure
      | false =>
          refine (ownsAccount_complains _ _).bind fun _ ownsDestination => ?_
          cases ownsDestination with
          | true => exact complains_pure
          | false => exact complains_reject (Event.warning_isComplaint ..) rfl

theorem authenticate_complains (failsInside : bank.passwords.FailsInside)
    (username password : String) :
    (bank.authenticate username password).Complains errand.isTold last := by
  unfold authenticate
  refine .call_bind (fun _ => rfl) fun reply => ?_
  cases reply with
  | none => exact complains_pure
  | some user =>
      refine Complains.bind (complains_ofExcept fun error failed => ?_) fun _ _ => complains_pure
      obtain ⟨text, rfl⟩ := failsInside _ _ _ failed
      rfl

theorem login_complains (failsInside : bank.passwords.FailsInside) (username password : String)
    (client : Client) : (bank.login username password client).Complains errand.isTold last := by
  unfold login
  refine (authenticate_complains failsInside username password).bind fun _ user => ?_
  cases user with
  | none => exact complains_reject (Event.warning_isComplaint ..) rfl
  | some user =>
      refine (mint_complains _ _ _).bind fun _ access => ?_
      refine (mint_complains _ _ _).bind fun _ refresh => ?_
      refine .call_bind (fun _ => rfl) fun session => ?_
      exact complains_report_bind (Event.isLoud_notice ..) complains_pure

/-- What a session may be refused for. -/
theorem checkSession_error {now : Instant} {session : Session} {claims : Claims}
    {presented : String} {error : BankError}
    (refused : checkSession now session claims presented = .error error) :
    error = .blockedRefreshToken ∨ error = .expiredRefreshToken ∨
      error = .mismatchedRefreshTokens ∧
        (session.username = claims.username → session.refreshToken ≠ presented) := by
  unfold checkSession at refused
  split at refused
  · exact .inl (Except.error.inj refused).symm
  split at refused
  · exact .inr (.inl (Except.error.inj refused).symm)
  split at refused
  · next otherHolder =>
      exact .inr (.inr ⟨(Except.error.inj refused).symm, fun isHolder => absurd isHolder otherHolder⟩)
  split at refused
  · next otherToken => exact .inr (.inr ⟨(Except.error.inj refused).symm, fun _ => otherToken⟩)
  · cases refused

/-- A token that does not verify is not complained about, and one without a session is. -/
theorem renew_complains (refreshToken : String) :
    (bank.renew refreshToken).Complains errand.isTold none := by
  unfold renew
  refine complains_now_bind fun now => ?_
  refine Complains.bind (complains_ofExcept fun error refused => ?_) fun _ claims => ?_
  · rw [Authority.eq_invalidToken_of_verifyKind refused]
    rfl
  · refine .call_bind (fun _ => rfl) fun reply => ?_
    cases reply with
    | none => exact complains_reject (Event.warning_isComplaint ..) rfl
    | some session =>
        refine complains_now_bind fun present => ?_
        cases checked : checkSession present session claims refreshToken with
        | error error =>
            refine complains_reject_bind (Event.warning_isComplaint ..) ?_
            rcases checkSession_error checked with rfl | rfl | ⟨rfl, -⟩ <;> rfl
        | ok =>
            refine (mint_complains _ _ _).bind fun _ access => ?_
            exact complains_report_bind (Event.isLoud_notice ..) complains_pure

theorem serve_complains (failsInside : bank.passwords.FailsInside) (errand : Errand) :
    (bank.serve errand).Complains errand.isTold none := by
  cases errand with
  | order asked =>
      cases asked with
      | register username fullName email password =>
          exact register_complains username fullName email password
      | updateUser caller update => exact updateUser_complains failsInside caller update
      | user username => exact user_complains username
      | openAccount caller currency => exact openAccount_complains caller currency
      | account caller id =>
          exact (anyAccount_complains rfl id).bind fun _ account =>
            (requireOwner_complains caller account "get").bind fun _ _ => complains_pure
      | accounts caller | deletedAccounts caller => exact complains_call fun _ => rfl
      | deleteAccount caller id =>
          exact ownersCall_complains rfl caller "delete" id rfl _ fun _ => Event.isLoud_notice ..
      | restoreAccount caller id =>
          exact ownersCall_complains rfl caller "restore" id rfl _ fun _ => Event.isLoud_notice ..
      | transfer caller source destination amount =>
          exact (validateTransfer_complains rfl caller source destination).bind fun _ accounts =>
            createTransfer_complains accounts.1.id accounts.2.id amount
      | transferById caller id => exact transferById_complains caller id
      | transfersOf caller accountId page => exact transfersOf_complains caller accountId page
      | login username password client => exact login_complains failsInside username password client
      | renew refreshToken => exact renew_complains refreshToken
  | validateTransfer caller source destination =>
      exact validateTransfer_complains rfl caller source destination
  | createTransfer source destination amount =>
      exact createTransfer_complains source destination amount
  | anyAccount id => exact anyAccount_complains rfl id

/-- The loud events of an errand. -/
def outcry (bank : Bank) (errand : Errand) (course : Course) (tables : Tables) : List Event :=
  ((bank.serve errand).run.log course (.start tables)).filter Event.isLoud

/-- Which failures are complained about. Whatever is asked of the bank, on whatever tables, and
wherever the store fails: an errand that succeeds is not loud, and one that fails makes a single
complaint or none, according to `Errand.isTold`. -/
theorem complaints_are_single (bank : Bank) (failsInside : bank.passwords.FailsInside)
    (errand : Errand) (course : Course) (tables : Tables) :
    match ((bank.serve errand).tryOut course tables).1 with
    | .ok _ => bank.outcry errand course tables = []
    | .error error =>
      if errand.isTold ((bank.serve errand).tryOut course tables).2.lastCall error then
        ∃ event, bank.outcry errand course tables = [event] ∧ event.IsComplaint
      else bank.outcry errand course tables = [] := by
  have verdict :=
    Operation.Tells.tryOut course (.start tables) (bank.serve_complains failsInside errand)
  unfold outcry Attempt.tryOut
  cases outcome : ((bank.serve errand).run.tryOut course (.start tables)).1 with
  | ok value =>
      rw [outcome] at verdict
      exact verdict
  | error error =>
      rw [outcome] at verdict
      exact verdict

/-- Who pays from an account that is missing is complained about, once. -/
theorem complaints_are_single_for_a_payment :
    small.passwords.FailsInside ∧
    ((small.serve (.order (.transfer "alice" 1 2 30))).tryOut (.standing ⟨0⟩) .empty).1 =
      .error (.accountNotFound 1) ∧
    ∃ event, small.outcry (.order (.transfer "alice" 1 2 30)) (.standing ⟨0⟩) .empty = [event] ∧
      event.IsComplaint := by
  have failsInside : small.passwords.FailsInside := fun _ _ _ failed => by cases failed
  exact ⟨failsInside, rfl, complaints_are_single small failsInside
    (.order (.transfer "alice" 1 2 30)) (.standing ⟨0⟩) .empty⟩

/-- Who looks at an account that is missing is told so, and nobody else is. -/
theorem glance_is_not_complained_about :
    ((small.serve (.order (.account "alice" 99))).tryOut (.standing ⟨0⟩) .empty).1 =
      .error (.accountNotFound 99) ∧
    small.outcry (.order (.account "alice" 99)) (.standing ⟨0⟩) .empty = [] := ⟨rfl, rfl⟩

end Bank

end Countinghouse
