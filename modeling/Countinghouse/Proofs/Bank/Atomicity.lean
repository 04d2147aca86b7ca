import Countinghouse.Proofs.Bank.Errand
import Countinghouse.Proofs.Operation.Trial

/-!
# Errands are run completely or not at all

An errand makes at most one call that writes, and makes it last, so nothing that could still
fail comes after it. And wherever the store fails, the errand stops and says so. The two
together are `Attempt.Atomic`, which holds of every errand and is put together from what
holds of its parts.
-/

namespace Countinghouse.Bank

open Attempt

variable {bank : Bank} {blame : StoreCall → StoreError → BankError} {found : Tables}

/-- What is reported when every failure of the store is passed on. -/
abbrev passOn (_ : StoreCall) (error : StoreError) : BankError := .storage error

/-! ## Parts of errands -/

theorem mint_atomic (authority : Authority) (kind : TokenKind) (username : String) :
    (authority.mint kind username).Atomic blame found (fun after _ => after = found) found := by
  unfold Authority.mint
  refine (Atomic.need (by simp)).after fun now => ?_
  refine (Atomic.need (by simp)).after fun id => ?_
  exact Atomic.ofExcept _

theorem authenticate_atomic (username password : String) :
    (bank.authenticate username password).Atomic passOn found (fun after _ => after = found)
      found := by
  unfold authenticate
  refine (Atomic.read rfl fun _ => rfl).after fun reply => ?_
  cases reply with
  | none => simp
  | some user => exact (Atomic.ofExcept _).after fun isRight => by simp

theorem anyAccount_atomic (id : Int) :
    (anyAccount id).Atomic passOn found (fun after _ => after = found) found := by
  unfold anyAccount
  refine (Atomic.read rfl fun _ => rfl).after fun reply => ?_
  cases reply <;> simp

theorem requireOwner_atomic (caller : String) (account : Account) (action : String) :
    (requireOwner caller account action).Atomic blame found (fun after _ => after = found)
      found := by
  unfold requireOwner refuseAccess
  split <;> simp

theorem ownsAccount_atomic (caller : String) (accountId : Int) :
    (ownsAccount caller accountId).Atomic passOn found (fun after _ => after = found) found := by
  unfold ownsAccount
  exact (Atomic.read rfl fun _ => rfl).after fun reply => by simp

theorem validateTransfer_atomic (caller : String) (source destination : Int) :
    (validateTransfer caller source destination).Atomic passOn found
      (fun after _ => after = found) found := by
  unfold validateTransfer refuseTransfer
  refine Atomic.refuse ((Atomic.read rfl fun _ => rfl).after fun payer => ?_)
  cases payer with
  | none => simp
  | some payer =>
      refine (Atomic.read rfl fun _ => rfl).after fun payee => ?_
      cases payee with
      | none => simp
      | some payee =>
          exact Atomic.refuse (Atomic.refuse (Atomic.refuse (Atomic.refuse (by simp))))

/-! ## Users -/

theorem user_atomic (username : String)
    (passedOn : ∀ error, blame (.getUser username) error = .storage error) :
    (user username).Atomic blame found (fun after _ => after = found) found := by
  unfold user
  refine (Atomic.read rfl passedOn).after fun reply => ?_
  cases reply <;> simp

theorem hashPassword_atomic (password : String) :
    (bank.hashPassword password).Atomic blame found (fun after _ => after = found) found := by
  unfold hashPassword
  refine (Atomic.need (by simp)).after fun salt => ?_
  cases bank.passwords.fault? password <;> simp

theorem register_atomic (username fullName email password : String) :
    (bank.register username fullName email password).Atomic
      (Errand.blame (.order (.register username fullName email password))) found
      (fun _ _ => True) found := by
  unfold register
  refine (hashPassword_atomic password).after fun hashedPassword => Atomic.call ?_ ?_
  · rintro error ⟨⟩
    cases error <;> rfl
  · intro now reply after effect
    cases reply with
    | ok user => exact atomic_report_bind.mpr trivial
    | error error => exact atomic_reject.mpr (effect.eq_of_error rfl)

theorem newHash_atomic (caller : String) (current : User) (update : ProfileUpdate) :
    (bank.newHash caller current update).Atomic blame found (fun after _ => after = found)
      found := by
  unfold newHash refuseUpdate
  cases update.newPassword with
  | none => simp
  | some newPassword =>
      refine (Atomic.ofExcept _).after fun isRight => Atomic.refuse ?_
      exact (hashPassword_atomic newPassword).after fun hashedPassword => by simp

theorem updateUser_atomic (caller : String) (update : ProfileUpdate) :
    (bank.updateUser caller update).Atomic (Errand.blame (.order (.updateUser caller update)))
      found (fun _ _ => True) found := by
  unfold updateUser refuseUpdate
  refine (user_atomic caller fun _ => rfl).after fun current => Atomic.refuse ?_
  refine (newHash_atomic caller current update).after fun hashedPassword => Atomic.call ?_ ?_
  · intro error
    cases error with
    | uniqueViolation => exact fun _ => rfl
    | database | foreignKeyViolation | accountUnavailable | internal => exact rfl
  · intro now reply after effect
    match reply with
    | .error (.uniqueViolation _) => exact atomic_reject.mpr (effect.eq_of_error rfl)
    | .error (.database _) | .error (.foreignKeyViolation _) | .error (.accountUnavailable _)
    | .error (.internal _) => exact atomic_throw.mpr (effect.eq_of_error rfl)
    | .ok none => exact atomic_throw.mpr (effect.eq_of_missing rfl)
    | .ok (some user) => exact atomic_report_bind.mpr trivial

/-! ## Accounts -/

theorem openAccount_atomic (caller : String) (currency : Currency) :
    (bank.openAccount caller currency).Atomic passOn found (fun _ _ => True) found := by
  unfold openAccount
  refine Atomic.call (fun error _ => rfl) ?_
  intro now reply after effect
  cases reply with
  | ok account => exact atomic_report_bind.mpr trivial
  | error error => exact atomic_reject.mpr (effect.eq_of_error rfl)

theorem account_atomic (caller : String) (id : Int) :
    (account caller id).Atomic passOn found (fun _ _ => True) found := by
  unfold account
  refine (anyAccount_atomic id).after fun account => ?_
  exact (requireOwner_atomic caller account "get").after fun _ => by simp

/-- A call for the owner of an account, after which only a report is made. -/
theorem ownersCall_atomic (caller action : String) (id : Int) (call : StoreCall)
    (event : call.Reply → Event) :
    Atomic passOn (anyAccount id >>= fun account => requireOwner caller account action >>= fun _ =>
      Attempt.call call >>= fun reply => Attempt.report (event reply)) found (fun _ _ => True)
      found := by
  refine (anyAccount_atomic id).after fun account => ?_
  refine (requireOwner_atomic caller account action).after fun _ => ?_
  exact (Atomic.write fun _ => rfl).bind fun _ _ _ => atomic_report.mpr trivial

theorem deleteAccount_atomic (caller : String) (id : Int) :
    (deleteAccount caller id).Atomic passOn found (fun _ _ => True) found :=
  ownersCall_atomic caller "delete" id (.deleteAccount id) _

theorem restoreAccount_atomic (caller : String) (id : Int) :
    (restoreAccount caller id).Atomic passOn found (fun _ _ => True) found :=
  ownersCall_atomic caller "restore" id (.restoreAccount id) _

/-! ## Transfers -/

theorem createTransfer_atomic (source destination amount : Int) :
    (createTransfer source destination amount).Atomic passOn found (fun _ _ => True) found := by
  unfold createTransfer
  refine Atomic.refuse (Atomic.call (fun error _ => rfl) ?_)
  intro now reply after effect
  cases reply with
  | ok movement => exact atomic_report_bind.mpr trivial
  | error error => exact atomic_reject.mpr (effect.eq_of_error rfl)

theorem transfer_atomic (caller : String) (source destination amount : Int) :
    (transfer caller source destination amount).Atomic passOn found (fun _ _ => True) found := by
  unfold transfer
  exact (validateTransfer_atomic caller source destination).after fun accounts =>
    createTransfer_atomic accounts.1.id accounts.2.id amount

theorem transfersOf_atomic (caller : String) (accountId : Int) (page : Page) :
    (transfersOf caller accountId page).Atomic passOn found (fun _ _ => True) found := by
  unfold transfersOf refuseAccess
  refine (Atomic.read rfl fun _ => rfl).after fun reply => ?_
  cases reply with
  | none => simp
  | some account => exact Atomic.refuse (Atomic.write fun _ => rfl)

theorem transferById_atomic (caller : String) (id : Int) :
    (transferById caller id).Atomic passOn found (fun _ _ => True) found := by
  unfold transferById refuseAccess
  refine (Atomic.read rfl fun _ => rfl).after fun reply => ?_
  cases reply with
  | none => simp
  | some transfer =>
      refine (ownsAccount_atomic _ _).after fun ownsSource => ?_
      cases ownsSource with
      | true => simp
      | false =>
          refine (ownsAccount_atomic _ _).after fun ownsDestination => ?_
          cases ownsDestination <;> simp

/-! ## Sessions -/

theorem login_atomic (username password : String) (client : Client) :
    (bank.login username password client).Atomic passOn found (fun _ _ => True) found := by
  unfold login
  refine (authenticate_atomic username password).after fun user => ?_
  cases user with
  | none => simp
  | some user =>
      refine (mint_atomic _ _ _).after fun access => (mint_atomic _ _ _).after fun refresh => ?_
      exact (Atomic.write fun _ => rfl).bind fun _ session _ => atomic_report_bind.mpr trivial

theorem renew_atomic (refreshToken : String) :
    (bank.renew refreshToken).Atomic passOn found (fun _ _ => True) found := by
  unfold renew
  refine (Atomic.need (by simp)).after fun now => (Atomic.ofExcept _).after fun claims => ?_
  refine (Atomic.read rfl fun _ => rfl).after fun reply => ?_
  cases reply with
  | none => simp
  | some session =>
      refine (Atomic.need (by simp)).after fun present => ?_
      cases checkSession present session claims refreshToken with
      | error error => exact atomic_reject_bind.mpr rfl
      | ok => exact (mint_atomic _ _ _).after fun access => atomic_report_bind.mpr trivial

/-! ## All errands -/

theorem serve_atomic (bank : Bank) (errand : Errand) (found : Tables) :
    (bank.serve errand).Atomic errand.blame found (fun _ _ => True) found := by
  cases errand with
  | order asked =>
      cases asked with
      | register username fullName email password =>
          exact register_atomic username fullName email password
      | updateUser caller update => exact updateUser_atomic caller update
      | user username => exact (user_atomic username fun _ => rfl).mono fun _ _ _ => trivial
      | openAccount caller currency => exact openAccount_atomic caller currency
      | account caller id => exact account_atomic caller id
      | accounts caller | deletedAccounts caller => exact Atomic.write fun _ => rfl
      | deleteAccount caller id => exact deleteAccount_atomic caller id
      | restoreAccount caller id => exact restoreAccount_atomic caller id
      | transfer caller source destination amount =>
          exact transfer_atomic caller source destination amount
      | transferById caller id => exact transferById_atomic caller id
      | transfersOf caller accountId page => exact transfersOf_atomic caller accountId page
      | login username password client => exact login_atomic username password client
      | renew refreshToken => exact renew_atomic refreshToken
  | validateTransfer caller source destination =>
      exact (validateTransfer_atomic caller source destination).mono fun _ _ _ => trivial
  | createTransfer source destination amount =>
      exact createTransfer_atomic source destination amount
  | anyAccount id => exact (anyAccount_atomic id).mono fun _ _ _ => trivial

/-- A failure leaves no trace. Whatever is asked of the bank, on whatever tables, and at
whichever of its calls the store fails with whatever error: if the errand fails, the tables
are as they were found. And where the store failed, the errand makes no other call and
reports that very error, unless a name or an email turned out to be taken. -/
theorem failure_leaves_no_trace (bank : Bank) (errand : Errand) (course : Course)
    (tables : Tables) :
    (∀ error, ((bank.serve errand).tryOut course tables).1 = .error error →
        ((bank.serve errand).tryOut course tables).2.tables = tables) ∧
      ∀ earlier call error later,
        ((bank.serve errand).tryOut course tables).2.calls =
            earlier ++ (call, some error) :: later →
          later = [] ∧
            ((bank.serve errand).tryOut course tables).1 = .error (errand.blame call error) :=
  (serve_atomic bank errand tables).tryOut course

end Countinghouse.Bank
