import Countinghouse.Proofs.Bank.Atomicity
import Countinghouse.Proofs.Operation.CallsOnly

/-!
# Which errands write users

A registration and a change of a profile do. Every other errand leaves the users as they are,
whatever is answered to it and also when the store fails in between: it makes none of the two
calls that write a user.
-/

namespace Countinghouse

/-- The call changes no user. -/
def StoreCall.LeavesUsers : StoreCall → Prop
  | .createUser _ | .updateUser _ => False
  | _ => True

theorem Tables.users_perform {call : StoreCall} (leaves : call.LeavesUsers) (now : Instant)
    (tables : Tables) : (perform now call tables).2.users = tables.users := by
  have effect := tables.perform_effect now call
  generalize (perform now call tables).1 = reply at effect
  generalize (perform now call tables).2 = after at effect
  cases effect with
  | registered | updated => exact leaves.elim
  | nothing | opened | deleted | restored | transferred | admitted | blocked => rfl

namespace Bank

open Attempt

variable {bank : Bank}

theorem anyAccount_leavesUsers (id : Int) : (anyAccount id).CallsOnly (·.LeavesUsers) := by
  unfold anyAccount
  refine (callsOnly_call trivial).bind fun account? => ?_
  cases account? <;> simp

theorem requireOwner_leavesUsers (caller : String) (account : Account) (action : String) :
    (requireOwner caller account action).CallsOnly (·.LeavesUsers) := by
  unfold requireOwner refuseAccess
  split <;> simp

theorem ownersCall_leavesUsers (caller action : String) (id : Int) (call : StoreCall)
    (leaves : call.LeavesUsers) (event : call.Reply → Event) :
    CallsOnly (·.LeavesUsers) (anyAccount id >>= fun account =>
      requireOwner caller account action >>= fun _ =>
        Attempt.call call >>= fun reply => Attempt.report (event reply)) := by
  refine (anyAccount_leavesUsers id).bind fun account => ?_
  refine (requireOwner_leavesUsers caller account action).bind fun _ => ?_
  exact (callsOnly_call leaves).bind fun _ => callsOnly_report

theorem openAccount_leavesUsers (caller : String) (currency : Currency) :
    (bank.openAccount caller currency).CallsOnly (·.LeavesUsers) := by
  unfold openAccount
  refine (callsOnly_lift_call trivial).bind fun reply => ?_
  cases reply with
  | error error => exact callsOnly_reject
  | ok account => exact callsOnly_report.bind fun _ => callsOnly_pure

theorem account_leavesUsers (caller : String) (id : Int) :
    (account caller id).CallsOnly (·.LeavesUsers) := by
  unfold account
  refine (anyAccount_leavesUsers id).bind fun account => ?_
  exact (requireOwner_leavesUsers caller account "get").bind fun _ => callsOnly_pure

theorem validateTransfer_leavesUsers (caller : String) (source destination : Int) :
    (validateTransfer caller source destination).CallsOnly (·.LeavesUsers) := by
  unfold validateTransfer refuseTransfer
  refine CallsOnly.refuse ((callsOnly_call trivial).bind fun payer => ?_)
  cases payer with
  | none => simp
  | some payer =>
      refine (callsOnly_call trivial).bind fun payee => ?_
      cases payee with
      | none => simp
      | some payee => exact CallsOnly.refuse (CallsOnly.refuse (CallsOnly.refuse
          (CallsOnly.refuse callsOnly_pure)))

theorem createTransfer_leavesUsers (source destination amount : Int) :
    (createTransfer source destination amount).CallsOnly (·.LeavesUsers) := by
  unfold createTransfer
  refine CallsOnly.refuse ((callsOnly_lift_call trivial).bind fun reply => ?_)
  cases reply with
  | error error => exact callsOnly_reject
  | ok movement => exact callsOnly_report.bind fun _ => callsOnly_pure

theorem ownsAccount_leavesUsers (caller : String) (accountId : Int) :
    (ownsAccount caller accountId).CallsOnly (·.LeavesUsers) :=
  (callsOnly_call trivial).bind fun _ => callsOnly_pure

theorem transferById_leavesUsers (caller : String) (id : Int) :
    (transferById caller id).CallsOnly (·.LeavesUsers) := by
  unfold transferById refuseAccess
  refine (callsOnly_call trivial).bind fun transfer? => ?_
  cases transfer? with
  | none => simp
  | some transfer =>
      refine (ownsAccount_leavesUsers _ _).bind fun ownsSource => ?_
      cases ownsSource with
      | true => simp
      | false =>
          refine (ownsAccount_leavesUsers _ _).bind fun ownsDestination => ?_
          cases ownsDestination <;> simp

theorem transfersOf_leavesUsers (caller : String) (accountId : Int) (page : Page) :
    (transfersOf caller accountId page).CallsOnly (·.LeavesUsers) := by
  unfold transfersOf refuseAccess
  refine (callsOnly_call trivial).bind fun account? => ?_
  cases account? with
  | none => simp
  | some account => exact CallsOnly.refuse (callsOnly_call trivial)

theorem mint_leavesUsers (authority : Authority) (kind : TokenKind) (username : String) :
    (authority.mint kind username).CallsOnly (·.LeavesUsers) :=
  callsOnly_now.bind fun _ => callsOnly_freshId.bind fun _ => callsOnly_ofExcept

theorem authenticate_leavesUsers (username password : String) :
    (bank.authenticate username password).CallsOnly (·.LeavesUsers) := by
  unfold authenticate
  refine (callsOnly_call trivial).bind fun user? => ?_
  cases user? with
  | none => simp
  | some user => exact callsOnly_ofExcept.bind fun _ => callsOnly_pure

theorem login_leavesUsers (username password : String) (client : Client) :
    (bank.login username password client).CallsOnly (·.LeavesUsers) := by
  unfold login
  refine (authenticate_leavesUsers username password).bind fun user? => ?_
  cases user? with
  | none => simp
  | some user =>
      refine (mint_leavesUsers _ _ _).bind fun access => ?_
      refine (mint_leavesUsers _ _ _).bind fun refresh => ?_
      exact (callsOnly_call trivial).bind fun _ => callsOnly_report.bind fun _ => callsOnly_pure

theorem renew_leavesUsers (refreshToken : String) :
    (bank.renew refreshToken).CallsOnly (·.LeavesUsers) := by
  unfold renew
  refine callsOnly_now.bind fun now => callsOnly_ofExcept.bind fun claims => ?_
  refine (callsOnly_call trivial).bind fun session? => ?_
  cases session? with
  | none => simp
  | some session =>
      refine callsOnly_now.bind fun present => ?_
      cases checkSession present session claims refreshToken with
      | error error => exact fun _ => trivial
      | ok =>
          exact (mint_leavesUsers _ _ _).bind fun access => callsOnly_report.bind fun _ =>
            callsOnly_pure

theorem user_leavesUsers (username : String) : (user username).CallsOnly (·.LeavesUsers) := by
  unfold user
  refine (callsOnly_call trivial).bind fun user? => ?_
  cases user? <;> simp

/-- The errand registers a user or changes a profile. -/
def Errand.WritesUsers : Errand → Prop
  | .order (.register ..) | .order (.updateUser ..) => True
  | _ => False

theorem serve_leavesUsers (bank : Bank) {errand : Errand} (leaves : ¬errand.WritesUsers) :
    (bank.serve errand).CallsOnly (·.LeavesUsers) := by
  cases errand with
  | order asked =>
      cases asked with
      | register | updateUser => exact absurd trivial leaves
      | user username => exact user_leavesUsers username
      | openAccount caller currency => exact openAccount_leavesUsers caller currency
      | account caller id => exact account_leavesUsers caller id
      | accounts caller | deletedAccounts caller => exact callsOnly_call trivial
      | deleteAccount caller id =>
          exact ownersCall_leavesUsers caller "delete" id (.deleteAccount id) trivial _
      | restoreAccount caller id =>
          exact ownersCall_leavesUsers caller "restore" id (.restoreAccount id) trivial _
      | transfer caller source destination amount =>
          exact (validateTransfer_leavesUsers caller source destination).bind fun accounts =>
            createTransfer_leavesUsers accounts.1.id accounts.2.id amount
      | transferById caller id => exact transferById_leavesUsers caller id
      | transfersOf caller accountId page => exact transfersOf_leavesUsers caller accountId page
      | login username password client => exact login_leavesUsers username password client
      | renew refreshToken => exact renew_leavesUsers refreshToken
  | validateTransfer caller source destination =>
      exact validateTransfer_leavesUsers caller source destination
  | createTransfer source destination amount =>
      exact createTransfer_leavesUsers source destination amount
  | anyAccount id => exact anyAccount_leavesUsers id

/-- The users after an errand that does not write any. -/
theorem users_tryOut (bank : Bank) {errand : Errand} (leaves : ¬errand.WritesUsers)
    (course : Course) (tables : Tables) :
    ((bank.serve errand).tryOut course tables).2.tables.users = tables.users := by
  have same : (Trial.start tables).tables.users = tables.users := rfl
  exact (bank.serve_leavesUsers leaves).tryOut
    (fun now call found allowed => (Tables.users_perform allowed now found).trans) course same

end Bank

end Countinghouse
