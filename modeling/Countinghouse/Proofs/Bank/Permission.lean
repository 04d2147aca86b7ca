import Countinghouse.Proofs.Bank.Order
import Countinghouse.Proofs.Store.Keeping

/-!
# What each order may ask of the store

The store carries out whatever it is asked for. `Bank.Permits` says which calls an order may
make, in terms of the tables that the call finds: a user is written as it was ordered, a session
is opened for whom it was ordered, an account is deleted, restored or debited for an order of its
owner only, and a transfer is between accounts in one currency.

That the orders keep to this needs more than reading them one at a time, because an order
checks an account first and makes its call later. It relies on `Tables.Keeps`: whatever
others do in between, the account it read is still there, with the same owner and currency.
`Bank.contract` puts the two together.
-/

namespace Countinghouse.Bank

open Attempt

/-- What an order may ask of the store, given the tables that the call finds. -/
def Permits (bank : Bank) (order : Order) (tables : Tables) : StoreCall → Prop
  | .createUser new => ∃ password, order = .register new.username new.fullName new.email password
  | .updateUser change => ∃ oldPassword newPassword,
    order = .updateUser change.username ⟨change.fullName, change.email, oldPassword, newPassword⟩
  | .createSession new => ∃ password, order = .login new.username password new.client
  | .createAccount new =>
    order = .openAccount new.owner new.currency ∧ new.balance = bank.startingBalance
  | .deleteAccount id =>
    ∃ account, tables.account? id = some account ∧ order = .deleteAccount account.owner id
  | .restoreAccount id =>
    ∃ account, tables.account? id = some account ∧ order = .restoreAccount account.owner id
  | .transferFunds source destination amount =>
    ∃ payer payee, tables.account? source = some payer ∧
      tables.account? destination = some payee ∧ payer.currency = payee.currency ∧
      order = .transfer payer.owner source destination amount
  | _ => True

variable {bank : Bank} {order : Order} {tables : Tables}

/-! ## Orders that look at no account -/

/-- Issuing a token does not call the store. -/
theorem mint_guarded (authority : Authority) (kind : TokenKind) (username : String) :
    (authority.mint kind username).Guarded Tables.Keeps (bank.Permits order) (fun _ _ => True)
      tables := by
  simp [Authority.mint]

theorem user_guarded (username : String) :
    (user username).Guarded Tables.Keeps (bank.Permits order) (fun _ _ => True) tables := by
  unfold user
  simp only [guarded_bind, guarded_call]
  refine fun later _ => ⟨trivial, fun now reply _ => ?_⟩
  cases reply <;> simp

theorem hashPassword_guarded (password : String) :
    (bank.hashPassword password).Guarded Tables.Keeps (bank.Permits order) (fun _ _ => True)
      tables := by
  unfold hashPassword
  simp only [guarded_bind, guarded_freshSalt]
  intro salt
  cases bank.passwords.fault? password <;> simp

theorem register_guarded (username fullName email password : String) :
    (bank.register username fullName email password).Guarded Tables.Keeps
      (bank.Permits (.register username fullName email password)) (fun _ _ => True) tables := by
  unfold register
  simp only [guarded_bind, guarded_lift_call]
  refine (hashPassword_guarded password).mono fun tables hashedPassword _ later _ =>
    ⟨⟨password, rfl⟩, fun now => ?_⟩
  split <;> simp

theorem newHash_guarded (caller : String) (current : User) (update : ProfileUpdate) :
    (bank.newHash caller current update).Guarded Tables.Keeps (bank.Permits order)
      (fun _ _ => True) tables := by
  unfold newHash refuseUpdate
  cases update.newPassword with
  | none => simp
  | some newPassword =>
      simp only [guarded_bind, guarded_ofExcept]
      intro isRight _
      cases isRight <;> simp [hashPassword_guarded]

theorem updateUser_guarded (caller : String) (update : ProfileUpdate) :
    (bank.updateUser caller update).Guarded Tables.Keeps (bank.Permits (.updateUser caller update))
      (fun _ _ => True) tables := by
  unfold updateUser refuseUpdate
  rw [guarded_bind]
  refine (user_guarded caller).mono fun tables current _ => ?_
  simp only [guarded_refuse, guarded_bind]
  intro _
  refine (newHash_guarded caller current update).mono fun tables hashedPassword _ => ?_
  rw [guarded_lift_call]
  refine fun later _ => ⟨⟨update.oldPassword, update.newPassword, rfl⟩, fun now => ?_⟩
  split <;> simp

/-- Who is authenticated goes by the name that was given. -/
theorem authenticate_guarded (username password : String) :
    (bank.authenticate username password).Guarded Tables.Keeps (bank.Permits order)
      (fun _ user? => ∀ user ∈ user?, user.username = username) tables := by
  unfold authenticate
  simp only [guarded_bind, guarded_call]
  refine fun later _ => ⟨trivial, fun now reply answered => ?_⟩
  cases reply with
  | none => simp
  | some user =>
      simp only [guarded_bind, guarded_ofExcept, guarded_pure]
      intro isRight _ found isUser
      have isFound : some user = some found := by
        cases isRight with
        | true => exact isUser
        | false => cases isUser
      obtain rfl := Option.some.inj isFound
      exact (Tables.user?_some (Except.ok.inj answered)).2

theorem login_guarded (username password : String) (client : Client) :
    (bank.login username password client).Guarded Tables.Keeps
      (bank.Permits (.login username password client)) (fun _ _ => True) tables := by
  unfold login
  rw [guarded_bind]
  refine (authenticate_guarded username password).mono fun tables user? isNamed => ?_
  cases user? with
  | none => simp
  | some user =>
      obtain rfl := isNamed user rfl
      simp only [guarded_bind]
      refine (mint_guarded _ _ _).mono fun tables access _ => ?_
      refine (mint_guarded _ _ _).mono fun tables refresh _ => ?_
      rw [guarded_call]
      exact fun later _ => ⟨⟨password, rfl⟩, fun _ _ _ => by simp⟩

theorem renew_guarded (refreshToken : String) :
    (bank.renew refreshToken).Guarded Tables.Keeps (bank.Permits order) (fun _ _ => True)
      tables := by
  unfold renew
  simp only [guarded_bind, guarded_now, guarded_ofExcept, guarded_call]
  refine fun now claims _ later _ => ⟨trivial, fun _ session? _ => ?_⟩
  cases session? with
  | none => simp
  | some session =>
      simp only [guarded_bind, guarded_now]
      intro present
      cases checkSession present session claims refreshToken with
      | error error => simp
      | ok =>
          simp only [guarded_bind]
          exact (mint_guarded _ _ _).mono fun tables access _ => by simp

/-- An account is opened for the caller, with the starting balance. -/
theorem openAccount_guarded (caller : String) (currency : Currency) :
    (bank.openAccount caller currency).Guarded Tables.Keeps
      (bank.Permits (.openAccount caller currency)) (fun _ _ => True) tables := by
  unfold openAccount
  simp only [guarded_bind, guarded_lift_call]
  refine fun later _ => ⟨⟨rfl, rfl⟩, fun now => ?_⟩
  split <;> simp

/-! ## Orders for an account of the caller -/

/-- Whatever comes after the check may count on the caller owning the account. -/
theorem guarded_requireOwner {permits : Tables → StoreCall → Prop} {caller action : String}
    {account : Account} {post : Tables → Unit → Prop} :
    (requireOwner caller account action).Guarded Tables.Keeps permits post tables ↔
      (account.owner = caller → post tables ()) := by
  unfold requireOwner isOwner refuseAccess
  by_cases owns : caller = account.owner
  · simp [owns]
  · simp [owns, Ne.symm owns]

/-- An account that was read is known from then on. -/
theorem getAccount_guarded (id : Int) :
    (Attempt.call (.getAccount id)).Guarded Tables.Keeps (bank.Permits order)
      (fun tables reply => ∀ account ∈ reply, account.id = id ∧ tables.Knows account) tables := by
  rw [guarded_call]
  refine fun later _ => ⟨trivial, fun now reply answered account isReply => ?_⟩
  cases answered
  exact Tables.knows_of_account? isReply

theorem anyAccount_guarded (id : Int) :
    (anyAccount id).Guarded Tables.Keeps (bank.Permits order)
      (fun tables account => account.id = id ∧ tables.Knows account) tables := by
  unfold anyAccount
  rw [guarded_bind]
  refine (getAccount_guarded id).mono fun tables reply known => ?_
  cases reply with
  | none => simp
  | some account => simpa using known account rfl

theorem account_guarded (caller : String) (id : Int) :
    (account caller id).Guarded Tables.Keeps (bank.Permits order) (fun _ _ => True) tables := by
  unfold account
  rw [guarded_bind]
  refine (anyAccount_guarded id).mono fun tables account _ => ?_
  simp [guarded_requireOwner]

/-- A call for the owner of an account is made for the owner, however much later. -/
theorem ownersCall_guarded (caller action : String) (id : Int) (call : StoreCall)
    (finish : call.Reply → Attempt Unit)
    (finishes : ∀ tables reply, (finish reply).Guarded Tables.Keeps (bank.Permits order)
      (fun _ _ => True) tables)
    (permitted : ∀ tables account, tables.account? id = some account → account.owner = caller →
      bank.Permits order tables call) :
    Guarded Tables.Keeps (bank.Permits order)
      (anyAccount id >>= fun account => requireOwner caller account action >>= fun _ =>
        Attempt.call call >>= finish) (fun _ _ => True) tables := by
  rw [guarded_bind]
  refine (anyAccount_guarded id).mono ?_
  rintro tables account ⟨rfl, known⟩
  rw [guarded_bind, guarded_requireOwner]
  intro owns
  rw [guarded_bind, guarded_call]
  intro later kept
  obtain ⟨current, stored, same⟩ := kept account known
  exact ⟨permitted later current stored (same.owner.trans owns), fun _ _ _ => finishes _ _⟩

theorem deleteAccount_guarded (caller : String) (id : Int) :
    (deleteAccount caller id).Guarded Tables.Keeps (bank.Permits (.deleteAccount caller id))
      (fun _ _ => True) tables := by
  refine ownersCall_guarded caller "delete" id (.deleteAccount id) _ (fun _ _ => by simp) ?_
  rintro tables account stored rfl
  exact ⟨account, stored, rfl⟩

theorem restoreAccount_guarded (caller : String) (id : Int) :
    (restoreAccount caller id).Guarded Tables.Keeps (bank.Permits (.restoreAccount caller id))
      (fun _ _ => True) tables := by
  refine ownersCall_guarded caller "restore" id (.restoreAccount id) _ (fun _ _ => by simp) ?_
  rintro tables account stored rfl
  exact ⟨account, stored, rfl⟩

/-! ## Transfers -/

theorem ownsAccount_guarded (caller : String) (accountId : Int) :
    (ownsAccount caller accountId).Guarded Tables.Keeps (bank.Permits order) (fun _ _ => True)
      tables := by
  unfold ownsAccount
  rw [guarded_bind]
  exact (getAccount_guarded accountId).mono fun tables reply _ => by simp

theorem transfersOf_guarded (caller : String) (accountId : Int) (page : Page) :
    (transfersOf caller accountId page).Guarded Tables.Keeps (bank.Permits order)
      (fun _ _ => True) tables := by
  unfold transfersOf refuseAccess
  rw [guarded_bind]
  refine (getAccount_guarded accountId).mono fun tables reply _ => ?_
  cases reply with
  | none => simp
  | some account =>
      simp only [guarded_refuse, guarded_call]
      exact fun _ later _ => ⟨trivial, fun _ _ _ => trivial⟩

theorem transferById_guarded (caller : String) (id : Int) :
    (transferById caller id).Guarded Tables.Keeps (bank.Permits order) (fun _ _ => True)
      tables := by
  unfold transferById refuseAccess
  simp only [guarded_bind, guarded_call]
  refine fun later _ => ⟨trivial, fun now reply _ => ?_⟩
  cases reply with
  | none => simp
  | some transfer =>
      simp only [guarded_bind]
      refine (ownsAccount_guarded _ _).mono fun tables ownsSource _ => ?_
      cases ownsSource with
      | true => simp
      | false =>
          simp only [Bool.false_eq_true, if_false, guarded_bind]
          refine (ownsAccount_guarded _ _).mono fun tables ownsDestination _ => ?_
          cases ownsDestination <;> simp

/-- A transfer that passed is between two accounts that are stored, in one currency, and from
an account of the caller. What else was validated may be different by now. -/
theorem validateTransfer_guarded (caller : String) (source destination : Int) :
    (validateTransfer caller source destination).Guarded Tables.Keeps (bank.Permits order)
      (fun tables ends => (ends.1.id = source ∧ tables.Knows ends.1) ∧
        (ends.2.id = destination ∧ tables.Knows ends.2) ∧
        ends.1.owner = caller ∧ ends.1.currency = ends.2.currency) tables := by
  unfold validateTransfer refuseTransfer
  simp only [guarded_refuse, guarded_bind]
  intro _
  refine (getAccount_guarded source).mono fun tables reply payerKnown => ?_
  cases reply with
  | none => simp
  | some payer =>
      obtain ⟨payerId, payerStored⟩ := payerKnown payer rfl
      simp only [guarded_bind, guarded_call]
      refine fun later kept => ⟨trivial, fun now reply answered => ?_⟩
      -- The source was read first, and others may have called since.
      have payerKept := kept payer payerStored
      cases reply with
      | none => simp
      | some payee =>
          have payeeKnown := Tables.knows_of_account? (Except.ok.inj answered)
          simp only [guarded_refuse, guarded_pure]
          intro owns sameCurrency _ _
          have isOwned : caller = payer.owner := by simpa [isOwner] using owns
          exact ⟨⟨payerId, payerKept⟩, payeeKnown, isOwned.symm, by simpa using sameCurrency⟩

/-- The transfer is made between the accounts as they have become, which is enough. -/
theorem createTransfer_guarded {payer payee : Account} (amount : Int)
    (payerKnown : tables.Knows payer) (payeeKnown : tables.Knows payee)
    (sameCurrency : payer.currency = payee.currency) :
    (createTransfer payer.id payee.id amount).Guarded Tables.Keeps
      (bank.Permits (.transfer payer.owner payer.id payee.id amount)) (fun _ _ => True)
      tables := by
  unfold createTransfer
  simp only [guarded_refuse, guarded_bind, guarded_lift_call]
  refine fun _ later kept => ⟨?_, fun now => ?_⟩
  · obtain ⟨payerNow, payerStored, payerSame⟩ := kept payer payerKnown
    obtain ⟨payeeNow, payeeStored, payeeSame⟩ := kept payee payeeKnown
    have stillSame : payerNow.currency = payeeNow.currency := by
      rw [payerSame.currency, payeeSame.currency, sameCurrency]
    exact ⟨payerNow, payeeNow, payerStored, payeeStored, stillSame, by rw [payerSame.owner]⟩
  · split <;> simp

theorem transfer_guarded (caller : String) (source destination amount : Int) :
    (transfer caller source destination amount).Guarded Tables.Keeps
      (bank.Permits (.transfer caller source destination amount)) (fun _ _ => True) tables := by
  unfold transfer
  rw [guarded_bind]
  refine (validateTransfer_guarded caller source destination).mono ?_
  rintro tables ⟨payer, payee⟩ ⟨⟨rfl, payerKnown⟩, ⟨rfl, payeeKnown⟩, rfl, sameCurrency⟩
  exact createTransfer_guarded amount payerKnown payeeKnown sameCurrency

/-! ## All orders -/

/-- Every order asks for what it may ask for, whatever other orders do in between. -/
theorem attempt_guarded (bank : Bank) (order : Order) (tables : Tables) :
    (bank.attempt order).Guarded Tables.Keeps (bank.Permits order) (fun _ _ => True) tables := by
  cases order with
  | register username fullName email password =>
      exact register_guarded username fullName email password
  | updateUser caller update => exact updateUser_guarded caller update
  | user username => exact user_guarded username
  | openAccount caller currency => exact openAccount_guarded caller currency
  | account caller id => exact account_guarded caller id
  | accounts caller | deletedAccounts caller =>
      simp only [attempt, accounts, deletedAccounts, guarded_call]
      exact fun _ _ => ⟨trivial, fun _ _ _ => trivial⟩
  | deleteAccount caller id => exact deleteAccount_guarded caller id
  | restoreAccount caller id => exact restoreAccount_guarded caller id
  | transfer caller source destination amount =>
      exact transfer_guarded caller source destination amount
  | transferById caller id => exact transferById_guarded caller id
  | transfersOf caller accountId page => exact transfersOf_guarded caller accountId page
  | login username password client => exact login_guarded username password client
  | renew refreshToken => exact renew_guarded refreshToken

/-- What the orders of the bank promise each other. -/
def contract (bank : Bank) : bank.service.Contract where
  keeps := Tables.Keeps
  permits := bank.Permits
  keepsRefl _ _ known := known
  keepsTrans earlier later row known := later row (earlier row known)
  kept now _ := Tables.keeps_perform now _ _
  guarded order tables := (attempt_guarded bank order tables).forget

end Countinghouse.Bank
