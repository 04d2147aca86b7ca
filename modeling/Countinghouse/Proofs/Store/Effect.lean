import Countinghouse.Proofs.Store.History

/-!
# What one call does to the tables

`Tables.Effect` lists, for an answered call, every way in which the tables can change,
together with what had to hold before. `Tables.perform_effect` says that the store does
nothing else, so a law about the tables is proved by cases on an effect and never by
opening the store's functions again.

A transfer is the one call that writes to several tables. `Tables.Transferable` is what
it checks, and `Tables.transferFunds_cases` says that it writes everything at once or
nothing: the failure that `Tables.writeBalance` provides for never arises.
-/

namespace Countinghouse

/-- The calls that never change the tables. -/
def StoreCall.isReading : StoreCall → Bool
  | .getUser _ | .getAccount _ | .listAccounts _ | .listDeletedAccounts _ | .getTransfer _
  | .getEntry _ | .listTransfers .. | .getSession _ => true
  | _ => false

/-- The row of a user who registers. -/
def NewUser.row (now : Instant) (new : NewUser) : User :=
  ⟨new.username, new.hashedPassword, new.fullName, new.email, now, now⟩

/-- The row of an account that is opened. -/
def NewAccount.row (now : Instant) (id : Int) (new : NewAccount) : Account :=
  ⟨id, new.owner, new.balance, new.currency, false, now⟩

/-- The row of a session that is opened. -/
def NewSession.row (now : Instant) (new : NewSession) : Session :=
  ⟨new.id, new.username, new.refreshToken, new.client, false, new.expiresAt, now⟩

/-- When all rows keep their keys, the same row is found in its new form. -/
theorem Tables.find?_map_of_key {Row Key : Type} [BEq Key] {key : Row → Key} {change : Row → Row}
    (same : ∀ row, key (change row) = key row) (rows : List Row) (sought : Key) :
    (rows.map change).find? (key · == sought) = (rows.find? (key · == sought)).map change := by
  have samePredicate : ((key · == sought) ∘ change) = fun row => key row == sought := by
    funext row
    simp only [Function.comp_apply, same row]
  rw [List.find?_map, samePredicate]

/-! ## Rows of one account -/

namespace Account

/-- The same account at two times: what is fixed when it is opened is the same. -/
structure Same (row other : Account) : Prop where
  id : other.id = row.id
  owner : other.owner = row.owner
  currency : other.currency = row.currency
  createdAt : other.createdAt = row.createdAt

theorem Same.refl (row : Account) : row.Same row := ⟨rfl, rfl, rfl, rfl⟩

theorem Same.trans {first second third : Account} (earlier : first.Same second)
    (later : second.Same third) : first.Same third where
  id := later.id.trans earlier.id
  owner := later.owner.trans earlier.owner
  currency := later.currency.trans earlier.currency
  createdAt := later.createdAt.trans earlier.createdAt

end Account

namespace Tables

/-! ## Lookups -/

theorem user?_some {tables : Tables} {username : String} {user : User}
    (stored : tables.user? username = some user) :
    user ∈ tables.users ∧ user.username = username :=
  ⟨List.mem_of_find?_eq_some stored, by simpa using List.find?_some stored⟩

theorem account?_some {tables : Tables} {id : Int} {account : Account}
    (stored : tables.account? id = some account) : account ∈ tables.accounts ∧ account.id = id :=
  ⟨List.mem_of_find?_eq_some stored, by simpa using List.find?_some stored⟩

theorem activeAccount_eq_ok_iff {tables : Tables} {id : Int} {account : Account} :
    tables.activeAccount id = .ok account ↔
      tables.account? id = some account ∧ account.isDeleted = false := by
  unfold activeAccount
  constructor
  · intro active
    split at active
    · next stored =>
        split at active
        · cases active
        · next notDeleted =>
            cases active
            exact ⟨stored, by simpa using notDeleted⟩
    · cases active
  · rintro ⟨stored, notDeleted⟩
    simp [stored, notDeleted]

/-- No account is stored under the number, or the one that is stored is deleted. -/
def Unavailable (tables : Tables) (id : Int) : Prop :=
  ∀ account, tables.account? id = some account → account.isDeleted = true

theorem activeAccount_eq_error_iff {tables : Tables} {id : Int} {error : StoreError} :
    tables.activeAccount id = .error error ↔
      tables.Unavailable id ∧ error = .accountUnavailable id := by
  unfold activeAccount Unavailable
  cases tables.account? id with
  | none =>
      constructor
      · intro failed
        exact ⟨nofun, (Except.error.inj failed).symm⟩
      · rintro ⟨-, rfl⟩
        rfl
  | some account =>
      dsimp only
      by_cases isDeleted : account.isDeleted = true
      · rw [if_pos isDeleted]
        constructor
        · intro failed
          refine ⟨?_, (Except.error.inj failed).symm⟩
          rintro _ ⟨⟩
          exact isDeleted
        · rintro ⟨-, rfl⟩
          rfl
      · rw [if_neg isDeleted]
        constructor
        · intro failed
          cases failed
        · rintro ⟨unavailable, -⟩
          exact absurd (unavailable account rfl) isDeleted

theorem Unavailable.not_active {tables : Tables} {id : Int} {account : Account}
    (unavailable : tables.Unavailable id) (active : tables.activeAccount id = .ok account) :
    False := by
  rw [activeAccount_eq_error_iff.mpr ⟨unavailable, rfl⟩] at active
  cases active

/-! ## Marking an account -/

/-- A row of the accounts after an account is marked as deleted or not. -/
def mark (id : Int) (isDeleted : Bool) (row : Account) : Account :=
  if row.id == id then { row with isDeleted } else row

theorem accounts_markDeleted (id : Int) (isDeleted : Bool) (tables : Tables) :
    (tables.markDeleted id isDeleted).accounts = tables.accounts.map (mark id isDeleted) := rfl

theorem mark_same (id : Int) (isDeleted : Bool) (row : Account) :
    row.Same (mark id isDeleted row) := by
  unfold mark
  split
  · exact ⟨rfl, rfl, rfl, rfl⟩
  · exact .refl row

@[simp] theorem mark_balance (id : Int) (isDeleted : Bool) (row : Account) :
    (mark id isDeleted row).balance = row.balance := by
  unfold mark
  split <;> rfl

/-! ## Carrying out a transfer -/

/-- What a transfer between two accounts needs to be carried out. -/
structure Transferable (tables : Tables) (source destination amount : Int)
    (payer payee : Account) : Prop where
  distinct : source ≠ destination
  positive : 0 < amount
  payerStored : tables.account? source = some payer
  payerActive : payer.isDeleted = false
  payeeStored : tables.account? destination = some payee
  payeeActive : payee.isDeleted = false
  debitFits : Fits (payer.balance - amount)
  creditFits : Fits (payee.balance + amount)

/-- A row of the accounts after a transfer that leaves its two ends with these balances. -/
def settle (source destination fromBalance toBalance : Int) (row : Account) : Account :=
  if row.id = source then { row with balance := fromBalance }
  else if row.id = destination then { row with balance := toBalance }
  else row

theorem settle_same (source destination fromBalance toBalance : Int) (row : Account) :
    row.Same (settle source destination fromBalance toBalance row) := by
  unfold settle
  split
  · exact ⟨rfl, rfl, rfl, rfl⟩
  · split
    · exact ⟨rfl, rfl, rfl, rfl⟩
    · exact .refl row

/-- The tables after a transfer. -/
def moved (now : Instant) (source destination amount : Int) (payer payee : Account)
    (tables : Tables) : Tables :=
  { tables with
    accounts := tables.accounts.map
      (settle source destination (payer.balance - amount) (payee.balance + amount))
    transfers := tables.transfers ++
      [⟨tables.lastTransferId + 1, source, destination, amount, now⟩]
    entries := tables.entries ++ [⟨tables.lastEntryId + 1, source, -amount, now⟩,
      ⟨tables.lastEntryId + 2, destination, amount, now⟩]
    lastTransferId := tables.lastTransferId + 1
    lastEntryId := tables.lastEntryId + 2 }

theorem accounts_moved (now : Instant) (source destination amount : Int)
    (payer payee : Account) (tables : Tables) :
    (tables.moved now source destination amount payer payee).accounts = tables.accounts.map
      (settle source destination (payer.balance - amount) (payee.balance + amount)) := rfl

/-- What a transfer answers. -/
def movement (now : Instant) (source destination amount : Int) (payer payee : Account)
    (tables : Tables) : Movement where
  transfer := ⟨tables.lastTransferId + 1, source, destination, amount, now⟩
  fromAccount := { payer with balance := payer.balance - amount }
  toAccount := { payee with balance := payee.balance + amount }
  fromEntry := ⟨tables.lastEntryId + 1, source, -amount, now⟩
  toEntry := ⟨tables.lastEntryId + 2, destination, amount, now⟩

/-- Writing the balance of one account leaves the other accounts to be found as before. -/
theorem find?_map_balance_of_ne (accounts : List Account) {id other : Int} (balance : Int)
    (different : other ≠ id) :
    (accounts.map fun row => if row.id == id then { row with balance } else row).find?
        (·.id == other) = accounts.find? (·.id == other) := by
  induction accounts with
  | nil => rfl
  | cons row rest inductionHypothesis =>
      rw [List.map_cons, List.find?_cons, List.find?_cons, inductionHypothesis]
      by_cases written : row.id = id
      · have passed : (id == other) = false := by simpa using Ne.symm different
        simp [written, passed]
      · simp [written]

/-- Writing two balances one after the other settles both ends of a transfer. -/
theorem map_balance_map_balance (accounts : List Account)
    {source destination fromBalance toBalance : Int} (distinct : source ≠ destination) :
    ((accounts.map fun row =>
        if row.id == source then { row with balance := fromBalance } else row).map fun row =>
        if row.id == destination then { row with balance := toBalance } else row) =
      accounts.map (settle source destination fromBalance toBalance) := by
  rw [List.map_map]
  refine List.map_congr_left fun row _ => ?_
  by_cases isSource : row.id = source
  · simp [settle, isSource, distinct]
  · simp [settle, isSource]

/-- Once both ends are known to be stored, booking a transfer does not fail. -/
theorem book_eq (now : Instant) {tables : Tables} {source destination amount : Int}
    {payer payee : Account} (transferable : tables.Transferable source destination amount payer payee) :
    tables.book now source destination amount (payer.balance - amount) (payee.balance + amount) =
      (.ok (tables.movement now source destination amount payer payee),
        tables.moved now source destination amount payer payee) := by
  have payerFound : tables.accounts.find? (·.id == source) = some payer :=
    transferable.payerStored
  have payeeFound : tables.accounts.find? (·.id == destination) = some payee :=
    transferable.payeeStored
  have payeeKept := find?_map_balance_of_ne tables.accounts (payer.balance - amount)
    (Ne.symm transferable.distinct)
  have second : tables.lastEntryId + 1 + 1 = tables.lastEntryId + 2 := by omega
  simp only [book, addEntry, writeBalance, account?, payerFound, payeeKept, payeeFound,
    map_balance_map_balance tables.accounts transferable.distinct, second, movement, moved,
    List.append_assoc, List.singleton_append]

theorem balancesAfter_cases (tables : Tables) (source destination amount : Int) :
    (∃ error, tables.balancesAfter source destination amount = .error error) ∨
      ∃ payer payee, tables.activeAccount source = .ok payer ∧
        tables.activeAccount destination = .ok payee ∧
        Fits (payer.balance - amount) ∧ Fits (payee.balance + amount) ∧
        tables.balancesAfter source destination amount =
          .ok (payer.balance - amount, payee.balance + amount) := by
  unfold balancesAfter
  cases payerActive : tables.activeAccount source with
  | error error => exact .inl ⟨error, rfl⟩
  | ok payer =>
      cases debit : fit? (payer.balance - amount) with
      | none => exact .inl ⟨.internal "balance overflow", by simp only [debit]⟩
      | some fromBalance =>
          obtain ⟨debitFits, rfl⟩ := fit?_eq_some_iff.mp debit
          cases payeeActive : tables.activeAccount destination with
          | error error => exact .inl ⟨error, by simp only [debit]⟩
          | ok payee =>
              cases credit : fit? (payee.balance + amount) with
              | none => exact .inl ⟨.internal "balance overflow", by simp only [debit, credit]⟩
              | some toBalance =>
                  obtain ⟨creditFits, rfl⟩ := fit?_eq_some_iff.mp credit
                  exact .inr ⟨payer, payee, rfl, rfl, debitFits, creditFits,
                    by simp only [debit, credit]⟩

/-- A transfer that has everything it needs is carried out. -/
theorem transferFunds_eq (now : Instant) {tables : Tables} {source destination amount : Int}
    {payer payee : Account}
    (transferable : tables.Transferable source destination amount payer payee) :
    tables.transferFunds now source destination amount =
      (.ok (tables.movement now source destination amount payer payee),
        tables.moved now source destination amount payer payee) := by
  have wellFormed : ¬(source = destination ∨ amount ≤ 0) :=
    not_or.mpr ⟨transferable.distinct, Int.not_le.mpr transferable.positive⟩
  have payerActive := activeAccount_eq_ok_iff.mpr
    ⟨transferable.payerStored, transferable.payerActive⟩
  have payeeActive := activeAccount_eq_ok_iff.mpr
    ⟨transferable.payeeStored, transferable.payeeActive⟩
  have debit := fit?_eq_some_iff.mpr ⟨transferable.debitFits, rfl⟩
  have credit := fit?_eq_some_iff.mpr ⟨transferable.creditFits, rfl⟩
  have balances : tables.balancesAfter source destination amount =
      .ok (payer.balance - amount, payee.balance + amount) := by
    simp only [balancesAfter, payerActive, payeeActive, debit, credit]
  rw [transferFunds, if_neg wellFormed, balances]
  exact book_eq now transferable

/-- A transfer fails and changes nothing, or it had everything it needs and is carried out. -/
theorem transferFunds_cases (now : Instant) (tables : Tables) (source destination amount : Int) :
    (∃ error, tables.transferFunds now source destination amount = (.error error, tables)) ∨
      ∃ payer payee, tables.Transferable source destination amount payer payee ∧
        tables.transferFunds now source destination amount =
          (.ok (tables.movement now source destination amount payer payee),
            tables.moved now source destination amount payer payee) := by
  unfold transferFunds
  by_cases malformed : source = destination ∨ amount ≤ 0
  · exact .inl ⟨_, if_pos malformed⟩
  rw [if_neg malformed]
  obtain ⟨distinct, notPositive⟩ := not_or.mp malformed
  have positive : 0 < amount := by omega
  obtain ⟨error, failed⟩ | ⟨payer, payee, payerActive, payeeActive, debitFits, creditFits,
    balances⟩ := tables.balancesAfter_cases source destination amount
  · exact .inl ⟨error, by rw [failed]⟩
  · obtain ⟨payerStored, payerActive⟩ := activeAccount_eq_ok_iff.mp payerActive
    obtain ⟨payeeStored, payeeActive⟩ := activeAccount_eq_ok_iff.mp payeeActive
    have transferable : tables.Transferable source destination amount payer payee :=
      ⟨distinct, positive, payerStored, payerActive, payeeStored, payeeActive, debitFits,
        creditFits⟩
    exact .inr ⟨payer, payee, transferable, by rw [balances]; exact book_eq now transferable⟩

/-! ## All effects -/

/-- What an answered call does to the tables, with what had to hold before. -/
inductive Effect (now : Instant) (before : Tables) :
    (call : StoreCall) → Except StoreError call.Reply → Tables → Prop where
  /-- The call only reads, or it is refused, or it finds nothing to change. -/
  | nothing {call : StoreCall} {reply : Except StoreError call.Reply}
      (noOpening : call.opening? reply = none) (noMovement : call.movement? reply = none) :
      Effect now before call reply before
  | registered {new : NewUser}
      (nameIsNew : ∀ user ∈ before.users, user.username ≠ new.username)
      (emailIsNew : ∀ user ∈ before.users, user.email ≠ new.email) :
      Effect now before (.createUser new) (.ok (new.row now))
        { before with users := before.users ++ [new.row now] }
  | updated {change : UserChange} {user : User}
      (found : before.user? change.username = some user)
      (emailIsFree : before.emailTaken change = false) :
      Effect now before (.updateUser change) (.ok (some (changed now change user)))
        { before with users := before.users.map fun row =>
            if row.username == change.username then changed now change row else row }
  | opened {new : NewAccount}
      (ownerIsKnown : ∃ user ∈ before.users, user.username = new.owner)
      (pairIsNew : ∀ account ∈ before.accounts,
        ¬(account.owner = new.owner ∧ account.currency = new.currency)) :
      Effect now before (.createAccount new) (.ok (new.row now (before.lastAccountId + 1)))
        { before with
          accounts := before.accounts ++ [new.row now (before.lastAccountId + 1)]
          lastAccountId := before.lastAccountId + 1 }
  | deleted (id : Int) :
      Effect now before (.deleteAccount id) (.ok ()) (before.markDeleted id true)
  | restored (id : Int) :
      Effect now before (.restoreAccount id) (.ok ()) (before.markDeleted id false)
  | transferred {source destination amount : Int} {payer payee : Account}
      (transferable : before.Transferable source destination amount payer payee) :
      Effect now before (.transferFunds source destination amount)
        (.ok (before.movement now source destination amount payer payee))
        (before.moved now source destination amount payer payee)
  | admitted {new : NewSession}
      (holderIsKnown : ∃ user ∈ before.users, user.username = new.username)
      (idIsNew : ∀ session ∈ before.sessions, session.id ≠ new.id) :
      Effect now before (.createSession new) (.ok (new.row now))
        { before with sessions := before.sessions ++ [new.row now] }
  | blocked {id : Uuid} (found : ∃ session ∈ before.sessions, session.id = id) :
      Effect now before (.blockSession id) (.ok true)
        { before with sessions := before.sessions.map fun session =>
            if session.id == id then { session with isBlocked := true } else session }

theorem createUser_effect (now : Instant) (new : NewUser) (before : Tables) :
    Effect now before (.createUser new) (before.createUser now new).1
      (before.createUser now new).2 := by
  unfold createUser
  split
  · exact .nothing rfl rfl
  · next nameIsNew =>
      split
      · exact .nothing rfl rfl
      · next emailIsNew => exact .registered (by simpa using nameIsNew) (by simpa using emailIsNew)

theorem updateUser_effect (now : Instant) (change : UserChange) (before : Tables) :
    Effect now before (.updateUser change) (before.updateUser now change).1
      (before.updateUser now change).2 := by
  unfold updateUser
  split
  · exact .nothing rfl rfl
  · next emailIsFree =>
      split
      · exact .nothing rfl rfl
      · next user found => exact .updated found (by simpa using emailIsFree)

theorem createAccount_effect (now : Instant) (new : NewAccount) (before : Tables) :
    Effect now before (.createAccount new) (before.createAccount now new).1
      (before.createAccount now new).2 := by
  unfold createAccount
  split
  · exact .nothing rfl rfl
  · next ownerIsKnown =>
      split
      · exact .nothing rfl rfl
      · next pairIsNew => exact .opened (by simpa using ownerIsKnown) (by simpa using pairIsNew)

theorem transferFunds_effect (now : Instant) (source destination amount : Int) (before : Tables) :
    Effect now before (.transferFunds source destination amount)
      (before.transferFunds now source destination amount).1
      (before.transferFunds now source destination amount).2 := by
  obtain ⟨error, failed⟩ | ⟨payer, payee, transferable, done⟩ :=
    before.transferFunds_cases now source destination amount
  · rw [failed]
    exact .nothing rfl rfl
  · rw [done]
    exact .transferred transferable

theorem createSession_effect (now : Instant) (new : NewSession) (before : Tables) :
    Effect now before (.createSession new) (before.createSession now new).1
      (before.createSession now new).2 := by
  unfold createSession
  split
  · exact .nothing rfl rfl
  · next holderIsKnown =>
      split
      · exact .nothing rfl rfl
      · next idIsNew => exact .admitted (by simpa using holderIsKnown) (by simpa using idIsNew)

theorem blockSession_effect (now : Instant) (id : Uuid) (before : Tables) :
    Effect now before (.blockSession id) (.ok (before.blockSession id).1)
      (before.blockSession id).2 := by
  unfold blockSession
  split
  · next found => exact .blocked (by simpa using found)
  · exact .nothing rfl rfl

/-- The store does nothing to the tables but what the effects say. -/
theorem perform_effect (now : Instant) (call : StoreCall) (before : Tables) :
    Effect now before call (perform now call before).1 (perform now call before).2 := by
  cases call with
  | createUser new => exact createUser_effect now new before
  | updateUser change => exact updateUser_effect now change before
  | createAccount new => exact createAccount_effect now new before
  | deleteAccount id => exact .deleted id
  | restoreAccount id => exact .restored id
  | transferFunds source destination amount =>
      exact transferFunds_effect now source destination amount before
  | createSession new => exact createSession_effect now new before
  | blockSession id => exact blockSession_effect now id before
  | getUser _ | getAccount _ | listAccounts _ | listDeletedAccounts _ | getTransfer _
  | getEntry _ | listTransfers _ _ _ | getSession _ => exact .nothing rfl rfl

/-- The effect of a call on what calls before it left. -/
theorem next_effect (tables : Tables) (timed : TimedCall) :
    Effect timed.now tables timed.call (Access.mk timed tables).reply (tables.next timed) :=
  perform_effect timed.now timed.call tables

/-! ## Calls that fail, and calls that only read -/

theorem perform_of_isReading {call : StoreCall} (reading : call.isReading = true) (now : Instant)
    (tables : Tables) : (perform now call tables).2 = tables := by
  cases call <;> first | rfl | cases reading

/-- A call that fails changes nothing. -/
theorem Effect.eq_of_error {now : Instant} {before after : Tables} {call : StoreCall}
    {reply : Except StoreError call.Reply} (effect : Effect now before call reply after)
    {error : StoreError} (failed : reply = .error error) : after = before := by
  cases effect with
  | nothing => rfl
  | registered | updated | opened | deleted | restored | transferred | admitted | blocked =>
      cases failed

/-- A change to a user that is not there changes nothing. -/
theorem Effect.eq_of_missing {now : Instant} {before after : Tables} {change : UserChange}
    {reply : Except StoreError (Option User)}
    (effect : Effect now before (.updateUser change) reply after) (missing : reply = .ok none) :
    after = before := by
  cases effect with
  | nothing => rfl
  | updated => cases missing

end Tables

end Countinghouse
