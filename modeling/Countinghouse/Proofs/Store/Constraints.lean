import Countinghouse.Proofs.Store.Numbering

/-!
# Constraints between the tables

Nothing but the store's own look-ups keeps the tables consistent. `Tables.Constrained` says what
they achieve together with the numbering of the accounts: keys and emails are never given twice,
an owner has one account in a currency, and owners and session holders are users. Users are
never removed or renamed, so a reference to one stays good. The constraints hold after any
calls, and with them every row is found under its own key and a listing leaves nothing out.
-/

namespace Countinghouse

namespace Tables

/-- The names that users are registered under. -/
def usernames (tables : Tables) : List String := tables.users.map (·.username)

/-- What an account is the only one of: its owner and its currency. -/
def holdings (tables : Tables) : List (String × Currency) :=
  tables.accounts.map fun account => (account.owner, account.currency)

/-- The rows of the tables agree with each other. -/
structure Constrained (tables : Tables) : Prop where
  usernames : tables.usernames.Nodup
  emails : (tables.users.map (·.email)).Nodup
  holdings : tables.holdings.Nodup
  /-- Every account belongs to a user. -/
  owners : ∀ account ∈ tables.accounts, account.owner ∈ tables.usernames
  sessionIds : (tables.sessions.map (·.id)).Nodup
  /-- Every session belongs to a user. -/
  holders : ∀ session ∈ tables.sessions, session.username ∈ tables.usernames

theorem constrained_empty : Constrained empty := by
  constructor <;> simp [empty, usernames, holdings]

/-- A row with a key of its own extends a table in which no key is given twice. -/
theorem nodup_map_append {Row Key : Type} {key : Row → Key} {rows : List Row} {row : Row}
    (distinct : (rows.map key).Nodup) (isNew : ∀ other ∈ rows, key other ≠ key row) :
    ((rows ++ [row]).map key).Nodup := by
  rw [List.map_append, List.map_singleton]
  refine List.nodup_append.mpr ⟨distinct, List.nodup_singleton _, ?_⟩
  rintro _ inRows _ isRow rfl
  obtain ⟨other, member, same⟩ := List.mem_map.mp inRows
  exact isNew other member (same.trans (List.mem_singleton.mp isRow))

/-! ## Changes of rows -/

theorem holdings_map {accounts : List Account} {change : Account → Account}
    (same : ∀ row : Account, row.Same (change row)) :
    (accounts.map change).map (fun account => (account.owner, account.currency)) =
      accounts.map fun account => (account.owner, account.currency) := by
  rw [List.map_map]
  refine List.map_congr_left fun row _ => ?_
  simp only [Function.comp_apply, (same row).owner, (same row).currency]

/-- When each row stays a row of its account, the accounts stay as constrained as they are. -/
theorem Constrained.map_accounts {tables after : Tables} {change : Account → Account}
    (constrained : tables.Constrained) (same : ∀ row : Account, row.Same (change row))
    (accounts : after.accounts = tables.accounts.map change) (users : after.users = tables.users)
    (sessions : after.sessions = tables.sessions) : after.Constrained where
  usernames := by rw [Tables.usernames, users]; exact constrained.usernames
  emails := by rw [users]; exact constrained.emails
  holdings := by rw [Tables.holdings, accounts, holdings_map same]; exact constrained.holdings
  owners := by
    intro account member
    rw [accounts] at member
    obtain ⟨row, stored, rfl⟩ := List.mem_map.mp member
    rw [(same row).owner, Tables.usernames, users]
    exact constrained.owners row stored
  sessionIds := by rw [sessions]; exact constrained.sessionIds
  holders := by
    rw [sessions, Tables.usernames, users]
    exact constrained.holders

/-- Users keep their names when a profile is changed. -/
theorem usernames_changed (tables : Tables) (now : Instant) (change : UserChange) :
    usernames { tables with users := tables.users.map fun row =>
      if row.username == change.username then changed now change row else row } =
        tables.usernames := by
  unfold usernames
  rw [List.map_map]
  refine List.map_congr_left fun row _ => ?_
  simp only [Function.comp_apply]
  split <;> rfl

/-- Another email than that of any other user is still one that only this user has. -/
theorem nodup_map_email_changed {tables : Tables} {change : UserChange} (now : Instant)
    (distinct : tables.usernames.Nodup) (emails : (tables.users.map (·.email)).Nodup)
    (emailIsFree : tables.emailTaken change = false) :
    ((tables.users.map fun row =>
        if row.username == change.username then changed now change row else row).map
        (·.email)).Nodup := by
  -- The email that another user than the changed one has is not the one that is asked for.
  have isOther : ∀ row ∈ tables.users, ∀ user : User, row.username ≠ change.username →
      row.email ≠ user.email → row.email ≠ (changed now change user).email := by
    intro row stored user isOther different
    unfold emailTaken at emailIsFree
    cases asked : change.email with
    | none => simpa [changed, asked] using different
    | some email =>
        simp only [asked, List.any_eq_false] at emailIsFree
        have notAsked := emailIsFree row stored
        simp only [isOther, bne_iff_ne, Bool.and_eq_true, beq_iff_eq, ne_eq, not_and,
          not_false_eq_true, not_true_eq_false, imp_false] at notAsked
        simpa [changed, asked] using notAsked
  unfold usernames at distinct
  rw [List.Nodup, List.pairwise_map] at distinct emails
  rw [List.Nodup, List.pairwise_map, List.pairwise_map]
  refine (distinct.and emails).imp_of_mem ?_
  rintro first second firstStored secondStored ⟨differentNames, differentEmails⟩
  by_cases isFirst : first.username = change.username
  · have notSecond : second.username ≠ change.username := fun isSecond =>
      differentNames (isFirst.trans isSecond.symm)
    simpa [isFirst, notSecond] using
      (isOther second secondStored first notSecond (Ne.symm differentEmails)).symm
  · by_cases isSecond : second.username = change.username
    · simpa [isFirst, isSecond] using isOther first firstStored second isFirst differentEmails
    · simpa [isFirst, isSecond] using differentEmails

/-- Every call keeps the constraints. -/
theorem Constrained.step {now : Instant} {before after : Tables} {call : StoreCall}
    {reply : Except StoreError call.Reply} (constrained : before.Constrained)
    (effect : Effect now before call reply after) : after.Constrained := by
  cases effect with
  | nothing => exact constrained
  | @registered new nameIsNew emailIsNew =>
      have extended : ∀ name ∈ before.usernames,
          name ∈ (before.users ++ [new.row now]).map (·.username) := fun name known => by
        rw [List.map_append]
        exact List.mem_append_left _ known
      exact { constrained with
        usernames := nodup_map_append constrained.usernames nameIsNew
        emails := nodup_map_append constrained.emails emailIsNew
        owners := fun account stored => extended _ (constrained.owners account stored)
        holders := fun session stored => extended _ (constrained.holders session stored) }
  | @updated change user found emailIsFree =>
      have sameNames := usernames_changed before now change
      exact { constrained with
        usernames := sameNames.symm ▸ constrained.usernames
        emails := nodup_map_email_changed now constrained.usernames constrained.emails emailIsFree
        owners := fun account stored => sameNames.symm ▸ constrained.owners account stored
        holders := fun session stored => sameNames.symm ▸ constrained.holders session stored }
  | @opened new ownerIsKnown pairIsNew =>
      refine { constrained with
        holdings := nodup_map_append constrained.holdings fun account stored same => ?_
        owners := fun account member => ?_ }
      · exact pairIsNew account stored (Prod.mk.injEq .. ▸ same)
      · rcases List.mem_append.mp member with stored | isNew
        · exact constrained.owners account stored
        · obtain rfl := List.mem_singleton.mp isNew
          exact List.mem_map.mpr ownerIsKnown
  | deleted id => exact constrained.map_accounts (mark_same id true) rfl rfl rfl
  | restored id => exact constrained.map_accounts (mark_same id false) rfl rfl rfl
  | transferred => exact constrained.map_accounts (settle_same _ _ _ _) rfl rfl rfl
  | @admitted new holderIsKnown idIsNew =>
      refine { constrained with
        sessionIds := nodup_map_append constrained.sessionIds idIsNew
        holders := fun session member => ?_ }
      rcases List.mem_append.mp member with stored | isNew
      · exact constrained.holders session stored
      · obtain rfl := List.mem_singleton.mp isNew
        exact List.mem_map.mpr holderIsKnown
  | @blocked id =>
      have sameIds : (before.sessions.map fun session =>
          if session.id == id then { session with isBlocked := true } else session).map (·.id) =
            before.sessions.map (·.id) := by
        rw [List.map_map]
        refine List.map_congr_left fun session _ => ?_
        simp only [Function.comp_apply]
        split <;> rfl
      refine { constrained with
        sessionIds := sameIds ▸ constrained.sessionIds
        holders := fun session member => ?_ }
      obtain ⟨row, stored, rfl⟩ := List.mem_map.mp member
      have isHeld := constrained.holders row stored
      split <;> exact isHeld

/-- The constraints hold after any calls. -/
theorem constrained_after (calls : List TimedCall) : (after calls).Constrained := by
  induction calls using List.reverseRecOn with
  | nil => exact constrained_empty
  | append_singleton calls timed inductionHypothesis =>
      rw [after_concat]
      exact inductionHypothesis.step ((after calls).next_effect timed)

/-! ## What is found -/

namespace Constrained

variable {tables : Tables} (constrained : tables.Constrained)

include constrained

theorem user?_eq_some_iff {username : String} {user : User} :
    tables.user? username = some user ↔ user ∈ tables.users ∧ user.username = username :=
  find?_eq_some_iff_of_nodup constrained.usernames

theorem session?_eq_some_iff {id : Uuid} {session : Session} :
    tables.session? id = some session ↔ session ∈ tables.sessions ∧ session.id = id :=
  find?_eq_some_iff_of_nodup constrained.sessionIds

theorem exists_user {username : String} (known : username ∈ tables.usernames) :
    ∃ user, tables.user? username = some user := by
  obtain ⟨user, stored, named⟩ := List.mem_map.mp known
  exact ⟨user, constrained.user?_eq_some_iff.mpr ⟨stored, named⟩⟩

theorem user_eq_of_email {user other : User} (stored : user ∈ tables.users)
    (otherStored : other ∈ tables.users) (sameEmail : other.email = user.email) : other = user :=
  List.inj_on_of_nodup_map constrained.emails otherStored stored sameEmail

theorem account_eq_of_holding {account other : Account} (stored : account ∈ tables.accounts)
    (otherStored : other ∈ tables.accounts) (sameOwner : other.owner = account.owner)
    (sameCurrency : other.currency = account.currency) : other = account :=
  List.inj_on_of_nodup_map constrained.holdings otherStored stored
    (Prod.ext sameOwner sameCurrency)

end Constrained

/-! ## Listings -/

/-- The numbers from one on ascend. -/
theorem pairwise_numbers (count : Nat) : (numbers count).Pairwise (· < ·) := by
  unfold numbers
  rw [List.pairwise_map]
  exact List.pairwise_lt_range.imp fun less => by omega

/-- Rows that bear the numbers from one on are in the order of their numbers. -/
theorem pairwise_of_map_eq_numbers {Row : Type} {rows : List Row} {key : Row → Int}
    (numbered : rows.map key = numbers rows.length) : rows.Pairwise (key · < key ·) := by
  have ascending := pairwise_numbers rows.length
  rw [← numbered, List.pairwise_map] at ascending
  exact ascending

theorem Numbered.pairwise_accounts {tables : Tables} (numbered : tables.Numbered) :
    tables.accounts.Pairwise (·.id < ·.id) := pairwise_of_map_eq_numbers numbered.accountIds

theorem Numbered.pairwise_transfers {tables : Tables} (numbered : tables.Numbered) :
    tables.transfers.Pairwise (·.id < ·.id) := pairwise_of_map_eq_numbers numbered.transferIds

theorem Numbered.nodup_accounts {tables : Tables} (numbered : tables.Numbered) :
    tables.accounts.Nodup :=
  .of_map (·.id) (numbered.accountIds ▸ nodup_numbers _)

/-- The two listings of an owner, one behind the other. -/
theorem count_listings (accounts : List Account) (owner : String) (account : Account) :
    ((accounts.filter fun row => row.owner == owner && !row.isDeleted) ++
        accounts.filter fun row => row.owner == owner && row.isDeleted).count account =
      if account.owner = owner then accounts.count account else 0 := by
  rw [List.count_append]
  cases isDeleted : account.isDeleted <;> split <;> rename_i owns <;>
    simp [List.count_filter, List.count_eq_zero, isDeleted, owns]

/-- The tables keep their constraints. However the store was used, every user is found under the
own username and no two share an email. The accounts are numbered from one to the counter without
a gap, each is found under its number and belongs to a user, and no two of them, deleted ones
included, share owner and currency. Every session is found under its identifier and belongs to a
user. A call that fails changes nothing. The two listings of an owner's accounts are sorted by
number, and taken together they have each of the owner's accounts once and nothing else. -/
theorem constraints_hold (calls : List TimedCall) :
    (∀ username user, (after calls).user? username = some user ↔
        user ∈ (after calls).users ∧ user.username = username) ∧
      (∀ user ∈ (after calls).users, ∀ other ∈ (after calls).users,
        other.email = user.email → other = user) ∧
      (∀ id account, (after calls).account? id = some account ↔
        account ∈ (after calls).accounts ∧ account.id = id) ∧
      (after calls).accounts.map (·.id) = numbers (after calls).accounts.length ∧
      (after calls).lastAccountId = (after calls).accounts.length ∧
      ((after calls).accounts.length < 2 ^ 63 → Fits (after calls).lastAccountId) ∧
      (∀ account ∈ (after calls).accounts,
        (∃ owner, (after calls).user? account.owner = some owner) ∧
        ∀ other ∈ (after calls).accounts, other.owner = account.owner →
          other.currency = account.currency → other = account) ∧
      (∀ id session, (after calls).session? id = some session ↔
        session ∈ (after calls).sessions ∧ session.id = id) ∧
      (∀ session ∈ (after calls).sessions,
        ∃ holder, (after calls).user? session.username = some holder) ∧
      (∀ now call error, (perform now call (after calls)).1 = .error error →
        (perform now call (after calls)).2 = after calls) ∧
      ∀ now owner, ∃ active closed,
        (perform now (.listAccounts owner) (after calls)).1 = .ok active ∧
        (perform now (.listDeletedAccounts owner) (after calls)).1 = .ok closed ∧
        (∀ account, (active ++ closed).count account =
          if account ∈ (after calls).accounts ∧ account.owner = owner then 1 else 0) ∧
        (∀ account ∈ active, account.isDeleted = false) ∧
        (∀ account ∈ closed, account.isDeleted = true) ∧
        active.Pairwise (·.id < ·.id) ∧ closed.Pairwise (·.id < ·.id) := by
  have constrained := constrained_after calls
  have numbered := numbered_after calls
  refine ⟨fun _ _ => constrained.user?_eq_some_iff,
    fun user stored other => constrained.user_eq_of_email stored,
    fun _ _ => numbered.account?_eq_some_iff, numbered.accountIds, numbered.lastAccountId,
    fun few => ?_, fun account stored => ⟨?_, ?_⟩, fun _ _ => constrained.session?_eq_some_iff,
    fun session stored => constrained.exists_user (constrained.holders session stored), ?_,
    fun now owner => ⟨_, _, rfl, rfl, fun account => ?_, ?_, ?_, ?_, ?_⟩⟩
  · have counted := numbered.lastAccountId
    unfold Fits
    omega
  · exact constrained.exists_user (constrained.owners account stored)
  · exact fun other otherStored => constrained.account_eq_of_holding stored otherStored
  · exact fun now call error failed => (perform_effect now call _).eq_of_error failed
  · rw [count_listings]
    by_cases owns : account.owner = owner
    · by_cases stored : account ∈ (after calls).accounts
      · rw [if_pos owns, if_pos ⟨stored, owns⟩]
        exact List.count_eq_one_of_mem numbered.nodup_accounts stored
      · rw [if_pos owns, if_neg fun both => stored both.1]
        exact List.count_eq_zero.mpr stored
    · rw [if_neg owns, if_neg fun both => owns both.2]
  · intro account listed
    simpa using (Bool.and_eq_true_iff.mp (List.mem_filter.mp listed).2).2
  · intro account listed
    exact (Bool.and_eq_true_iff.mp (List.mem_filter.mp listed).2).2
  · exact numbered.pairwise_accounts.filter _
  · exact numbered.pairwise_accounts.filter _

end Tables

end Countinghouse
