import Countinghouse.Proofs.Store.Effect
import Countinghouse.Request.Email
import Countinghouse.Sql.Schema
import Countinghouse.Sql.Users

/-!
# Tables that keep the rules

The store takes any text for a username, a name or an email. The rules of requests are stricter, and
so are columns of a bounded width. `Tables.IsRegular` says that what is stored keeps the rules, and
`StoreCall.IsRegular` that a call asks for nothing else to be stored: calls that are regular keep
the tables regular.

How wide a column is stands in the schema, and `SchemaPart.width?` reads it there. What is regular
fits every column that has a width.
-/

namespace Countinghouse

/-- A name that a user may be registered under: six to sixteen letters and digits of ASCII. -/
structure IsUsername (name : String) : Prop where
  least : 6 ≤ name.length
  most : name.length ≤ 16
  alphanumeric : ∀ character ∈ name.toList, character.isAlphanum = true

/-- What a user may be registered with. -/
structure IsProfile (username fullName email : String) : Prop where
  username : IsUsername username
  fullName : fullName ≠ ""
  email : Email.isValid email = true

/-- What the call asks to be stored keeps the rules. -/
def StoreCall.IsRegular : StoreCall → Prop
  | .createUser new => IsProfile new.username new.fullName new.email
  | .updateUser change => IsUsername change.username ∧
    (∀ fullName ∈ change.fullName, fullName ≠ "") ∧
    ∀ email ∈ change.email, Email.isValid email = true
  | .createAccount new => IsUsername new.owner
  | .createSession new => IsUsername new.username
  | _ => True

/-! ## Tables -/

/-- What is stored keeps the rules. -/
structure Tables.IsRegular (tables : Tables) : Prop where
  users : ∀ user ∈ tables.users, IsProfile user.username user.fullName user.email
  owners : ∀ account ∈ tables.accounts, IsUsername account.owner
  holders : ∀ session ∈ tables.sessions, IsUsername session.username

namespace Tables

theorem isRegular_empty : IsRegular empty := by
  constructor <;> simp [empty]

/-- A profile that is changed by the rules keeps them. -/
theorem isProfile_changed {user : User} {change : UserChange} (now : Instant)
    (isProfile : IsProfile user.username user.fullName user.email)
    (isRegular : (StoreCall.updateUser change).IsRegular) :
    IsProfile (changed now change user).username (changed now change user).fullName
      (changed now change user).email := by
  obtain ⟨-, fullNames, emails⟩ := isRegular
  refine ⟨isProfile.username, ?_, ?_⟩
  · cases asked : change.fullName with
    | none => simpa [changed, asked] using isProfile.fullName
    | some fullName => simpa [changed, asked] using fullNames fullName asked
  · cases asked : change.email with
    | none => simpa [changed, asked] using isProfile.email
    | some email => simpa [changed, asked] using emails email asked

/-- Accounts that stay with their owners stay regular. -/
theorem IsRegular.map_accounts {tables : Tables} (regular : tables.IsRegular)
    {change : Account → Account} (same : ∀ row : Account, row.Same (change row)) :
    ∀ account ∈ tables.accounts.map change, IsUsername account.owner := by
  intro account member
  obtain ⟨row, stored, rfl⟩ := List.mem_map.mp member
  rw [(same row).owner]
  exact regular.owners row stored

/-- Every regular call keeps the tables regular. -/
theorem IsRegular.step {now : Instant} {before after : Tables} {call : StoreCall}
    {reply : Except StoreError call.Reply} (regular : before.IsRegular) (isRegular : call.IsRegular)
    (effect : Effect now before call reply after) : after.IsRegular := by
  cases effect with
  | nothing => exact regular
  | @registered new =>
      refine { regular with users := fun user member => ?_ }
      rcases List.mem_append.mp member with stored | isNew
      · exact regular.users user stored
      · obtain rfl := List.mem_singleton.mp isNew
        exact isRegular
  | @updated change =>
      refine { regular with users := fun user member => ?_ }
      obtain ⟨row, stored, rfl⟩ := List.mem_map.mp member
      split
      · exact isProfile_changed now (regular.users row stored) isRegular
      · exact regular.users row stored
  | @opened new =>
      refine { regular with owners := fun account member => ?_ }
      rcases List.mem_append.mp member with stored | isNew
      · exact regular.owners account stored
      · obtain rfl := List.mem_singleton.mp isNew
        exact isRegular
  | deleted id => exact { regular with owners := regular.map_accounts (mark_same id true) }
  | restored id => exact { regular with owners := regular.map_accounts (mark_same id false) }
  | transferred => exact { regular with owners := regular.map_accounts (settle_same _ _ _ _) }
  | @admitted new =>
      refine { regular with holders := fun session member => ?_ }
      rcases List.mem_append.mp member with stored | isNew
      · exact regular.holders session stored
      · obtain rfl := List.mem_singleton.mp isNew
        exact isRegular
  | blocked =>
      refine { regular with holders := fun session member => ?_ }
      obtain ⟨row, stored, rfl⟩ := List.mem_map.mp member
      split <;> exact regular.holders row stored

theorem IsRegular.perform {tables : Tables} {call : StoreCall} (regular : tables.IsRegular)
    (isRegular : call.IsRegular) (now : Instant) :
    (Tables.perform now call tables).2.IsRegular :=
  regular.step isRegular (tables.perform_effect now call)

end Tables

/-! ## Columns -/

namespace SchemaPart

/-- The number that a text begins with. -/
def leadingNumber (text : List Char) : Nat :=
  (text.takeWhile Char.isDigit).foldl (fun number digit => 10 * number + (digit.toNat - 48)) 0

/-- How many characters a column takes, if the clause that defines it bounds them. -/
def width? : SchemaPart → String → Option Nat
  | .table _ clauses, column => clauses.findSome? fun clause =>
    let bounded := (column ++ " VARCHAR(").toList
    if bounded.isPrefixOf clause.toList then
      some (leadingNumber (clause.toList.drop bounded.length))
    else none
  | .index .., _ => none

/-- A value fits a column. -/
def Takes (part : SchemaPart) (column : String) : SqlValue → Prop
  | .text text => ∀ width, part.width? column = some width → text.length ≤ width
  | .null | .bool _ | .int _ => True

/-- The values of a row fit their columns. -/
def TakesRow (part : SchemaPart) (row : SqlRow) : Prop :=
  ∀ cell ∈ row, part.Takes cell.1 cell.2

variable {part : SchemaPart} {column : String}

theorem takes_of_width {text : String} {width : Nat} (isWidth : part.width? column = some width)
    (fits : text.length ≤ width) : part.Takes column (.text text) := by
  intro other isOther
  obtain rfl := Option.some.inj (isWidth.symm.trans isOther)
  exact fits

/-- A column without a width takes every value. -/
theorem takes_of_none (noWidth : part.width? column = none) (value : SqlValue) :
    part.Takes column value := by
  cases value with
  | text text => exact fun width isWidth => by rw [noWidth] at isWidth; cases isWidth
  | null | bool _ | int _ => trivial

@[simp] theorem takesRow_nil : part.TakesRow [] := fun cell member => by cases member

@[simp] theorem takesRow_cons {cell : String × SqlValue} {row : SqlRow} :
    part.TakesRow (cell :: row) ↔ part.Takes cell.1 cell.2 ∧ part.TakesRow row :=
  List.forall_mem_cons

end SchemaPart

/-- A session with the columns of its table. -/
def Session.row (session : Session) : SqlRow :=
  [("id", .text session.id.render), ("username", .text session.username),
    ("refresh_token", .text session.refreshToken), ("user_agent", .text session.client.userAgent),
    ("client_ip", .text session.client.clientIp), ("is_blocked", .bool session.isBlocked),
    ("expires_at", .text session.expiresAt.render), ("created_at", .text session.createdAt.render)]

/-- The table that a call gives texts to, and the values with their columns: those of the statement
that is sent to a database for it, in the order of its places. -/
def StoreCall.writing? : StoreCall → Option (SchemaPart × SqlRow)
  | .createUser new => some (Schema.users,
    ["username", "hashed_password", "full_name", "email"].zip (Statement.insertUser new).params)
  | .updateUser change => some (Schema.users,
    ["username", "full_name", "email", "hashed_password"].zip (Statement.updateUser change).params)
  | .createAccount new => some (Schema.accounts,
    ["owner", "balance", "currency"].zip (Statement.insertAccount new).params)
  | .createSession new => some (Schema.sessions,
    ["id", "username", "refresh_token", "user_agent", "client_ip", "expires_at"].zip
      (Statement.insertSession new).params)
  | _ => none

theorem Currency.length_code (currency : Currency) : currency.code.length ≤ 3 := by
  cases currency <;> decide

/-! ## What is regular fits -/

section Widths

open SchemaPart

theorem takes_username {username : String} (isUsername : IsUsername username) :
    Schema.users.Takes "username" (.text username) :=
  takes_of_width (by decide +kernel : _ = some 16) isUsername.most

theorem takes_owner {owner : String} (isUsername : IsUsername owner) :
    Schema.accounts.Takes "owner" (.text owner) :=
  takes_of_width (by decide +kernel : _ = some 16) isUsername.most

theorem takes_currency (currency : Currency) :
    Schema.accounts.Takes "currency" (.text currency.code) :=
  takes_of_width (by decide +kernel : _ = some 3) currency.length_code

theorem takes_holder {holder : String} (isUsername : IsUsername holder) :
    Schema.sessions.Takes "username" (.text holder) :=
  takes_of_width (by decide +kernel : _ = some 16) isUsername.most

/-- All other columns of users take any text. -/
theorem width?_users : ∀ column ∈ ["hashed_password", "full_name", "email", "password_changed_at",
    "created_at"], Schema.users.width? column = none := by
  decide +kernel

/-- All other columns of sessions take any text. -/
theorem width?_sessions : ∀ column ∈ ["id", "refresh_token", "user_agent", "client_ip",
    "expires_at", "created_at"], Schema.sessions.width? column = none := by
  decide +kernel

end Widths

theorem takesRow_user {user : User} (isUsername : IsUsername user.username) :
    Schema.users.TakesRow user.row := by
  simp only [User.row, SchemaPart.takesRow_cons, SchemaPart.takesRow_nil, and_true]
  refine ⟨takes_username isUsername, ?_, ?_, ?_, ?_, ?_⟩ <;>
    exact SchemaPart.takes_of_none (width?_users _ (by simp)) _

theorem takesRow_account {account : Account} (isUsername : IsUsername account.owner) :
    Schema.accounts.TakesRow account.row := by
  simp only [Account.row, SchemaPart.takesRow_cons, SchemaPart.takesRow_nil, and_true]
  exact ⟨trivial, takes_owner isUsername, trivial, takes_currency account.currency, trivial,
    SchemaPart.takes_of_none (by decide +kernel) _⟩

theorem takesRow_session {session : Session} (isUsername : IsUsername session.username) :
    Schema.sessions.TakesRow session.row := by
  simp only [Session.row, SchemaPart.takesRow_cons, SchemaPart.takesRow_nil, and_true]
  refine ⟨?_, takes_holder isUsername, ?_, ?_, ?_, trivial, ?_, ?_⟩ <;>
    exact SchemaPart.takes_of_none (width?_sessions _ (by simp)) _

/-- What a regular call writes fits. -/
theorem StoreCall.IsRegular.takesRow {call : StoreCall} (regular : call.IsRegular)
    {part : SchemaPart} {row : SqlRow} (writes : call.writing? = some (part, row)) :
    part.TakesRow row := by
  cases call with
  | createUser new =>
      obtain ⟨rfl, rfl⟩ := Prod.mk.inj (Option.some.inj writes)
      simp only [Statement.params, List.zip_cons_cons, List.zip_nil_left, SchemaPart.takesRow_cons,
        SchemaPart.takesRow_nil, and_true]
      refine ⟨takes_username regular.username, ?_, ?_, ?_⟩ <;>
        exact SchemaPart.takes_of_none (width?_users _ (by simp)) _
  | updateUser change =>
      obtain ⟨rfl, rfl⟩ := Prod.mk.inj (Option.some.inj writes)
      simp only [Statement.params, List.zip_cons_cons, List.zip_nil_left, SchemaPart.takesRow_cons,
        SchemaPart.takesRow_nil, and_true]
      refine ⟨takes_username regular.1, ?_, ?_, ?_⟩ <;>
        exact SchemaPart.takes_of_none (width?_users _ (by simp)) _
  | createAccount new =>
      obtain ⟨rfl, rfl⟩ := Prod.mk.inj (Option.some.inj writes)
      simp only [Statement.params, List.zip_cons_cons, List.zip_nil_left, SchemaPart.takesRow_cons,
        SchemaPart.takesRow_nil, and_true]
      exact ⟨takes_owner regular, trivial, takes_currency new.currency⟩
  | createSession new =>
      obtain ⟨rfl, rfl⟩ := Prod.mk.inj (Option.some.inj writes)
      simp only [Statement.params, List.zip_cons_cons, List.zip_nil_left, SchemaPart.takesRow_cons,
        SchemaPart.takesRow_nil, and_true]
      refine ⟨?_, takes_holder regular, ?_, ?_, ?_, ?_⟩ <;>
        exact SchemaPart.takes_of_none (width?_sessions _ (by simp)) _
  | _ => cases writes

end Countinghouse
