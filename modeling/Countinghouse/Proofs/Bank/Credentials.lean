import Countinghouse.Proofs.Bank.UserWrites
import Countinghouse.Proofs.Operation.Undisturbed
import Countinghouse.Proofs.Store.Sessions
import Countinghouse.Proofs.Store.Users
import Countinghouse.Proofs.Token.RoundTrip

/-!
# Which password a login accepts

Turns are taken one after another: each errand is over before the next one begins. What the
password of a user is can then be read off what was asked for and what was answered.
`Bank.passwordEvents` lists the turns that succeeded in giving a password to a user, and
`currentPassword?` is the password that counts after them, without a look at any table. A login
accepts that password and no other one.

What a turn does to the users is `Bank.Rewrites`, in which each way to write a user stands next to
the event that it belongs to. `Bank.Standing` is what connects events and tables, and every turn
keeps it.
-/

namespace Countinghouse

/-! ## Passwords that were given -/

/-- A user was given a password. -/
inductive PasswordEvent where
  /-- The user was registered with it. -/
  | registered (username password : String)
  /-- The user changed to it. -/
  | changed (username password : String)

/-- The user who was given a password. -/
def PasswordEvent.username : PasswordEvent → String
  | .registered username _ | .changed username _ => username

/-- The passwords that a user was registered with, oldest first. -/
def registeredWith (username : String) (events : List PasswordEvent) : List String :=
  events.filterMap fun
    | .registered name password => if name = username then some password else none
    | .changed .. => none

/-- The passwords that a user changed to, oldest first. -/
def changedTo (username : String) (events : List PasswordEvent) : List String :=
  events.filterMap fun
    | .registered .. => none
    | .changed name password => if name = username then some password else none

/-- The latest password that a registered user changed to, or else the one of the registration. -/
def currentPassword? (username : String) (events : List PasswordEvent) : Option String :=
  (registeredWith username events).head?.map ((changedTo username events).getLast?.getD ·)

theorem registeredWith_append (username : String) (earlier later : List PasswordEvent) :
    registeredWith username (earlier ++ later) =
      registeredWith username earlier ++ registeredWith username later := List.filterMap_append

theorem changedTo_append (username : String) (earlier later : List PasswordEvent) :
    changedTo username (earlier ++ later) =
      changedTo username earlier ++ changedTo username later := List.filterMap_append

/-- What others were given is not counted. -/
theorem registeredWith_append_others {username : String} (earlier : List PasswordEvent)
    {later : List PasswordEvent} (others : ∀ event ∈ later, event.username ≠ username) :
    registeredWith username (earlier ++ later) = registeredWith username earlier := by
  have noneCounted : registeredWith username later = [] := by
    refine List.filterMap_eq_nil_iff.mpr fun event member => ?_
    cases event with
    | registered name password => exact if_neg (others _ member)
    | changed name password => rfl
  rw [registeredWith_append, noneCounted, List.append_nil]

/-- What others were given is not counted. -/
theorem changedTo_append_others {username : String} (earlier : List PasswordEvent)
    {later : List PasswordEvent} (others : ∀ event ∈ later, event.username ≠ username) :
    changedTo username (earlier ++ later) = changedTo username earlier := by
  have noneCounted : changedTo username later = [] := by
    refine List.filterMap_eq_nil_iff.mpr fun event member => ?_
    cases event with
    | registered name password => rfl
    | changed name password => exact if_neg (others _ member)
  rw [changedTo_append, noneCounted, List.append_nil]

namespace Bank

/-! ## Turns -/

/-- Something that is done with the bank while nothing else is done: an errand, in surroundings
that follow a course, or a session is blocked. -/
inductive Turn where
  | errand (asked : Errand) (course : Course)
  | block (id : Uuid) (now : Instant)

namespace Turn

/-- The clock may say this in the course of a turn. -/
def Reads : Turn → Instant → Prop
  | .errand _ course, now => ∃ met, course.answers met .clock = now
  | .block _ present, now => present = now

/-- The tables after a turn. -/
def after (bank : Bank) (tables : Tables) : Turn → Tables
  | .errand asked course => ((bank.serve asked).tryOut course tables).2.tables
  | .block id now => (Tables.perform now (.blockSession id) tables).2

/-- The errand of a turn was answered with a value. -/
def succeeds (bank : Bank) (tables : Tables) : Turn → Bool
  | .errand asked course => ((bank.serve asked).tryOut course tables).1.isOk
  | .block .. => true

/-- The password that somebody gets if a turn succeeds. -/
def wish? : Turn → Option PasswordEvent
  | .errand (.order (.register username _ _ password)) _ => some (.registered username password)
  | .errand (.order (.updateUser caller update)) _ => update.newPassword.map (.changed caller)
  | _ => none

/-- The password that somebody got by a turn. -/
def event? (bank : Bank) (tables : Tables) (turn : Turn) : Option PasswordEvent :=
  if turn.succeeds bank tables then turn.wish? else none

end Turn

/-- The tables after some turns. -/
def follow (bank : Bank) (tables : Tables) (turns : List Turn) : Tables :=
  turns.foldl (Turn.after bank) tables

/-- The passwords that users got by some turns. -/
def passwordEvents (bank : Bank) : Tables → List Turn → List PasswordEvent
  | _, [] => []
  | tables, turn :: later =>
    (turn.event? bank tables).toList ++ bank.passwordEvents (turn.after bank tables) later

variable {bank : Bank}

/-! ## What a turn does to the users -/

/-- Hashing a password may come to this text. -/
def Hashes (bank : Bank) (password hashed : String) : Prop :=
  bank.passwords.fault? password = none ∧ ∃ salt, hashed = bank.passwords.hash salt password

/-- What a turn does to the users, next to the password that it gives to one of them. -/
inductive Rewrites (bank : Bank) (clock : Instant → Prop) (users : List User) :
    Option PasswordEvent → List User → Prop where
  | nothing : Rewrites bank clock users none users
  | registered {now : Instant} (inTime : clock now) {username fullName email : String}
      (nameIsNew : ∀ user ∈ users, user.username ≠ username) {password hashed : String}
      (isHash : bank.Hashes password hashed) :
      Rewrites bank clock users (some (.registered username password))
        (users ++ [NewUser.row now ⟨username, hashed, fullName, email⟩])
  | updated {now : Instant} (inTime : clock now) {change : UserChange} {user : User}
      (found : users.find? (·.username == change.username) = some user)
      {password? : Option String}
      (isHash : Option.Rel bank.Hashes password? change.hashedPassword) :
      Rewrites bank clock users (password?.map (.changed change.username))
        (users.map fun row =>
          if row.username == change.username then Tables.changed now change row else row)

variable {clock : Instant → Prop} {tables : Tables}

open Attempt

theorem hashPassword_undisturbed (password : String) :
    (bank.hashPassword password).Undisturbed clock
      (fun after result => after = tables ∧ ∀ hashed, result = .ok hashed →
        bank.Hashes password hashed) tables := by
  refine undisturbed_freshSalt_bind.mpr fun salt => ?_
  cases fault : bank.passwords.fault? password with
  | some text => exact ⟨rfl, nofun⟩
  | none => exact ⟨rfl, fun _ isHash => ⟨fault, salt, (Except.ok.inj isHash).symm⟩⟩

/-- A registration adds a user with a hash of the password. -/
theorem register_rewrites (username fullName email password : String) :
    (bank.register username fullName email password).Undisturbed clock
      (fun after result => result.isOk = true →
        bank.Rewrites clock tables.users (some (.registered username password)) after.users)
      tables := by
  refine (hashPassword_undisturbed password).bind fun seen result ⟨unchanged, isHash⟩ => ?_
  subst unchanged
  refine onward_of_ok (fun _ => nofun) fun hashed isResult => ?_
  refine undisturbed_lift_call_bind.mpr fun now inTime => ?_
  cases created : (Tables.perform now
      (.createUser ⟨username, hashed, fullName, email⟩) seen).1 with
  | error error => exact undisturbed_reject.mpr nofun
  | ok user =>
      obtain ⟨nameIsNew, added⟩ := Tables.createUser_eq_ok created
      refine undisturbed_report_bind.mpr fun _ => ?_
      exact (congrArg Tables.users added).symm ▸ .registered inTime nameIsNew (isHash hashed isResult)

/-- The hash for a change of the profile is one of the new password, if there is one. -/
theorem newHash_undisturbed (caller : String) (current : User) (update : ProfileUpdate) :
    (bank.newHash caller current update).Undisturbed clock
      (fun after result => after = tables ∧ ∀ hash?, result = .ok hash? →
        Option.Rel bank.Hashes update.newPassword hash?) tables := by
  unfold newHash refuseUpdate
  cases update.newPassword with
  | none => exact ⟨rfl, fun _ isHash => Except.ok.inj isHash ▸ .none⟩
  | some newPassword =>
      refine undisturbed_ofExcept_bind.mpr ?_
      cases bank.passwords.check (update.oldPassword.getD "") current.hashedPassword with
      | error error => exact ⟨rfl, nofun⟩
      | ok isRight =>
          cases isRight with
          | false => exact fun _ => ⟨rfl, nofun⟩
          | true =>
              refine (hashPassword_undisturbed newPassword).bind fun _ _ ⟨unchanged, isHash⟩ => ?_
              refine onward_of_ok (fun _ => ⟨unchanged, nofun⟩) fun hashed isResult => ?_
              exact ⟨unchanged, fun _ same => Except.ok.inj same ▸ .some (isHash hashed isResult)⟩

theorem user_undisturbed (username : String) :
    (user username).Undisturbed clock (fun after _ => after = tables) tables := by
  refine undisturbed_call_bind.mpr fun now _ => ⟨fun user? _ => ?_, fun _ _ => rfl⟩
  cases user? <;> rfl

/-- A change of a profile writes a hash of the new password, if there is one. -/
theorem updateUser_rewrites (caller : String) (update : ProfileUpdate) :
    (bank.updateUser caller update).Undisturbed clock
      (fun after result => result.isOk = true →
        bank.Rewrites clock tables.users (update.newPassword.map (.changed caller)) after.users)
      tables := by
  refine (user_undisturbed caller).bind fun found result unchanged => ?_
  subst unchanged
  refine onward_of_ok (fun _ => nofun) fun current _ => ?_
  by_cases sameEmail : update.email = some current.email
  · rw [if_pos sameEmail]
    exact fun _ => nofun
  rw [if_neg sameEmail]
  refine (newHash_undisturbed caller current update).bind fun seen result ⟨unchanged, isHash⟩ => ?_
  subst unchanged
  refine onward_of_ok (fun _ => nofun) fun hash? isResult => ?_
  refine undisturbed_lift_call_bind.mpr fun now inTime => ?_
  cases answered : (Tables.perform now
      (.updateUser ⟨caller, update.fullName, update.email, hash?⟩) seen).1 with
  | error error =>
      cases error with
      | uniqueViolation constraint => exact undisturbed_reject.mpr nofun
      | database | foreignKeyViolation | accountUnavailable | internal => exact nofun
  | ok found? =>
      cases found? with
      | none => exact nofun
      | some row =>
          obtain ⟨⟨stored, isStored⟩, written⟩ := Tables.updateUser_eq_ok answered
          refine undisturbed_report_bind.mpr fun _ => ?_
          exact (congrArg Tables.users written).symm ▸ .updated inTime isStored (isHash hash? isResult)

/-! ## What a turn does -/

/-- Where an errand succeeds, the store did not fail. -/
theorem tryOut_calm_of_isOk {asked : Errand} {course : Course}
    (succeeds : ((bank.serve asked).tryOut course tables).1.isOk = true) :
    (bank.serve asked).tryOut course.calm tables = (bank.serve asked).tryOut course tables := by
  refine Operation.tryOut_calm fun ⟨call, fault?⟩ member => ?_
  cases fault? with
  | none => rfl
  | some error =>
      obtain ⟨earlier, later, recorded⟩ := List.append_of_mem member
      obtain ⟨-, failed⟩ := ((serve_atomic bank asked tables).tryOut course).2 _ _ _ _ recorded
      rw [failed] at succeeds
      cases succeeds

/-- What is known of an errand in surroundings that do not fail is known of it wherever it
succeeds. -/
theorem holds_of_isOk {asked : Errand} {course : Course}
    {post : Tables → Except BankError asked.Answer → Prop}
    (holds : (bank.serve asked).Undisturbed (Turn.errand asked course).Reads post tables)
    (succeeds : ((bank.serve asked).tryOut course tables).1.isOk = true) :
    post ((bank.serve asked).tryOut course tables).2.tables
      ((bank.serve asked).tryOut course tables).1 :=
  tryOut_calm_of_isOk succeeds ▸ holds.tryOut course.calm_isSmooth

theorem wish?_eq_none {asked : Errand} (leaves : ¬asked.WritesUsers) (course : Course) :
    (Turn.errand asked course).wish? = none := by
  unfold Turn.wish?
  split
  case h_1 same | h_2 same =>
    cases same
    exact absurd trivial leaves
  case h_3 => rfl

/-- An errand that succeeds does to the users what belongs to the password that it gives. -/
theorem rewrites_of_isOk {asked : Errand} {course : Course}
    (succeeds : ((bank.serve asked).tryOut course tables).1.isOk = true) :
    bank.Rewrites (Turn.errand asked course).Reads tables.users (Turn.errand asked course).wish?
      ((bank.serve asked).tryOut course tables).2.tables.users := by
  by_cases writes : asked.WritesUsers
  · match asked, writes with
    | .order (.register username fullName email password), _ =>
        exact holds_of_isOk (register_rewrites username fullName email password) succeeds succeeds
    | .order (.updateUser caller update), _ =>
        exact holds_of_isOk (updateUser_rewrites caller update) succeeds succeeds
  · rw [wish?_eq_none writes, users_tryOut bank writes]
    exact .nothing

/-- Whatever a turn is, and wherever the store fails in it, it does to the users what belongs to the
password that it gives. -/
theorem rewrites_after (bank : Bank) (tables : Tables) (turn : Turn) :
    bank.Rewrites turn.Reads tables.users (turn.event? bank tables)
      (turn.after bank tables).users := by
  cases turn with
  | block id now =>
      have same : (Tables.perform now (.blockSession id) tables).2.users = tables.users :=
        Tables.users_perform (show (StoreCall.blockSession id).LeavesUsers from trivial) now tables
      exact same.symm ▸ .nothing
  | errand asked course =>
      cases result : ((bank.serve asked).tryOut course tables).1 with
      | ok answer =>
          have succeeds : ((bank.serve asked).tryOut course tables).1.isOk = true :=
            congrArg Except.isOk result
          rw [Turn.event?, Turn.succeeds, if_pos succeeds]
          exact rewrites_of_isOk succeeds
      | error error =>
          have unchanged := ((serve_atomic bank asked tables).tryOut course).1 error result
          rw [Turn.event?, Turn.succeeds, result, Turn.after, unchanged]
          exact .nothing

/-! ## What a turn does to one user -/

/-- What became of the row of a user in a turn. -/
inductive Becomes (bank : Bank) (clock : Instant → Prop) (username : String) (row : User) :
    Option PasswordEvent → User → Prop where
  | changed {latest : User} {password : String}
      (isHash : bank.Hashes password latest.hashedPassword)
      (inTime : clock latest.passwordChangedAt) :
      Becomes bank clock username row (some (.changed username password)) latest
  | kept {latest : User} {event? : Option PasswordEvent}
      (others : ∀ event ∈ event?, event.username ≠ username)
      (sameHash : latest.hashedPassword = row.hashedPassword)
      (sameTime : latest.passwordChangedAt = row.passwordChangedAt) :
      Becomes bank clock username row event? latest

/-- A stored user stays stored, with the password that was given by the turn, if one was. -/
theorem Rewrites.of_stored {users after : List User} {event? : Option PasswordEvent}
    (rewrites : bank.Rewrites clock users event? after) {username : String} {row : User}
    (stored : users.find? (·.username == username) = some row) :
    ∃ latest, after.find? (·.username == username) = some latest ∧
      bank.Becomes clock username row event? latest := by
  have isNamed : row.username = username := by simpa using List.find?_some stored
  cases rewrites with
  | nothing => exact ⟨row, stored, .kept nofun rfl rfl⟩
  | registered inTime nameIsNew isHash =>
      refine ⟨row, by rw [List.find?_append, stored, Option.some_or], .kept ?_ rfl rfl⟩
      rintro event ⟨⟩ sameName
      exact nameIsNew row (List.mem_of_find?_eq_some stored) (isNamed.trans sameName.symm)
  | @updated now inTime change user found password? isHash =>
      have isLatest := Tables.find?_map_changed users now change username
      rw [stored, Option.map_some] at isLatest
      refine ⟨_, isLatest, ?_⟩
      by_cases isChanged : row.username = change.username
      · rw [if_pos (beq_iff_eq.mpr isChanged)]
        obtain rfl := isChanged.symm.trans isNamed
        generalize written : change.hashedPassword = hash? at isHash
        cases isHash with
        | none =>
            exact .kept nofun (by simp [Tables.changed, written]) (by simp [Tables.changed, written])
        | some isHash =>
            refine .changed ?_ (by simpa [Tables.changed, written] using inTime)
            simpa [Tables.changed, written] using isHash
      · rw [if_neg (by simpa using isChanged)]
        refine .kept (fun event isEvent sameName => isChanged ?_) rfl rfl
        obtain ⟨password, -, rfl⟩ := Option.map_eq_some_iff.mp isEvent
        exact isNamed.trans sameName.symm

/-- A user who is not stored is registered by the turn, or is not concerned by it. -/
theorem Rewrites.of_missing {users after : List User} {event? : Option PasswordEvent}
    (rewrites : bank.Rewrites clock users event? after) {username : String}
    (missing : users.find? (·.username == username) = none) :
    (∃ password row, event? = some (.registered username password) ∧
        after.find? (·.username == username) = some row ∧
        bank.Hashes password row.hashedPassword) ∨
      (∀ event ∈ event?, event.username ≠ username) ∧
        after.find? (·.username == username) = none := by
  cases rewrites with
  | nothing => exact .inr ⟨nofun, missing⟩
  | @registered now inTime name fullName email nameIsNew password hashed isHash =>
      by_cases isNamed : name = username
      · subst isNamed
        refine .inl ⟨password, NewUser.row now ⟨name, hashed, fullName, email⟩, rfl, ?_, isHash⟩
        rw [List.find?_append, missing, Option.none_or]
        exact List.find?_cons_of_pos (beq_self_eq_true name)
      · refine .inr ⟨?_, ?_⟩
        · rintro event ⟨⟩
          exact isNamed
        · rw [List.find?_append, missing, Option.none_or]
          exact List.find?_cons_of_neg (by simpa [NewUser.row] using isNamed)
  | @updated now inTime change user found password? isHash =>
      refine .inr ⟨fun event isEvent sameName => ?_, ?_⟩
      · obtain ⟨password, -, rfl⟩ := Option.map_eq_some_iff.mp isEvent
        obtain rfl : change.username = username := sameName
        exact Option.some_ne_none user (found.symm.trans missing)
      · rw [Tables.find?_map_changed, missing, Option.map_none]

/-! ## Events and tables -/

/-- What the tables say of a user, and what the events say. -/
inductive Standing (bank : Bank) (username : String) (users : List User)
    (events : List PasswordEvent) : Prop where
  | unknown (missing : users.find? (·.username == username) = none)
      (notRegistered : registeredWith username events = [])
      (notChanged : changedTo username events = [])
  | known {row : User} (first : String)
      (stored : users.find? (·.username == username) = some row)
      (registered : registeredWith username events = [first])
      (isHash : bank.Hashes ((changedTo username events).getLast?.getD first) row.hashedPassword)

/-- Every turn keeps events and tables together. -/
theorem Standing.rewritten {username : String} {users after : List User}
    {events : List PasswordEvent} {event? : Option PasswordEvent}
    (standing : bank.Standing username users events)
    (rewrites : bank.Rewrites clock users event? after) :
    bank.Standing username after (events ++ event?.toList) := by
  cases standing with
  | unknown missing notRegistered notChanged =>
      rcases rewrites.of_missing missing with
        ⟨password, row, rfl, stored, isHash⟩ | ⟨others, missing⟩
      · refine .known password stored ?_ ?_
        · rw [registeredWith_append, notRegistered]
          simp [registeredWith]
        · rw [changedTo_append, notChanged]
          exact isHash
      · have notNow : ∀ event ∈ event?.toList, event.username ≠ username := by simpa using others
        exact .unknown missing ((registeredWith_append_others events notNow).trans notRegistered)
          ((changedTo_append_others events notNow).trans notChanged)
  | known first stored registered isHash =>
      obtain ⟨latest, isLatest, becomes⟩ := rewrites.of_stored stored
      cases becomes with
      | changed isNewHash inTime =>
          refine .known first isLatest ?_ ?_
          · rw [registeredWith_append, registered]
            rfl
          · rw [changedTo_append]
            simpa [changedTo] using isNewHash
      | kept others sameHash sameTime =>
          have notNow : ∀ event ∈ event?.toList, event.username ≠ username := by simpa using others
          refine .known first isLatest
            ((registeredWith_append_others events notNow).trans registered) ?_
          rw [changedTo_append_others events notNow, sameHash]
          exact isHash

theorem standing_follow (bank : Bank) (username : String) (turns : List Turn) {tables : Tables}
    {events : List PasswordEvent} (standing : bank.Standing username tables.users events) :
    bank.Standing username (bank.follow tables turns).users
      (events ++ bank.passwordEvents tables turns) := by
  -- By induction on the turns, whatever the tables and events are to begin with.
  induction turns generalizing tables events with
  | nil => simpa [follow, passwordEvents] using standing
  | cons turn later inductionHypothesis =>
      have next := inductionHypothesis (standing.rewritten (bank.rewrites_after tables turn))
      simpa [follow, passwordEvents] using next

/-- After any turns that began with no user, tables and events belong together. -/
theorem standing_of_turns (bank : Bank) (username : String) (turns : List Turn) :
    bank.Standing username (bank.follow .empty turns).users (bank.passwordEvents .empty turns) := by
  have atFirst : bank.Standing username Tables.empty.users [] := .unknown rfl rfl rfl
  exact bank.standing_follow username turns atFirst

/-! ## What a login answers -/

variable {username password : String} {course : Course}

theorem authenticate_of_right (noFault : course.fault? 0 = none) {user : User}
    (stored : tables.user? username = some user)
    (right : bank.passwords.check password user.hashedPassword = .ok true) :
    (bank.authenticate username password).run.tryOut course (.start tables) =
      (.ok (some user), ⟨tables, [(.getUser username, none)], 1⟩) := by
  have isRead : (Tables.perform (course.answers 0 .clock) (.getUser username) tables).1 =
      .ok (some user) := congrArg Except.ok stored
  unfold authenticate
  rw [tryOut_bind_of_ok (tryOut_call_of_ok noFault isRead)]
  dsimp only
  rw [right]
  rfl

theorem authenticate_of_wrong (noFault : course.fault? 0 = none)
    (wrong : ∀ user, tables.user? username = some user →
      bank.passwords.check password user.hashedPassword = .ok false) :
    (bank.authenticate username password).run.tryOut course (.start tables) =
      (.ok none, ⟨tables, [(.getUser username, none)], 1⟩) := by
  have isRead : (Tables.perform (course.answers 0 .clock) (.getUser username) tables).1 =
      .ok (tables.user? username) := rfl
  unfold authenticate
  rw [tryOut_bind_of_ok (tryOut_call_of_ok noFault isRead)]
  cases stored : tables.user? username with
  | none => rfl
  | some user =>
      dsimp only
      rw [wrong user stored]
      rfl

/-- Without the right password a login is refused. -/
theorem login_of_wrong (noFault : course.fault? 0 = none)
    (wrong : ∀ user, tables.user? username = some user →
      bank.passwords.check password user.hashedPassword = .ok false) (client : Client) :
    ((bank.login username password client).tryOut course tables).1 =
      .error .invalidCredentials := by
  unfold login Attempt.tryOut
  rw [tryOut_bind_of_ok (authenticate_of_wrong noFault wrong)]
  rfl

/-- A token is minted under the identifier that is fresh, as long as its expiry has a date. -/
theorem mint_tryOut {authority : Authority} {kind : TokenKind}
    (inRange : ∀ met, (authority.expiry? (course.answers met .clock) kind).isSome)
    (username : String) (trial : Trial) :
    ∃ token claims, claims.id = course.answers (trial.met + 1) .freshId ∧
      (authority.mint kind username).run.tryOut course trial =
        (.ok (token, claims), { trial with met := trial.met + 2 }) := by
  let now := course.answers trial.met .clock
  let id := course.answers (trial.met + 1) .freshId
  obtain ⟨expiresAt, expires⟩ := Option.isSome_iff_exists.mp (inRange trial.met)
  have claimed : authority.claims now id kind username =
      .ok ⟨id, username, kind, now.truncate, expiresAt⟩ :=
    Authority.claims_eq_ok_iff.mpr ⟨expiresAt, expires, rfl⟩
  have issued := Authority.issue_eq_ok_iff.mpr ⟨claimed, rfl⟩
  exact ⟨_, _, rfl, Prod.ext issued rfl⟩

/-- With the right password a login succeeds, if the tokens can be minted and the session is new. -/
theorem login_of_right (noFault : ∀ met, course.fault? met = none)
    (inRange : ∀ met kind, (bank.authority.expiry? (course.answers met .clock) kind).isSome)
    (unused : ∀ met, tables.session? (course.answers met .freshId) = none) {user : User}
    (stored : tables.user? username = some user)
    (right : bank.passwords.check password user.hashedPassword = .ok true) (client : Client) :
    ((bank.login username password client).tryOut course tables).1.isOk = true := by
  have isNamed := (Tables.user?_some stored).2
  -- The needs of a login in their order: the user, the clock and an identifier for each of the two
  -- tokens, and the session.
  obtain ⟨accessToken, access, -, accessMinted⟩ := mint_tryOut (inRange · .access) user.username
    ⟨tables, [(.getUser username, none)], 1⟩
  obtain ⟨refreshToken, refresh, isFresh, refreshMinted⟩ := mint_tryOut (inRange · .refresh)
    user.username ⟨tables, [(.getUser username, none)], 3⟩
  let new : NewSession := ⟨refresh.id, user.username, refreshToken, client, refresh.expiresAt⟩
  have known : tables.user? new.username = some user := (congrArg tables.user? isNamed).trans stored
  have isNew : tables.session? new.id = none := (congrArg tables.session? isFresh).trans (unused 4)
  have opened := Tables.createSession_of_new (course.answers 5 .clock) known isNew
  have called : (Attempt.call (.createSession new)).run.tryOut course
      ⟨tables, [(.getUser username, none)], 5⟩ = _ := tryOut_call_of_ok (noFault 5) opened
  unfold login Attempt.tryOut
  rw [tryOut_bind_of_ok (authenticate_of_right (noFault 0) stored right)]
  dsimp only
  rw [tryOut_bind_of_ok accessMinted]
  dsimp only
  rw [tryOut_bind_of_ok refreshMinted]
  dsimp only
  rw [tryOut_bind_of_ok called]
  rfl

/-! ## The law -/

/-- The current password is the one that the stored hash belongs to, in a scheme that tells
passwords apart. -/
theorem Standing.check {events : List PasswordEvent}
    (standing : bank.Standing username tables.users events)
    (tellsApart : ∀ password other hashed, bank.Hashes other hashed →
      bank.passwords.check password hashed = .ok (password == other))
    (password : String) :
    (currentPassword? username events = some password ∧
        ∃ user, tables.user? username = some user ∧
          bank.passwords.check password user.hashedPassword = .ok true) ∨
      currentPassword? username events ≠ some password ∧
        ∀ user, tables.user? username = some user →
          bank.passwords.check password user.hashedPassword = .ok false := by
  cases standing with
  | unknown missing notRegistered notChanged =>
      refine .inr ⟨?_, fun user stored => ?_⟩
      · rw [currentPassword?, notRegistered]
        exact nofun
      · exact absurd (stored.symm.trans missing) (Option.some_ne_none user)
  | @known row first stored registered isHash =>
      have current : currentPassword? username events =
          some ((changedTo username events).getLast?.getD first) := by
        rw [currentPassword?, registered]
        rfl
      have checked := tellsApart password _ _ isHash
      by_cases isCurrent : password = (changedTo username events).getLast?.getD first
      · exact .inl ⟨current.trans (congrArg some isCurrent.symm), row, stored,
          checked.trans (congrArg Except.ok (beq_iff_eq.mpr isCurrent))⟩
      · refine .inr ⟨fun same => isCurrent (Option.some.inj (same.symm.trans current)),
          fun user isUser => ?_⟩
        obtain rfl := Option.some.inj (stored.symm.trans isUser)
        exact checked.trans (congrArg Except.ok (beq_eq_false_iff_ne.mpr isCurrent))

/-- A stored user is stored after the next turn as well, and only a change of the password writes
the time of the change. -/
theorem passwordChangedAt_after (bank : Bank) {turn : Turn} {row : User}
    (stored : tables.user? username = some row) :
    ∃ latest, (turn.after bank tables).user? username = some latest ∧
      (∀ given, turn.event? bank tables = some (.changed username given) →
        turn.Reads latest.passwordChangedAt) ∧
      ((∀ given, turn.event? bank tables ≠ some (.changed username given)) →
        latest.passwordChangedAt = row.passwordChangedAt) := by
  obtain ⟨latest, isLatest, becomes⟩ := (bank.rewrites_after tables turn).of_stored stored
  refine ⟨latest, isLatest, ?_⟩
  generalize turn.event? bank tables = event? at becomes ⊢
  cases becomes with
  | changed hashed inTime => exact ⟨fun _ _ => inTime, fun unchanged => absurd rfl (unchanged _)⟩
  | kept others sameHash sameTime =>
      exact ⟨fun _ isEvent => absurd rfl (others _ isEvent), fun _ => sameTime⟩

/-- A login accepts exactly the current password. Take a scheme that tells a password that it can
hash apart from all others, and any turns from the beginning on, some of which may fail at whatever
call. A login under any name with any password, if its tokens can be minted and its session is new,
succeeds if and only if that is the password which the user was registered with, or the latest one
that the user changed to. It is refused otherwise. And once a user is registered, the next turn
writes the time at which the password was changed if it changes the password of this user, and
leaves it as it is if not. -/
theorem login_accepts_current_password (bank : Bank)
    (tellsApart : ∀ password other hashed, bank.Hashes other hashed →
      bank.passwords.check password hashed = .ok (password == other))
    (turns : List Turn) (username : String) :
    (∀ (password : String) (client : Client) (course : Course),
        (∀ met, course.fault? met = none) →
        (∀ met kind, (bank.authority.expiry? (course.answers met .clock) kind).isSome) →
        (∀ met, (bank.follow .empty turns).session? (course.answers met .freshId) = none) →
        (((bank.login username password client).tryOut course (bank.follow .empty turns)).1.isOk ↔
            currentPassword? username (bank.passwordEvents .empty turns) = some password) ∧
          (currentPassword? username (bank.passwordEvents .empty turns) ≠ some password →
            ((bank.login username password client).tryOut course (bank.follow .empty turns)).1 =
              .error .invalidCredentials)) ∧
      ∀ (turn : Turn) (row : User), (bank.follow .empty turns).user? username = some row →
        ∃ latest, (turn.after bank (bank.follow .empty turns)).user? username = some latest ∧
          (∀ given, turn.event? bank (bank.follow .empty turns) = some (.changed username given) →
            turn.Reads latest.passwordChangedAt) ∧
          ((∀ given, turn.event? bank (bank.follow .empty turns) ≠ some (.changed username given)) →
            latest.passwordChangedAt = row.passwordChangedAt) := by
  refine ⟨fun password client course noFault inRange unused => ?_,
    fun turn row stored => passwordChangedAt_after bank stored⟩
  rcases (bank.standing_of_turns username turns).check tellsApart password with
    ⟨isCurrent, user, stored, right⟩ | ⟨notCurrent, wrong⟩
  · have succeeds := login_of_right noFault inRange unused stored right client
    exact ⟨⟨fun _ => isCurrent, fun _ => succeeds⟩, fun notCurrent => absurd isCurrent notCurrent⟩
  · have refused := login_of_wrong (noFault 0) wrong client
    refine ⟨⟨fun succeeds => ?_, fun isCurrent => absurd isCurrent notCurrent⟩, fun _ => refused⟩
    rw [refused] at succeeds
    cases succeeds

/-- Alice registers, changes her password, fails to change it with the old one, and is then told
apart from Bob, who takes the password that she has given up. -/
def changes : List Turn :=
  let quiet := Course.standing ⟨0⟩
  [.errand (.order (.register "alice" "Alice" "alice@example.com" "first")) quiet,
    .errand (.order (.updateUser "alice" ⟨none, none, some "first", some "second"⟩)) quiet,
    .errand (.order (.updateUser "alice" ⟨none, none, some "first", some "third"⟩)) quiet,
    .errand (.order (.register "bob" "Bob" "bob@example.com" "first")) quiet]

/-- After these turns Alice logs in with her second password only. -/
theorem login_accepts_current_password_after_changes :
    ((small.login "alice" "second" ⟨"", ""⟩).tryOut (.standing ⟨0⟩)
        (small.follow .empty changes)).1.isOk = true ∧
      ((small.login "alice" "first" ⟨"", ""⟩).tryOut (.standing ⟨0⟩)
        (small.follow .empty changes)).1 = .error .invalidCredentials := by
  have current :
      currentPassword? "alice" (small.passwordEvents .empty changes) = some "second" := by
    decide +kernel
  have inRange : ∀ met kind,
      (small.authority.expiry? ((Course.standing ⟨0⟩).answers met .clock) kind).isSome := by
    intro met kind
    cases kind <;> rfl
  have noSession : (small.follow .empty changes).session? ⟨0⟩ = none := by decide +kernel
  have unused : ∀ met, (small.follow .empty changes).session?
      ((Course.standing ⟨0⟩).answers met .freshId) = none := fun _ => noSession
  have tellsApart (password other hashed : String) (isHash : small.Hashes other hashed) :
      small.passwords.check password hashed = .ok (password == other) := by
    obtain ⟨-, -, rfl⟩ := isHash
    rfl
  have law := (login_accepts_current_password small tellsApart changes "alice").1
  refine ⟨(law "second" ⟨"", ""⟩ (.standing ⟨0⟩) (fun _ => rfl) inRange unused).1.mpr current, ?_⟩
  refine (law "first" ⟨"", ""⟩ (.standing ⟨0⟩) (fun _ => rfl) inRange unused).2 ?_
  rw [current]
  decide

end Bank

end Countinghouse
