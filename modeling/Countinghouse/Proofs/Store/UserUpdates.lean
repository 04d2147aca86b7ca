import Countinghouse.Proofs.Store.Constraints
import Countinghouse.Proofs.Store.Users

/-!
# What is agreed on updates of users

`Tables.UpdatesUser` is what a store owes to those who have it update a user: nothing is found when
there is no such user, an email that is another user's is refused, and otherwise the given fields of
that user are changed and nothing else is. The store in memory looks at the email first. So it keeps
the agreement except where the user is missing and the email is another user's, and then it reports
the email.
-/

namespace Countinghouse

/-- The row of a user before and after a change. -/
structure User.Revised (now : Instant) (change : UserChange) (row revised : User) : Prop where
  username : revised.username = row.username
  createdAt : revised.createdAt = row.createdAt
  fullName : revised.fullName = change.fullName.getD row.fullName
  email : revised.email = change.email.getD row.email
  hashedPassword : revised.hashedPassword = change.hashedPassword.getD row.hashedPassword
  passwordChangedAt : revised.passwordChangedAt =
    if change.hashedPassword.isSome then now else row.passwordChangedAt

namespace Tables

variable {now : Instant} {change : UserChange} {tables : Tables}

/-- The email that a change asks for is that of a different user. -/
def EmailHeld (tables : Tables) (change : UserChange) : Prop :=
  ∃ other ∈ tables.users, other.username ≠ change.username ∧ change.email = some other.email

/-- The tables with another row for a user. -/
def replaceUser (tables : Tables) (revised : User) : Tables :=
  { tables with
    users := tables.users.map fun row => if row.username = revised.username then revised else row }

/-- A user is updated as agreed. -/
structure UpdatesUser (now : Instant) (change : UserChange) (before : Tables)
    (result : Except StoreError (Option User)) (after : Tables) : Prop where
  /-- Nothing is found exactly if there is no such user. -/
  missing_iff : result = .ok none ↔ change.username ∉ before.usernames
  /-- A key is reported exactly if the email of the change is that of a different user. -/
  held_iff : (∃ constraint, result = .error (.uniqueViolation constraint)) ↔
    change.username ∈ before.usernames ∧ before.EmailHeld change
  untouched : change.username ∉ before.usernames ∨ before.EmailHeld change → after = before
  /-- Otherwise the row of the user is replaced, and all other rows stay as they are. -/
  revised : change.username ∈ before.usernames → ¬before.EmailHeld change →
    ∃ row revised, row ∈ before.users ∧ row.username = change.username ∧
      row.Revised now change revised ∧ result = .ok (some revised) ∧
      after = before.replaceUser revised

/-! ## The three cases -/

namespace UpdatesUser

theorem of_missing (missing : change.username ∉ tables.usernames) :
    UpdatesUser now change tables (.ok none) tables where
  missing_iff := ⟨fun _ => missing, fun _ => rfl⟩
  held_iff := by
    constructor
    · rintro ⟨_, ⟨⟩⟩
    · rintro ⟨stored, -⟩
      exact absurd stored missing
  untouched _ := rfl
  revised stored := absurd stored missing

theorem of_held (stored : change.username ∈ tables.usernames) (held : tables.EmailHeld change)
    (constraint : String) :
    UpdatesUser now change tables (.error (.uniqueViolation constraint)) tables where
  missing_iff := by
    constructor
    · rintro ⟨⟩
    · intro missing
      exact absurd stored missing
  held_iff := ⟨fun _ => ⟨stored, held⟩, fun _ => ⟨constraint, rfl⟩⟩
  untouched _ := rfl
  revised _ notHeld := absurd held notHeld

theorem of_revised {row revised : User} (stored : row ∈ tables.users)
    (named : row.username = change.username) (notHeld : ¬tables.EmailHeld change)
    (isRevised : row.Revised now change revised) :
    UpdatesUser now change tables (.ok (some revised)) (tables.replaceUser revised) := by
  have isThere : change.username ∈ tables.usernames := List.mem_map.mpr ⟨row, stored, named⟩
  constructor
  case missing_iff =>
    constructor
    · rintro ⟨⟩
    · intro missing
      exact absurd isThere missing
  case held_iff =>
    constructor
    · rintro ⟨_, ⟨⟩⟩
    · rintro ⟨-, held⟩
      exact absurd held notHeld
  case untouched =>
    rintro (missing | held)
    · exact absurd isThere missing
    · exact absurd held notHeld
  case revised =>
    intro _ _
    exact ⟨row, revised, stored, named, isRevised, rfl, rfl⟩

end UpdatesUser

/-! ## In memory -/

theorem emailTaken_iff : tables.emailTaken change = true ↔ tables.EmailHeld change := by
  unfold emailTaken EmailHeld
  cases change.email with
  | none => simp
  | some email =>
      dsimp only
      rw [List.any_eq_true]
      refine exists_congr fun other => and_congr_right fun _ => ?_
      rw [Bool.and_eq_true, beq_iff_eq, bne_iff_ne, Option.some_inj, and_comm, eq_comm (a := email)]

theorem revised_changed (row : User) : row.Revised now change (changed now change row) :=
  ⟨rfl, rfl, rfl, rfl, rfl, rfl⟩

/-- Where a username is given once, changing its rows is replacing one. -/
theorem map_changed (distinct : tables.usernames.Nodup) {row : User} (stored : row ∈ tables.users)
    (named : row.username = change.username) :
    { tables with users := tables.users.map fun other =>
      if other.username == change.username then changed now change other else other } =
        tables.replaceUser (changed now change row) := by
  have isName : (changed now change row).username = change.username := named
  have sameUsers : (tables.users.map fun other =>
      if other.username == change.username then changed now change other else other) =
        (tables.replaceUser (changed now change row)).users := by
    refine List.map_congr_left fun other otherStored => ?_
    rw [isName]
    by_cases isNamed : other.username = change.username
    · obtain rfl := List.inj_on_of_nodup_map distinct otherStored stored (isNamed.trans named.symm)
      rw [if_pos (beq_iff_eq.mpr isNamed), if_pos isNamed]
    · rw [if_neg (by simpa using isNamed), if_neg isNamed]
  rw [sameUsers]
  rfl

theorem user?_eq_none_iff : tables.user? change.username = none ↔
    change.username ∉ tables.usernames := by
  simp [user?, usernames]

/-- The email is looked at first. -/
theorem updateUser_of_held (held : tables.EmailHeld change) :
    tables.updateUser now change = (.error (.uniqueViolation "users_email_key"), tables) := by
  unfold updateUser
  rw [if_pos (emailTaken_iff.mpr held)]

/-- Where the user is stored or the email is free, a user is updated in memory as agreed. -/
theorem updatesUser_updateUser (distinct : tables.usernames.Nodup)
    (unlessBoth : change.username ∈ tables.usernames ∨ ¬tables.EmailHeld change) :
    UpdatesUser now change tables (tables.updateUser now change).1
      (tables.updateUser now change).2 := by
  by_cases held : tables.EmailHeld change
  · rw [updateUser_of_held held]
    exact .of_held (unlessBoth.resolve_right (not_not_intro held)) held _
  · unfold updateUser
    rw [if_neg (mt emailTaken_iff.mp held)]
    cases found : tables.user? change.username with
    | none => exact .of_missing (user?_eq_none_iff.mp found)
    | some row =>
        obtain ⟨stored, named⟩ := (find?_eq_some_iff_of_nodup distinct).mp found
        dsimp only
        rw [map_changed distinct stored named]
        exact .of_revised stored named held (revised_changed row)

/-- In memory, an update keeps the agreement unless the user is missing and the email is another
user's. -/
theorem updatesUser_updateUser_iff (distinct : tables.usernames.Nodup) :
    UpdatesUser now change tables (tables.updateUser now change).1
        (tables.updateUser now change).2 ↔
      (change.username ∈ tables.usernames ∨ ¬tables.EmailHeld change) := by
  constructor
  · intro updates
    by_cases held : tables.EmailHeld change
    · have isReported := updates.held_iff.mp
      rw [updateUser_of_held held] at isReported
      exact .inl (isReported ⟨_, rfl⟩).1
    · exact .inr held
  · exact updatesUser_updateUser distinct

end Tables

end Countinghouse
