import Countinghouse.Proofs.Sql.Database
import Countinghouse.Proofs.Store.UserUpdates
import Countinghouse.Sql.Users

/-!
# Updates of users in both stores

The store on a server leaves it to one statement to find the user, to change the row and to check
the email, so it keeps the agreement on updates always. The store in memory does not quite.
-/

namespace Countinghouse

variable {now : Instant} {change : UserChange} {tables : Tables}

theorem RowReader.run_user (record : User) : user.run record.row = .ok record := by
  refine (run_bind (run_text (by rfl))).trans ?_
  refine (run_bind (run_text (by rfl))).trans ?_
  refine (run_bind (run_text (by rfl))).trans ?_
  refine (run_bind (run_text (by rfl))).trans ?_
  refine (run_bind (run_instant (by rfl))).trans ?_
  exact run_bind (run_instant (by rfl))

namespace Database

/-! ## The statement -/

theorem assign_eq_changed (row : User) : assign now change row = Tables.changed now change row := by
  unfold assign Tables.changed
  cases change.hashedPassword <;> rfl

/-- Where no row has the username, nothing is set. -/
theorem updateUsers_of_missing (emails : (tables.users.map (·.email)).Nodup)
    (missing : change.username ∉ tables.usernames) :
    updateUsers now change tables = (.ok ⟨[], 0⟩, tables) := by
  have noneNamed : ∀ row ∈ tables.users, ¬(row.username == change.username) = true :=
    fun row stored named => missing (List.mem_map.mpr ⟨row, stored, beq_iff_eq.mp named⟩)
  have unchanged : (tables.users.map fun row =>
      if row.username == change.username then assign now change row else row) = tables.users :=
    (List.map_congr_left fun row stored => if_neg (noneNamed row stored)).trans (List.map_id' _)
  have noneFound : tables.users.filter (·.username == change.username) = [] :=
    List.filter_eq_nil_iff.mpr noneNamed
  unfold updateUsers
  simp only [unchanged, if_pos emails, noneFound, List.map_nil, List.length_nil]

/-- Where the email is another user's, the key is violated. -/
theorem updateUsers_of_held (stored : change.username ∈ tables.usernames)
    (held : tables.EmailHeld change) :
    updateUsers now change tables = (.error (.keyViolated "users_email_key"), tables) := by
  obtain ⟨row, rowStored, named⟩ := List.mem_map.mp stored
  obtain ⟨other, otherStored, isOther, isEmail⟩ := held
  unfold updateUsers
  refine if_neg fun distinct => ?_
  -- The row of the user would have the email that the other row has and keeps.
  rw [List.map_map] at distinct
  have sameRow : row = other := by
    refine List.inj_on_of_nodup_map distinct rowStored otherStored ?_
    simp only [Function.comp_apply]
    rw [if_pos (beq_iff_eq.mpr named), if_neg (by simpa using isOther)]
    simp [assign, isEmail]
  exact isOther (sameRow ▸ named)

theorem updateUsers_of_row (distinct : tables.usernames.Nodup)
    (emails : (tables.users.map (·.email)).Nodup) {row : User} (stored : row ∈ tables.users)
    (named : row.username = change.username) (notHeld : ¬tables.EmailHeld change) :
    updateUsers now change tables =
      (.ok ⟨[(Tables.changed now change row).row], 1⟩,
        tables.replaceUser (Tables.changed now change row)) := by
  have emailIsFree : tables.emailTaken change = false :=
    Bool.eq_false_of_not_eq_true (mt Tables.emailTaken_iff.mp notHeld)
  have found : tables.users.filter (·.username == change.username) = [row] := by
    rw [filter_eq_toList_of_nodup distinct,
      (find?_eq_some_iff_of_nodup distinct).mpr ⟨stored, named⟩, Option.toList_some]
  unfold updateUsers
  simp only [assign_eq_changed]
  rw [if_pos (Tables.nodup_map_email_changed now distinct emails emailIsFree), found,
    Tables.map_changed distinct stored named]
  rfl

end Database

namespace Sql

variable {others : Statement → Tables → Except ServerError SqlOutcome × Tables}

/-! ## The call -/

/-- Updating a user is one statement. -/
theorem backend_updateUser (serverNow : Instant) : backend
    (Database.serve (Database.executeUsers others now) serverNow) (.updateUser change)
      ⟨tables, .none⟩ =
        (RowReader.user.first? ((Database.updateUsers now change tables).1.mapError .server),
          ⟨(Database.updateUsers now change tables).2, .none⟩) :=
  Query.runOn_fetch? _ _ _ _

/-- On a server, a user is updated as agreed. -/
theorem updatesUser_backend (serverNow : Instant) (distinct : tables.usernames.Nodup)
    (emails : (tables.users.map (·.email)).Nodup) : ∃ result after,
      backend (Database.serve (Database.executeUsers others now) serverNow) (.updateUser change)
        ⟨tables, .none⟩ = (result, ⟨after, .none⟩) ∧
      Tables.UpdatesUser now change tables result after := by
  refine ⟨_, _, backend_updateUser serverNow, ?_⟩
  by_cases stored : change.username ∈ tables.usernames
  · by_cases held : tables.EmailHeld change
    · rw [Database.updateUsers_of_held stored held]
      exact .of_held stored held "users_email_key"
    · obtain ⟨row, rowStored, named⟩ := List.mem_map.mp stored
      rw [Database.updateUsers_of_row distinct emails rowStored named held]
      have isRead : RowReader.user.first?
          (.ok ⟨[(Tables.changed now change row).row], 1⟩) =
            .ok (some (Tables.changed now change row)) := by
        simp only [RowReader.first?, RowReader.run_user]
        rfl
      rw [Except.mapError, isRead]
      exact .of_revised rowStored named held (Tables.revised_changed row)
  · rw [Database.updateUsers_of_missing emails stored]
    exact .of_missing stored

/-! ## Both stores -/

/-- Where users are updated as agreed.

After any calls, the store in memory updates a user as agreed exactly if the user is stored or the
email of the change is not another user's; where neither holds, it reports the email, and the tables
stay as they are. The store on a server, whose rows have usernames and emails that are unique, as
the schema asks for, updates a user as agreed whatever the change is. -/
theorem user_is_updated_as_agreed_iff (now : Instant) (change : UserChange) :
    (∀ calls : List TimedCall,
      let tables := Tables.after calls
      let answered := Tables.perform now (.updateUser change) tables
      (Tables.UpdatesUser now change tables answered.1 answered.2 ↔
        change.username ∈ tables.usernames ∨ ¬tables.EmailHeld change) ∧
      (change.username ∉ tables.usernames → tables.EmailHeld change →
        answered = (.error (.uniqueViolation "users_email_key"), tables))) ∧
    ∀ (others : Statement → Tables → Except ServerError SqlOutcome × Tables) (tables : Tables),
      tables.usernames.Nodup → (tables.users.map (·.email)).Nodup → ∃ result after,
        backend (Database.serve (Database.executeUsers others now) now) (.updateUser change)
          ⟨tables, .none⟩ = (result, ⟨after, .none⟩) ∧
        Tables.UpdatesUser now change tables result after := by
  constructor
  · intro calls
    have constrained := Tables.constrained_after calls
    exact ⟨Tables.updatesUser_updateUser_iff constrained.usernames,
      fun _ held => Tables.updateUser_of_held held⟩
  · intro others tables distinct emails
    exact updatesUser_backend now distinct emails

/-- Bob registers. -/
def registration : List TimedCall := [⟨⟨0⟩, .createUser ⟨"bob", "", "B", "b@b.c"⟩⟩]

/-- A change of Bob's password, in which he gives the email that he has. -/
def bobsChange : UserChange := ⟨"bob", none, some "b@b.c", some "h"⟩

/-- Bob's email, asked for by somebody who is not registered. -/
def strangersChange : UserChange := ⟨"ghost", none, some "b@b.c", none⟩

/-- Bob is updated as agreed in both stores. -/
theorem user_is_updated_as_agreed_for_bob :
    let tables := Tables.after registration
    (tables.usernames.Nodup ∧ (tables.users.map (·.email)).Nodup) ∧
      Tables.UpdatesUser ⟨9⟩ bobsChange tables
        (.ok (some ⟨"bob", "h", "B", "b@b.c", ⟨9⟩, ⟨0⟩⟩))
        (tables.replaceUser ⟨"bob", "h", "B", "b@b.c", ⟨9⟩, ⟨0⟩⟩) ∧
      ∃ result after,
        backend (Database.serve
            (Database.executeUsers (fun _ tables => (.error .aborted, tables)) ⟨9⟩) ⟨9⟩)
          (.updateUser bobsChange) ⟨tables, .none⟩ = (result, ⟨after, .none⟩) ∧
        Tables.UpdatesUser ⟨9⟩ bobsChange tables result after := by
  intro tables
  obtain ⟨inMemory, onServer⟩ := user_is_updated_as_agreed_iff ⟨9⟩ bobsChange
  have distinct : tables.usernames.Nodup := by decide +kernel
  have emails : (tables.users.map (·.email)).Nodup := by decide +kernel
  have isAnswered : Tables.perform ⟨9⟩ (.updateUser bobsChange) tables =
      (.ok (some ⟨"bob", "h", "B", "b@b.c", ⟨9⟩, ⟨0⟩⟩),
        tables.replaceUser ⟨"bob", "h", "B", "b@b.c", ⟨9⟩, ⟨0⟩⟩) := by decide +kernel
  have asAgreed := (inMemory registration).1.mpr (.inl (by decide +kernel))
  rw [isAnswered] at asAgreed
  exact ⟨⟨distinct, emails⟩, asAgreed, onServer _ tables distinct emails⟩

/-- A missing user is not reported as missing by the store in memory, but is by the one on a
server. -/
theorem missing_user_is_not_reported :
    let tables := Tables.after registration
    strangersChange.username ∉ tables.usernames ∧
      (Tables.perform ⟨9⟩ (.updateUser strangersChange) tables).1 =
        .error (.uniqueViolation "users_email_key") ∧
      (backend (Database.serve
          (Database.executeUsers (fun _ tables => (.error .aborted, tables)) ⟨9⟩) ⟨9⟩)
        (.updateUser strangersChange) ⟨tables, .none⟩).1 = .ok none ∧
      ¬∀ (calls : List TimedCall) (now : Instant) (change : UserChange),
        Tables.UpdatesUser now change (Tables.after calls)
          (Tables.perform now (.updateUser change) (Tables.after calls)).1
          (Tables.perform now (.updateUser change) (Tables.after calls)).2 := by
  intro tables
  have missing : strangersChange.username ∉ tables.usernames := by decide +kernel
  have isReported : (Tables.perform ⟨9⟩ (.updateUser strangersChange) tables).1 =
      .error (.uniqueViolation "users_email_key") := by decide +kernel
  refine ⟨missing, isReported, by decide +kernel, fun claimed => ?_⟩
  have isMissing := (claimed registration ⟨9⟩ strangersChange).missing_iff.mpr missing
  cases isReported.symm.trans isMissing

end Sql

end Countinghouse
