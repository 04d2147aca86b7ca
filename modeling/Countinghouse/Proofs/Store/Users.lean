import Countinghouse.Proofs.Store.Effect

/-!
# What becomes of a stored password

A user is stored for good, under the name that was registered. The hash of the password is the
one that was stored first, or the one that some call wrote since then: `StoreCall.WritesHash`
says which calls write it.
-/

namespace Countinghouse

/-- The call writes a hash for the password of a user. -/
def StoreCall.WritesHash (call : StoreCall) (username hash : String) : Prop :=
  ∃ change, call = .updateUser change ∧ change.username = username ∧
    change.hashedPassword = some hash

namespace Tables

/-- A user who was created had a name that was new, and stands after the others. -/
theorem createUser_eq_ok {now : Instant} {new : NewUser} {tables : Tables} {user : User}
    (created : (tables.createUser now new).1 = .ok user) :
    (∀ row ∈ tables.users, row.username ≠ new.username) ∧
      (tables.createUser now new).2 = { tables with users := tables.users ++ [new.row now] } := by
  unfold createUser at created ⊢
  split at created
  case isTrue => cases created
  case isFalse nameIsNew =>
    split at created
    case isTrue => cases created
    case isFalse emailIsNew =>
      rw [if_neg nameIsNew, if_neg emailIsNew]
      exact ⟨by simpa using nameIsNew, rfl⟩

/-- A user who was updated was stored before, and all rows of that name are changed. -/
theorem updateUser_eq_ok {now : Instant} {change : UserChange} {tables : Tables} {user : User}
    (updated : (tables.updateUser now change).1 = .ok (some user)) :
    (∃ row, tables.user? change.username = some row) ∧
      (tables.updateUser now change).2 = { tables with users := tables.users.map fun row =>
        if row.username == change.username then changed now change row else row } := by
  unfold updateUser at updated ⊢
  split at updated
  case isTrue => cases updated
  case isFalse emailIsFree =>
    rw [if_neg emailIsFree]
    cases stored : tables.user? change.username with
    | none =>
        rw [stored] at updated
        cases updated
    | some row => exact ⟨⟨row, rfl⟩, rfl⟩

/-- The row that is found after a user was changed. -/
theorem find?_map_changed (users : List User) (now : Instant) (change : UserChange)
    (username : String) :
    (users.map fun row =>
        if row.username == change.username then changed now change row else row).find?
        (·.username == username) =
      (users.find? (·.username == username)).map fun row =>
        if row.username == change.username then changed now change row else row := by
  refine find?_map_of_key (fun row => ?_) users username
  split <;> rfl

/-- A call leaves every stored user in place, and the password as it is unless it writes another. -/
theorem Effect.user_change {now : Instant} {before after : Tables} {call : StoreCall}
    {reply : Except StoreError call.Reply} (effect : Effect now before call reply after)
    {username : String} {row : User} (stored : before.user? username = some row) :
    ∃ latest, after.user? username = some latest ∧
      (latest.hashedPassword = row.hashedPassword ∨
        call.WritesHash username latest.hashedPassword) := by
  cases effect with
  | nothing | opened | deleted | restored | transferred | admitted | blocked =>
      exact ⟨row, stored, .inl rfl⟩
  | registered =>
      refine ⟨row, ?_, .inl rfl⟩
      simp only [user?] at stored ⊢
      rw [List.find?_append, stored, Option.some_or]
  | @updated change user found emailIsFree =>
      have isNamed : row.username = username := by simpa using List.find?_some stored
      have latest := find?_map_changed before.users now change username
      simp only [user?] at stored ⊢
      rw [stored, Option.map_some] at latest
      refine ⟨_, latest, ?_⟩
      by_cases isChanged : row.username = change.username
      · rw [if_pos (beq_iff_eq.mpr isChanged)]
        cases hash : change.hashedPassword with
        | none => exact .inl (by simp [changed, hash])
        | some new =>
            exact .inr ⟨change, rfl, isChanged.symm.trans isNamed, by simp [changed, hash]⟩
      · exact .inl (by simp [isChanged])

/-- After some calls a stored user is in place, and the password is as it was or as one of the calls
wrote it. -/
theorem follow_user (calls : List TimedCall) {tables : Tables} {username : String} {row : User}
    (stored : tables.user? username = some row) :
    ∃ latest, (tables.follow calls).user? username = some latest ∧
      (latest.hashedPassword = row.hashedPassword ∨
        ∃ timed ∈ calls, timed.call.WritesHash username latest.hashedPassword) := by
  induction calls generalizing tables row with
  | nil => exact ⟨row, stored, .inl rfl⟩
  | cons timed rest inductionHypothesis =>
      obtain ⟨next, found, change⟩ :=
        (tables.perform_effect timed.now timed.call).user_change stored
      obtain ⟨latest, foundLast, isLatest⟩ := inductionHypothesis found
      refine ⟨latest, foundLast, ?_⟩
      rcases isLatest with unchanged | ⟨writing, member, writes⟩
      · rcases change with unchangedFirst | writesFirst
        · exact .inl (unchanged.trans unchangedFirst)
        · exact .inr ⟨timed, List.mem_cons_self, unchanged ▸ writesFirst⟩
      · exact .inr ⟨writing, List.mem_cons_of_mem _ member, writes⟩

end Tables

end Countinghouse
