import Countinghouse.Proofs.Store.Effect

/-!
# What becomes of a stored session

A session is stored for good. `Session.Change` lists what one call can do to its row, which is
one thing: to block it. Whether a session is blocked after some calls is then a question about
the calls, not about the tables.
-/

namespace Countinghouse

namespace Session

/-- The same session at two times: all but whether it is blocked is the same. -/
structure Same (row other : Session) : Prop where
  id : other.id = row.id
  username : other.username = row.username
  refreshToken : other.refreshToken = row.refreshToken
  client : other.client = row.client
  expiresAt : other.expiresAt = row.expiresAt
  createdAt : other.createdAt = row.createdAt

theorem Same.refl (row : Session) : row.Same row := ⟨rfl, rfl, rfl, rfl, rfl, rfl⟩

theorem Same.trans {first second third : Session} (earlier : first.Same second)
    (later : second.Same third) : first.Same third where
  id := later.id.trans earlier.id
  username := later.username.trans earlier.username
  refreshToken := later.refreshToken.trans earlier.refreshToken
  client := later.client.trans earlier.client
  expiresAt := later.expiresAt.trans earlier.expiresAt
  createdAt := later.createdAt.trans earlier.createdAt

/-- What a call does to the row of a session. -/
inductive Change (row : Session) : StoreCall → Session → Prop where
  | none {call : StoreCall} (other : call ≠ .blockSession row.id) : Change row call row
  | blocked : Change row (.blockSession row.id) { row with isBlocked := true }

theorem Change.same {row changed : Session} {call : StoreCall}
    (change : row.Change call changed) : row.Same changed := by
  cases change <;> exact ⟨rfl, rfl, rfl, rfl, rfl, rfl⟩

/-- A session is blocked after a call if it was before, or the call blocks it. -/
theorem Change.isBlocked_iff {row changed : Session} {call : StoreCall}
    (change : row.Change call changed) :
    changed.isBlocked ↔ row.isBlocked ∨ call = .blockSession row.id := by
  cases change with
  | none other => simp [other]
  | blocked => simp

end Session

namespace StoreCall

/-- The session that an answered call blocked, if it blocked one. -/
def blocked? : (call : StoreCall) → Except StoreError call.Reply → Option Uuid
  | .blockSession id, .ok true => some id
  | _, _ => none

end StoreCall

namespace Tables

theorem session?_some {tables : Tables} {id : Uuid} {session : Session}
    (stored : tables.session? id = some session) :
    session ∈ tables.sessions ∧ session.id = id :=
  ⟨List.mem_of_find?_eq_some stored, by simpa using List.find?_some stored⟩

/-- The row that is found after a session was blocked. -/
theorem find?_map_blocked (sessions : List Session) (id other : Uuid) :
    (sessions.map fun session =>
        if session.id == id then { session with isBlocked := true } else session).find?
        (·.id == other) =
      (sessions.find? (·.id == other)).map fun session =>
        if session.id == id then { session with isBlocked := true } else session := by
  refine find?_map_of_key (fun session => ?_) sessions other
  split <;> rfl

/-- A session that is opened is stored under its identifier. -/
theorem session?_createSession {now : Instant} {new : NewSession} {tables : Tables}
    {session : Session} (opened : (tables.createSession now new).1 = .ok session) :
    session = new.row now ∧ (tables.createSession now new).2.session? new.id = some session := by
  unfold createSession at opened ⊢
  split at opened
  case isTrue => cases opened
  case isFalse known =>
    split at opened
    case isTrue => cases opened
    case isFalse idIsNew =>
      obtain rfl := Except.ok.inj opened
      rw [if_neg known, if_neg idIsNew]
      refine ⟨rfl, ?_⟩
      have notBefore : tables.sessions.find? (·.id == new.id) = none := by
        simpa using idIsNew
      simp [session?, notBefore]

/-- A session is opened for a stored user under an identifier that no session has. -/
theorem createSession_of_new (now : Instant) {new : NewSession} {tables : Tables} {user : User}
    (stored : tables.user? new.username = some user) (unused : tables.session? new.id = none) :
    (tables.createSession now new).1 = .ok (new.row now) := by
  obtain ⟨member, isNamed⟩ := user?_some stored
  have known : tables.users.any (·.username == new.username) = true :=
    List.any_eq_true.mpr ⟨user, member, beq_iff_eq.mpr isNamed⟩
  have idIsNew : tables.sessions.any (·.id == new.id) = false := by
    simpa [session?] using unused
  unfold createSession
  rw [known, idIsNew]
  rfl

/-- A call leaves every stored session in its place. -/
theorem Effect.session_change {now : Instant} {before after : Tables} {call : StoreCall}
    {reply : Except StoreError call.Reply} (effect : Effect now before call reply after)
    {id : Uuid} {row : Session} (stored : before.session? id = some row)
    (other : call ≠ .blockSession id) : after.session? id = some row := by
  cases effect with
  | nothing | registered | updated | opened | deleted | restored | transferred => exact stored
  | admitted =>
      simp only [session?] at stored ⊢
      rw [List.find?_append, stored, Option.some_or]
  | @blocked blockedId =>
      obtain ⟨-, rfl⟩ := session?_some stored
      have passed : (row.id == blockedId) = false := by
        simp only [beq_eq_false_iff_ne, ne_eq]
        rintro rfl
        exact other rfl
      simp only [session?] at stored ⊢
      rw [find?_map_blocked, stored, Option.map_some, passed]
      rfl

/-- Blocking a stored session blocks it. -/
theorem session?_blockSession {tables : Tables} {id : Uuid} {row : Session}
    (stored : tables.session? id = some row) :
    (tables.blockSession id).2.session? id = some { row with isBlocked := true } := by
  obtain ⟨member, rfl⟩ := session?_some stored
  have known : tables.sessions.any (·.id == row.id) :=
    List.any_eq_true.mpr ⟨row, member, beq_self_eq_true row.id⟩
  unfold blockSession
  rw [if_pos known]
  simp only [session?] at stored ⊢
  rw [find?_map_blocked, stored, Option.map_some, beq_self_eq_true, if_pos rfl]

/-- A call leaves every stored session in its place, and does nothing to it but block it. -/
theorem session_change (now : Instant) (call : StoreCall) {tables : Tables} {id : Uuid}
    {row : Session} (stored : tables.session? id = some row) :
    ∃ changed, (perform now call tables).2.session? id = some changed ∧
      row.Change call changed := by
  obtain ⟨-, rfl⟩ := session?_some stored
  by_cases blocks : call = .blockSession row.id
  · subst blocks
    exact ⟨_, session?_blockSession stored, .blocked⟩
  · exact ⟨row, (tables.perform_effect now call).session_change stored blocks, .none blocks⟩

/-- After some calls a stored session is where it was, and it is blocked if it was before or one
of the calls blocks it. -/
theorem follow_session (calls : List TimedCall) {tables : Tables} {id : Uuid} {row : Session}
    (stored : tables.session? id = some row) :
    ∃ latest, (tables.follow calls).session? id = some latest ∧ row.Same latest ∧
      (latest.isBlocked ↔ row.isBlocked ∨ ∃ timed ∈ calls, timed.call = .blockSession id) := by
  induction calls generalizing tables row with
  | nil => exact ⟨row, stored, .refl row, by simp⟩
  | cons timed rest inductionHypothesis =>
      obtain ⟨-, rfl⟩ := session?_some stored
      obtain ⟨changed, found, change⟩ := session_change timed.now timed.call stored
      obtain ⟨latest, foundLast, same, isBlocked⟩ := inductionHypothesis found
      refine ⟨latest, foundLast, change.same.trans same, ?_⟩
      rw [isBlocked, change.isBlocked_iff]
      simp [or_assoc]

/-- Where a call answers that it blocked a session, that session is stored and blocked. -/
theorem blocked_of_blocked? {access : Access} {id : Uuid}
    (blocked : access.call.blocked? access.reply = some id) :
    ∃ row, access.after.session? id = some row ∧ row.isBlocked := by
  obtain ⟨⟨now, call⟩, before⟩ := access
  cases call with
  | blockSession other =>
      cases found : before.sessions.any (·.id == other) with
      | false => simp [Access.reply, perform, blockSession, found, StoreCall.blocked?] at blocked
      | true =>
          obtain rfl : other = id := by
            simpa [Access.reply, perform, blockSession, found, StoreCall.blocked?] using blocked
          obtain ⟨row, isRow⟩ := Option.isSome_iff_exists.mp
            (List.find?_isSome.mpr (List.any_eq_true.mp found))
          exact ⟨_, session?_blockSession isRow, rfl⟩
  | _ => cases blocked

end Tables

end Countinghouse
