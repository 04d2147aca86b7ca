import Countinghouse.Proofs.Bank.Errand
import Countinghouse.Proofs.Bank.Renewal
import Countinghouse.Proofs.Operation.FirstCall
import Countinghouse.Proofs.Store.Sessions
import Countinghouse.Proofs.Token.Authority

/-!
# A blocked session is blocked for good

A renewal makes one call of the store, which looks its session up. Everything is decided there:
if the session that is found is blocked, the renewal fails, whatever the clock says afterwards.
The store never unblocks a session. So once a session was blocked, every renewal that looks it up
fails, however the calls of different activities are mixed.
-/

namespace Countinghouse

namespace Bank

variable {bank : Bank}

/-! ## The one call of a renewal -/

/-- The session of a token is looked up, no call follows, and all is lost if the session is
blocked. -/
def LooksUp (bank : Bank) (token : String) : (call : StoreCall) →
    (Except StoreError call.Reply → Operation (Except BankError Renewal)) → Prop
  | .getSession id, next =>
    (∃ claims, bank.authority.read? token.toList = some claims ∧ claims.id = id) ∧
      (∀ reply, (next reply).Ends fun _ => True) ∧
      ∀ session : Session, session.isBlocked →
        (next (.ok (some session))).Ends fun result => ¬result.isOk
  | _, _ => False

theorem renew_looksUp (bank : Bank) (token : String) :
    (bank.renew token).run.FirstCall (bank.LooksUp token) := by
  rw [renew_eq]
  intro now
  change Operation.FirstCall _ (ExceptT.run (Attempt.ofExcept
    (bank.authority.verifyKind now token .refresh) >>= _))
  cases verified : bank.authority.verifyKind now token .refresh with
  | error error => trivial
  | ok claims =>
      have accepted := (Authority.verifyKind_eq_ok_iff.mp verified).1
      have isRead := (Authority.verify_eq_ok_iff.mp accepted).1
      refine ⟨⟨claims, isRead, rfl⟩, ?_, fun session isBlocked => ?_⟩
      · rintro (error | session?)
        · trivial
        · exact grant_ends token claims session?
      · exact grant_ends_of_isBlocked token claims isBlocked

/-! ## What is left of a renewal -/

/-- A renewal that goes on makes the one call that it may make. -/
def IsSound (bank : Bank) :
    (activity : bank.exposed.Order) → Operation (bank.exposed.Result activity) → Prop
  | .errand (.order (.renew token)), rest => rest.FirstCall (bank.LooksUp token)
  | _, _ => True

theorem isSound_answer {activity : bank.exposed.Order} {need : Need}
    {next : need.Answer → Operation (bank.exposed.Result activity)} (answer : need.Answer)
    (sound : bank.IsSound activity (.ask need next)) : bank.IsSound activity (next answer) := by
  unfold IsSound at sound ⊢
  split
  case h_1 token rest =>
    cases need with
    | store call =>
        cases call with
        | getSession id => exact (sound.2.1 answer).firstCall
        | _ => exact sound.elim
    | clock | freshId | freshSalt | report _ | ping => exact sound answer
  case h_2 => trivial

theorem isSound_of_steps {tables : Tables} {deeds : List bank.exposed.Deed}
    {state : bank.exposed.State} (steps : Service.Steps ⟨tables, []⟩ deeds state) :
    ∀ task ∈ state.tasks, bank.IsSound task.order task.rest := by
  refine steps.forall_task (fun activity => ?_) isSound_answer (by simp)
  unfold IsSound
  split
  · exact renew_looksUp bank _
  · trivial

/-- A task that looks up a blocked session comes to no good end, if this is what it makes of
such a session. -/
theorem rest_of_isBlocked {service : Service} {middle state : service.State}
    {deeds : List service.Deed} {place : Nat} {order : service.Order} {id : Uuid} {row : Session}
    {next : Except StoreError (Option Session) → Operation (service.Result order)}
    {bad : service.Result order → Prop}
    (waiting : middle.tasks[place]? = some ⟨order, .ask (.store (.getSession id)) next⟩)
    (refuses : ∀ session : Session, session.isBlocked → (next (.ok (some session))).Ends bad)
    (stored : middle.tables.session? id = some row) (isBlocked : row.isBlocked)
    (steps : Service.Steps middle deeds state) :
    ∃ rest, state.tasks[place]? = some ⟨order, rest⟩ ∧
      (rest = .ask (.store (.getSession id)) next ∨ rest.Ends bad) := by
  induction steps with
  | refl => exact ⟨_, waiting, .inl rfl⟩
  | @order deeds state order prior inductionHypothesis =>
      obtain ⟨rest, atPlace, isRest⟩ := inductionHypothesis
      have isOld : place < state.tasks.length := (List.getElem?_eq_some_iff.mp atPlace).1
      exact ⟨rest, by rw [List.getElem?_append_left isOld]; exact atPlace, isRest⟩
  | @call deeds state other otherOrder call otherNext now waits prior inductionHypothesis =>
      obtain ⟨rest, atPlace, isRest⟩ := inductionHypothesis
      by_cases same : other = place
      · subst same
        cases Option.some.inj (waits.symm.trans atPlace)
        have isOld : other < state.tasks.length := (List.getElem?_eq_some_iff.mp waits).1
        rcases isRest with isCall | ends
        · cases isCall
          obtain ⟨latest, found, -, stillBlocked⟩ :=
            Tables.follow_session (deeds.map Service.Deed.timed) stored
          rw [← prior.tables_eq] at found
          refine ⟨next (.ok (state.tables.session? id)), List.getElem?_set_self isOld, .inr ?_⟩
          rw [found]
          exact refuses latest (stillBlocked.mpr (.inl isBlocked))
        · exact ends.elim
      · exact ⟨rest, by rw [List.getElem?_set_ne same]; exact atPlace, isRest⟩
  | @answer deeds state other otherOrder need otherNext answer outside waits prior
      inductionHypothesis =>
      obtain ⟨rest, atPlace, isRest⟩ := inductionHypothesis
      by_cases same : other = place
      · subst same
        cases Option.some.inj (waits.symm.trans atPlace)
        have isOld : other < state.tasks.length := (List.getElem?_eq_some_iff.mp waits).1
        rcases isRest with isCall | ends
        · cases isCall
          exact absurd rfl (outside _)
        · exact ⟨_, List.getElem?_set_self isOld, .inr (ends.answer answer)⟩
      · exact ⟨rest, by rw [List.getElem?_set_ne same]; exact atPlace, isRest⟩

/-! ## Sessions are permanent -/

/-- A session that was stored is kept by what comes after. -/
theorem session_kept {middle state : bank.exposed.State} {later : List bank.exposed.Deed}
    (goesOn : Service.Steps middle later state) {id : Uuid} {row : Session}
    (stored : middle.tables.session? id = some row) :
    ∃ latest, state.tables.session? id = some latest ∧ row.Same latest ∧
      (row.isBlocked → latest.isBlocked) := by
  obtain ⟨latest, found, same, isBlocked_iff⟩ :=
    Tables.follow_session (later.map Service.Deed.timed) stored
  rw [← goesOn.tables_eq] at found
  exact ⟨latest, found, same, fun isBlocked => isBlocked_iff.mpr (.inl isBlocked)⟩

/-- A renewal only reads. -/
theorem renew_reads {tables : Tables} {deeds : List bank.exposed.Deed} {state : bank.exposed.State}
    (steps : Service.Steps ⟨tables, []⟩ deeds state) :
    ∀ deed ∈ deeds, ∀ token, deed.order = .errand (.order (.renew token)) →
      deed.access.after = deed.access.before := by
  intro deed member token isRenewal
  obtain ⟨earlier, later, rfl⟩ := List.append_of_mem member
  obtain ⟨before, -, reached, -, ⟨next, waiting⟩, -⟩ := steps.at_deed
  have sound := isSound_of_steps reached _ waiting
  obtain ⟨order, ⟨⟨now, call⟩, found⟩⟩ := deed
  obtain rfl : order = .errand (.order (.renew token)) := isRenewal
  cases call with
  | getSession id => rfl
  | _ => exact sound.elim

/-- The session that a call blocked is blocked in all that comes after. -/
theorem isBlocked_of_deed {start middle : bank.exposed.State} {deeds : List bank.exposed.Deed}
    (steps : Service.Steps start deeds middle) {deed : bank.exposed.Deed} (member : deed ∈ deeds)
    {id : Uuid} (blocked : deed.access.call.blocked? deed.access.reply = some id) :
    ∃ row, middle.tables.session? id = some row ∧ row.isBlocked := by
  obtain ⟨earlier, later, rfl⟩ := List.append_of_mem member
  obtain ⟨-, after, -, -, -, left, goesOn⟩ := steps.at_deed
  obtain ⟨row, stored, isBlocked⟩ := Tables.blocked_of_blocked? blocked
  obtain ⟨latest, found, -, stillBlocked⟩ := session_kept goesOn (left ▸ stored)
  exact ⟨latest, found, stillBlocked isBlocked⟩

/-- Sessions are permanent. Whatever the services of the bank and the store itself are asked for,
in any order and mixture: a session that is stored stays stored, and nothing about it changes
but that a call blocks it. A renewal changes no table. And when a session was blocked, no
renewal that has not looked it up by then succeeds. -/
theorem sessions_are_permanent {tables : Tables} {middle state : bank.exposed.State}
    {earlier later : List bank.exposed.Deed}
    (reached : Service.Steps ⟨tables, []⟩ earlier middle)
    (goesOn : Service.Steps middle later state) :
    (∀ id row, middle.tables.session? id = some row →
      ∃ latest, state.tables.session? id = some latest ∧ row.Same latest ∧
        (row.isBlocked → latest.isBlocked)) ∧
    (∀ deed ∈ later,
      (∀ id row, deed.access.before.session? id = some row →
        ∃ changed, deed.access.after.session? id = some changed ∧
          row.Change deed.access.call changed) ∧
      ∀ token, deed.order = .errand (.order (.renew token)) →
        deed.access.after = deed.access.before) ∧
    ∀ deed ∈ earlier, ∀ id, deed.access.call.blocked? deed.access.reply = some id →
      ∀ (place : Nat) (token : String) (call : StoreCall)
        (next : Except StoreError call.Reply → Operation (Except BankError Renewal))
        (claims : Claims),
        middle.tasks[place]? = some ⟨.errand (.order (.renew token)), .ask (.store call) next⟩ →
        bank.authority.read? token.toList = some claims → claims.id = id →
        ∀ renewal, state.tasks[place]? ≠
          some ⟨.errand (.order (.renew token)), .done (.ok renewal)⟩ := by
  refine ⟨fun id row stored => session_kept goesOn stored, fun deed member => ⟨?_, ?_⟩, ?_⟩
  · exact fun id row stored => Tables.session_change deed.access.now deed.access.call stored
  · exact renew_reads (reached.trans goesOn) deed (List.mem_append_right _ member)
  · rintro deed member id blocked place token call next claims waiting isRead rfl renewal isDone
    obtain ⟨row, stored, isBlocked⟩ := isBlocked_of_deed reached member blocked
    have sound := isSound_of_steps reached _ (List.mem_of_getElem? waiting)
    cases call with
    | getSession id =>
        obtain ⟨⟨found, isFound, rfl⟩, -, refuses⟩ := sound
        obtain rfl : claims = found := Option.some.inj (isRead.symm.trans isFound)
        obtain ⟨rest, atPlace, isRest⟩ :=
          rest_of_isBlocked waiting refuses stored isBlocked goesOn
        cases Option.some.inj (isDone.symm.trans atPlace)
        rcases isRest with isCall | ends
        · cases isCall
        · exact ends rfl
    | _ => exact sound.elim

/-- Alice's session is blocked when a renewal is about to look it up. The renewal fails. -/
theorem sessions_are_permanent_in_rehearsal :
    ∃ (deeds : List small.exposed.Deed) (middle : small.exposed.State) (next : _),
      Service.Steps ⟨aliceLoggedIn, []⟩ deeds middle ∧
      middle.tasks[0]? = some ⟨.errand (.order (.renew aliceToken)),
        .ask (.store (.getSession aliceClaims.id)) next⟩ ∧
      ∀ later state, Service.Steps middle later state → ∀ renewal,
        state.tasks[0]? ≠ some ⟨.errand (.order (.renew aliceToken)), .done (.ok renewal)⟩ := by
  have accepted : small.authority.verifyKind ⟨0⟩ aliceToken .refresh = .ok aliceClaims :=
    Authority.verifyKind_eq_ok_iff.mpr ⟨Authority.verify_eq_ok_iff.mpr
      ⟨read?_aliceToken, by decide, by decide⟩, rfl⟩
  obtain ⟨atStart, isRun, waits⟩ := small.renew_waits aliceToken
  obtain ⟨next, isNext⟩ := waits ⟨0⟩ aliceClaims accepted
  let order : small.exposed.Order := Activity.errand (.order (.renew aliceToken))
  have isProgram : small.exposed.program order = .ask .clock atStart := isRun
  have ordered : Service.Steps ⟨aliceLoggedIn, []⟩ [] ⟨aliceLoggedIn, [⟨order, _⟩]⟩ :=
    .order order .refl
  rw [isProgram] at ordered
  have waiting : ([⟨order, .ask .clock atStart⟩] : List small.exposed.Task)[0]? =
      some ⟨order, .ask .clock atStart⟩ := rfl
  have begun := Service.Steps.answer (⟨0⟩ : Instant) (by simp) waiting ordered
  rw [isNext] at begun
  have reached := begun.trans (exposed_call ⟨0⟩ (.blockSession aliceClaims.id) _)
  refine ⟨_, _, next, reached, rfl, fun later state goesOn => ?_⟩
  obtain ⟨-, -, refused⟩ := sessions_are_permanent reached goesOn
  exact refused _ (List.mem_singleton_self _) aliceClaims.id rfl 0 aliceToken _ next aliceClaims
    rfl read?_aliceToken rfl

end Bank

end Countinghouse
