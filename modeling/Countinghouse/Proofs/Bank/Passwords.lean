import Countinghouse.Proofs.Bank.Order
import Countinghouse.Proofs.Operation.FirstCall
import Countinghouse.Proofs.Store.Users

/-!
# Which password a change of the password needs

A change of the password reads the user, checks the old password against the hash that it read,
and writes the new hash later, without another look at the hash that it replaces. So the old
password is the one of the moment at which the user was read. That is also the one that is replaced
unless another call wrote a hash in between, and then it need not be: of two changes that read the
user before either writes, both succeed.
-/

namespace Countinghouse.Bank

variable {bank : Bank} {caller : String} {update : ProfileUpdate}

/-! ## The two calls of a change -/

/-- A change of the profile was checked against the user that was read, if it changes the password:
it writes a hash of the new password, and the old one is right for the user. -/
def Checked (bank : Bank) (update : ProfileUpdate) (seen : User) (hash : String) : Prop :=
  (∃ new salt, update.newPassword = some new ∧ hash = bank.passwords.hash salt new) ∧
    bank.passwords.check (update.oldPassword.getD "") seen.hashedPassword = .ok true

/-- The second call of a change of the profile: to write what was checked against the user that the
first one read. No call follows. -/
def Writes (bank : Bank) (caller : String) (update : ProfileUpdate) (seen : User) :
    (call : StoreCall) →
      (Except StoreError call.Reply → Operation (Except BankError User)) → Prop
  | .updateUser change, next => change.username = caller ∧
      (∀ hash, change.hashedPassword = some hash → bank.Checked update seen hash) ∧
      ∀ reply, (next reply).Ends fun _ => True
  | _, _ => False

/-- The first call of a change of the profile: to read the user. Without a user no call follows. -/
def Reads (bank : Bank) (caller : String) (update : ProfileUpdate) :
    (call : StoreCall) →
      (Except StoreError call.Reply → Operation (Except BankError User)) → Prop
  | .getUser username, next => username = caller ∧
      (∀ seen, (next (.ok (some seen))).FirstCall (bank.Writes caller update seen)) ∧
      (next (.ok none)).Ends fun _ => True
  | _, _ => False

theorem newHash_ends (current : User) :
    (bank.newHash caller current update).run.Ends fun result =>
      ∀ hash, result = .ok (some hash) → bank.Checked update current hash := by
  unfold newHash
  cases asked : update.newPassword with
  | none => rintro hash ⟨⟩
  | some new =>
      dsimp only
      cases checked : bank.passwords.check (update.oldPassword.getD "") current.hashedPassword with
      | error error => rintro hash ⟨⟩
      | ok isRight =>
          cases isRight with
          | false => rintro _ hash ⟨⟩
          | true =>
              intro salt
              cases bank.passwords.fault? new with
              | some text => rintro hash ⟨⟩
              | none =>
                  rintro hash ⟨⟩
                  exact ⟨⟨new, salt, asked, rfl⟩, checked⟩

theorem updateUser_reads (bank : Bank) (caller : String) (update : ProfileUpdate) :
    (bank.updateUser caller update).run.FirstCall (bank.Reads caller update) := by
  refine ⟨rfl, fun seen => ?_, trivial⟩
  change Operation.FirstCall _ (ExceptT.run (if update.email = some seen.email then
    refuseUpdate caller .emailSameAsOld >>= _ else _))
  by_cases sameEmail : update.email = some seen.email
  · rw [if_pos sameEmail]
    exact fun _ => trivial
  · rw [if_neg sameEmail]
    refine Operation.Ends.andThen_firstCall (newHash_ends seen) fun result checked => ?_
    cases result with
    | error error => trivial
    | ok hash =>
        refine ⟨rfl, fun new isNew => ?_, fun reply => ?_⟩
        · exact checked new (congrArg Except.ok isNew)
        · cases reply with
          | error error =>
              cases error with
              | uniqueViolation _ => exact fun _ => trivial
              | database _ | foreignKeyViolation _ | accountUnavailable _ | internal _ => trivial
          | ok found? =>
              cases found? with
              | none => trivial
              | some found => exact fun _ => trivial

/-! ## Where a change stands -/

/-- The task at a place waits for the store to answer a call that it makes for an order. -/
def Awaits (state : bank.service.State) (place : Nat) (order : Order) (call : StoreCall) : Prop :=
  ∃ next, state.tasks[place]? = some ⟨order, .ask (.store call) next⟩

/-- The order at a place has read a user: at some moment of the run the user was stored and the
order was at the call that reads the user. What was done since then is `between`. -/
def HasRead (deeds : List bank.service.Deed) (state : bank.service.State) (place : Nat)
    (order : Order) (username : String) (seen : User) (between : List bank.service.Deed) : Prop :=
  ∃ (earlier : List bank.service.Deed) (moment : bank.service.State) (now : Instant)
    (next : Except StoreError (Option User) → Operation (Except BankError order.Answer)),
    deeds = earlier ++ ⟨order, ⟨⟨now, .getUser username⟩, moment.tables⟩⟩ :: between ∧
      Service.Steps .idle earlier moment ∧
      moment.tasks[place]? = some ⟨order, .ask (.store (.getUser username)) next⟩ ∧
      moment.tables.user? username = some seen ∧
      Service.Steps
        ⟨moment.tables, moment.tasks.set place ⟨order, next (.ok (some seen))⟩⟩ between state

/-- What is left of a change of a profile: to read the user, or to write what was checked against
the user that was read, or nothing that concerns the store. -/
def Stage (bank : Bank) (deeds : List bank.service.Deed) (state : bank.service.State)
    (place : Nat) : (order : bank.service.Order) →
      Operation (bank.service.Result order) → Prop
  | .updateUser caller update, rest =>
    rest.FirstCall (bank.Reads caller update) ∨
      (∃ seen between, HasRead deeds state place (.updateUser caller update) caller seen between ∧
        rest.FirstCall (bank.Writes caller update seen)) ∨
      rest.Ends fun _ => True
  | _, _ => True

variable {deeds between : List bank.service.Deed} {state : bank.service.State} {place : Nat}

theorem HasRead.later {order : Order} {username : String} {seen : User}
    (hasRead : HasRead deeds state place order username seen between)
    {more : List bank.service.Deed} {last : bank.service.State}
    (steps : Service.Steps state more last) :
    HasRead (deeds ++ more) last place order username seen (between ++ more) := by
  obtain ⟨earlier, moment, now, next, rfl, reached, waiting, stored, goesOn⟩ := hasRead
  exact ⟨earlier, moment, now, next, by simp, reached, waiting, stored, goesOn.trans steps⟩

/-- A change goes on from one stage to the next by calls of its own. -/
theorem Stage.called {order : bank.service.Order} {call : StoreCall}
    {next : Except StoreError call.Reply → Operation (bank.service.Result order)} (now : Instant)
    (steps : Service.Steps .idle deeds state)
    (waiting : state.tasks[place]? = some ⟨order, .ask (.store call) next⟩)
    (stage : bank.Stage deeds state place order (.ask (.store call) next)) :
    bank.Stage (deeds ++ [⟨order, ⟨⟨now, call⟩, state.tables⟩⟩])
      ⟨(Tables.perform now call state.tables).2,
        state.tasks.set place ⟨order, next (Tables.perform now call state.tables).1⟩⟩
      place order (next (Tables.perform now call state.tables).1) := by
  unfold Stage at stage ⊢
  split
  case h_1 caller update rest =>
    rcases stage with reads | ⟨seen, between, -, writes⟩ | ends
    · cases call with
      | getUser username =>
          obtain ⟨rfl, found, missing⟩ := reads
          dsimp only [Tables.perform]
          cases stored : state.tables.user? username with
          | none => exact .inr (.inr missing)
          | some seen =>
              exact .inr (.inl ⟨seen, [], ⟨deeds, state, now, next, rfl, steps, waiting, stored,
                .refl⟩, found seen⟩)
      | _ => exact reads.elim
    · cases call with
      | updateUser change => exact .inr (.inr (writes.2.2 _))
      | _ => exact writes.elim
    · exact ends.elim
  case h_2 => trivial

theorem Stage.answered {order : bank.service.Order} {need : Need}
    {next : need.Answer → Operation (bank.service.Result order)} (answer : need.Answer)
    (outside : ∀ call, need ≠ .store call)
    (waiting : state.tasks[place]? = some ⟨order, .ask need next⟩)
    (stage : bank.Stage deeds state place order (.ask need next)) :
    bank.Stage deeds ⟨state.tables, state.tasks.set place ⟨order, next answer⟩⟩ place order
      (next answer) := by
  unfold Stage at stage ⊢
  split
  case h_1 caller update rest =>
    rcases stage with reads | ⟨seen, between, hasRead, writes⟩ | ends
    · exact .inl (reads.answer outside answer)
    · have later := hasRead.later (.answer answer outside waiting .refl)
      simp only [List.append_nil] at later
      exact .inr (.inl ⟨seen, between, later, writes.answer outside answer⟩)
    · exact .inr (.inr (ends.answer answer))
  case h_2 => trivial

/-- Others leave a change at its stage. -/
theorem Stage.passed {order : bank.service.Order} {rest : Operation (bank.service.Result order)}
    {more : List bank.service.Deed} {last : bank.service.State}
    (steps : Service.Steps state more last) (stage : bank.Stage deeds state place order rest) :
    bank.Stage (deeds ++ more) last place order rest := by
  unfold Stage at stage ⊢
  split
  case h_1 caller update rest =>
    rcases stage with reads | ⟨seen, between, hasRead, writes⟩ | ends
    · exact .inl reads
    · exact .inr (.inl ⟨seen, between ++ more, hasRead.later steps, writes⟩)
    · exact .inr (.inr ends)
  case h_2 => trivial

theorem stage_of_steps (steps : Service.Steps .idle deeds state) {task : bank.service.Task}
    (atPlace : state.tasks[place]? = some task) :
    bank.Stage deeds state place task.order task.rest := by
  refine steps.forall_place (fun order _ => ?_) Stage.called Stage.answered Stage.passed atPlace
  unfold Stage
  split
  case h_1 => exact .inl (updateUser_reads bank _ _)
  case h_2 => trivial

/-! ## What a change of the password needs -/

/-- The hash that was read is still stored, or it is one that was written since then. -/
theorem HasRead.stored {order : Order} {username : String} {seen row : User}
    (hasRead : HasRead deeds state place order username seen between)
    (stored : state.tables.user? username = some row) :
    row.hashedPassword = seen.hashedPassword ∨
      ∃ deed ∈ between, deed.access.call.WritesHash username row.hashedPassword := by
  obtain ⟨earlier, moment, now, next, rfl, -, -, seenThen, goesOn⟩ := hasRead
  obtain ⟨latest, isLatest, change⟩ :=
    Tables.follow_user (between.map Service.Deed.timed) seenThen
  rw [goesOn.tables_eq] at stored
  obtain rfl := Option.some.inj (stored.symm.trans isLatest)
  rcases change with unchanged | ⟨timed, member, writes⟩
  · exact .inl unchanged
  · obtain ⟨deed, inBetween, rfl⟩ := List.mem_map.mp member
    exact .inr ⟨deed, inBetween, writes⟩

/-- A password is changed only with the one that was read. In every run of the bank's orders, take
any call that is made for a change of a profile and that changes the stored password of a user. It
is the user who ordered the change. The order has read this user before at the same place of the
run, the new hash is one of the new password, and the old password is right for the hash that was
read. It is right for the hash that is replaced as well, unless some call wrote that one after the
user was read. -/
theorem password_is_changed_with_the_one_read {earlier later : List bank.service.Deed}
    {deed : bank.service.Deed} {state : bank.service.State}
    (steps : Service.Steps .idle (earlier ++ deed :: later) state)
    (isUpdate : deed.order = .updateUser caller update) {username : String} {row changed : User}
    (stored : deed.access.before.user? username = some row)
    (left : deed.access.after.user? username = some changed)
    (different : changed.hashedPassword ≠ row.hashedPassword) :
    username = caller ∧ ∃ place before seen between,
      Service.Steps .idle earlier before ∧ before.tables = deed.access.before ∧
      Awaits before place deed.order deed.access.call ∧
      HasRead earlier before place deed.order caller seen between ∧
      bank.Checked update seen changed.hashedPassword ∧
      (bank.passwords.check (update.oldPassword.getD "") row.hashedPassword = .ok true ∨
        ∃ writing ∈ between, writing.access.call.WritesHash caller row.hashedPassword) := by
  obtain ⟨order, ⟨⟨now, call⟩, found⟩⟩ := deed
  obtain rfl : order = .updateUser caller update := isUpdate
  obtain ⟨before, -, reached, rfl, ⟨next, waiting⟩, -⟩ := steps.at_deed
  obtain ⟨place, atPlace⟩ := List.mem_iff_getElem?.mp waiting
  obtain ⟨latest, isLatest, change⟩ :=
    (Tables.perform_effect now call before.tables).user_change stored
  obtain rfl := Option.some.inj (left.symm.trans isLatest)
  rcases change with unchanged | ⟨writing, rfl, rfl, isHash⟩
  · exact absurd unchanged different
  rcases stage_of_steps reached atPlace with reads | ⟨seen, between, hasRead, writes⟩ | ends
  · exact reads.elim
  · obtain ⟨rfl, checked, -⟩ := writes
    refine ⟨rfl, place, before, seen, between, reached, rfl, ⟨next, atPlace⟩, hasRead,
      checked _ isHash, ?_⟩
    rcases hasRead.stored stored with unchanged | written
    · exact .inl (unchanged ▸ (checked _ isHash).2)
    · exact .inr written
  · exact ends.elim

/-! ## A race -/

/-- What Alice wishes for: another password. -/
def wishFor (password : String) : ProfileUpdate := ⟨none, none, some "secret", some password⟩

/-- Alice registers and orders two changes of her password. Both read her before either writes. -/
def race : List small.service.Move :=
  [.order (Order.register "alice" "Alice" "alice@example.com" "secret")] ++ goOn [0, 0] ++
  [.order (Order.updateUser "alice" (wishFor "first")),
    .order (Order.updateUser "alice" (wishFor "second"))] ++ goOn [1, 2, 1, 2, 1, 2, 1, 2]

/-- Alice with a password that is kept as it is. -/
def alice (password : String) : User :=
  ⟨"alice", password, "Alice", "alice@example.com", ⟨0⟩, ⟨0⟩⟩

/-- The race ends with the second change, which replaces the password of the first. -/
theorem race_ends : ∃ earlier deed,
    ((.idle : small.service.State).play race).1 = earlier ++ [deed] ∧
      deed.order = Order.updateUser "alice" (wishFor "second") ∧
      deed.access.before.user? "alice" = some (alice "first") ∧
      deed.access.after.user? "alice" = some (alice "second") :=
  ⟨((.idle : small.service.State).play race).1.take 4, _, rfl, rfl, by decide +kernel,
    by decide +kernel⟩

/-- The old password of the race is not the one that the second change replaces. -/
theorem not_checked_in_race :
    small.passwords.check ((wishFor "second").oldPassword.getD "") (alice "first").hashedPassword ≠
      .ok true := by
  have isWrong : small.passwords.check ((wishFor "second").oldPassword.getD "")
      (alice "first").hashedPassword = .ok false := congrArg Except.ok (by decide)
  rw [isWrong]
  exact fun same => Bool.false_ne_true (Except.ok.inj same)

/-- In the race, the password that the second change replaces was written after the change had read
Alice with the password that it checked. -/
theorem password_is_changed_with_the_one_read_in_race :
    ∃ earlier before place seen between,
      @HasRead small earlier before place (.updateUser "alice" (wishFor "second")) "alice" seen
        between ∧
      small.Checked (wishFor "second") seen "second" ∧
      ∃ writing ∈ between, writing.access.call.WritesHash "alice" "first" := by
  obtain ⟨earlier, deed, ends, isUpdate, stored, left⟩ := race_ends
  have steps := Service.play_steps (.idle : small.service.State) race
  rw [ends] at steps
  obtain ⟨-, place, before, seen, between, -, -, -, hasRead, checked, verdict⟩ :=
    password_is_changed_with_the_one_read steps isUpdate stored left (by decide)
  exact ⟨earlier, before, place, seen, between, isUpdate ▸ hasRead, checked,
    verdict.resolve_left not_checked_in_race⟩

/-- Both changes of the race succeed with the same old password, and the second one replaces a
password that this is not. -/
theorem one_password_is_changed_twice :
    (∃ first second,
      ((.idle : small.service.State).play race).2.tasks[1]? =
        some ⟨Order.updateUser "alice" (wishFor "first"), .done (.ok first)⟩ ∧
      ((.idle : small.service.State).play race).2.tasks[2]? =
        some ⟨Order.updateUser "alice" (wishFor "second"), .done (.ok second)⟩) ∧
    ¬ ∀ (deeds : List small.service.Deed) (state : small.service.State),
        Service.Steps .idle deeds state → ∀ deed ∈ deeds, ∀ caller update row changed,
          deed.order = .updateUser caller update →
          deed.access.before.user? caller = some row →
          deed.access.after.user? caller = some changed →
          changed.hashedPassword ≠ row.hashedPassword →
          small.passwords.check (update.oldPassword.getD "") row.hashedPassword = .ok true := by
  refine ⟨⟨alice "first", alice "second", rfl, rfl⟩, fun claimed => ?_⟩
  obtain ⟨earlier, deed, ends, isUpdate, stored, left⟩ := race_ends
  have last : deed ∈ ((.idle : small.service.State).play race).1 := by simp [ends]
  exact not_checked_in_race (claimed _ _ (Service.play_steps .idle race) deed last "alice" _ _ _
    isUpdate stored left (by decide))

end Countinghouse.Bank
