import Countinghouse.Operation
import Countinghouse.Store.Tables

/-!
# Operations among others

While an operation waits for its turn, other operations call the store. What an operation
knows about the tables is then only what the others leave as it is. `Operation.Guarded`
judges an operation under this: `keeps` says how the tables may change while the operation
waits, and the operation has to make permitted calls only, however long it waits before
each and whatever the clock and the other surroundings answer. The judgement is a
recursion over the tree of needs, and one rule for each way to build an operation follows.
-/

namespace Countinghouse

variable {keeps : Tables → Tables → Prop} {permits : Tables → StoreCall → Prop} {α β : Type}

namespace Operation

/-- Every call the operation makes is permitted by the tables that it finds, and when the
operation is done, `post` holds of the tables and its value. -/
def Guarded (keeps : Tables → Tables → Prop) (permits : Tables → StoreCall → Prop) {α : Type} :
    Operation α → (Tables → α → Prop) → Tables → Prop
  | .done value, post, tables => post tables value
  | .ask (.store call) next, post, tables =>
    ∀ later, keeps tables later → permits later call ∧
      ∀ now, (next (Tables.perform now call later).1).Guarded keeps permits post
        (Tables.perform now call later).2
  | .ask _ next, post, tables => ∀ answer, (next answer).Guarded keeps permits post tables

/-- A need of other surroundings than the store leaves the tables alone, whatever the
answer is. -/
theorem guarded_ask_outside {need : Need} {next : need.Answer → Operation α}
    {post : Tables → α → Prop} {tables : Tables} (outside : ∀ call, need ≠ .store call) :
    (Operation.ask need next).Guarded keeps permits post tables ↔
      ∀ answer, (next answer).Guarded keeps permits post tables := by
  cases need with
  | store call => exact absurd rfl (outside call)
  | clock | freshId | freshSalt | report _ | ping => exact Iff.rfl

/-- One operation after another is guarded when the second is guarded wherever the first
one can leave it. -/
theorem guarded_andThen (operation : Operation α) (next : α → Operation β)
    (post : Tables → β → Prop) (tables : Tables) :
    (operation.andThen next).Guarded keeps permits post tables ↔
      operation.Guarded keeps permits
        (fun tables value => (next value).Guarded keeps permits post tables) tables := by
  induction operation generalizing tables with
  | done value => exact Iff.rfl
  | ask need rest inductionHypothesis =>
      cases need with
      | store call =>
          exact forall_congr' fun later => imp_congr_right fun _ => and_congr_right fun _ =>
            forall_congr' fun now => inductionHypothesis _ _
      | clock | freshId | freshSalt | report _ | ping =>
          exact forall_congr' fun answer => inductionHypothesis answer tables

/-- A weaker end is reached as well. -/
theorem Guarded.mono {operation : Operation α} {post weaker : Tables → α → Prop} {tables : Tables}
    (guarded : operation.Guarded keeps permits post tables)
    (implies : ∀ tables value, post tables value → weaker tables value) :
    operation.Guarded keeps permits weaker tables := by
  induction operation generalizing tables with
  | done value => exact implies tables value guarded
  | ask need rest inductionHypothesis =>
      cases need with
      | store call =>
          intro later kept
          exact ⟨(guarded later kept).1, fun now => inductionHypothesis _ ((guarded later kept).2 now)⟩
      | clock | freshId | freshSalt | report _ | ping =>
          exact fun answer => inductionHypothesis answer (guarded answer)

/-- An operation stays guarded while it waits. -/
theorem Guarded.wait {operation : Operation α} {post : Tables → α → Prop} {tables later : Tables}
    (transitive : ∀ {first second third}, keeps first second → keeps second third →
      keeps first third)
    (stable : ∀ {tables later value}, keeps tables later → post tables value → post later value)
    (guarded : operation.Guarded keeps permits post tables) (kept : keeps tables later) :
    operation.Guarded keeps permits post later := by
  induction operation generalizing tables later with
  | done value => exact stable kept guarded
  | ask need rest inductionHypothesis =>
      cases need with
      | store call => exact fun latest keptAgain => guarded latest (transitive kept keptAgain)
      | clock | freshId | freshSalt | report _ | ping =>
          exact fun answer => inductionHypothesis answer (guarded answer) kept

end Operation

namespace Attempt

/-- The attempt is guarded as an operation, and if it succeeds, `post` holds of the tables
and its value. -/
def Guarded (keeps : Tables → Tables → Prop) (permits : Tables → StoreCall → Prop)
    (attempt : Attempt α) (post : Tables → α → Prop) (tables : Tables) : Prop :=
  Operation.Guarded keeps permits attempt.run
    (fun tables result => ∀ value, result = .ok value → post tables value) tables

variable {post : Tables → α → Prop} {tables : Tables}

/-- A guarded attempt whose end is of no interest. -/
theorem Guarded.forget {attempt : Attempt α} (guarded : attempt.Guarded keeps permits post tables) :
    Operation.Guarded keeps permits attempt.run (fun _ _ => True) tables :=
  Operation.Guarded.mono guarded fun _ _ _ => trivial

@[simp] theorem guarded_pure {value : α} :
    Guarded keeps permits (pure value) post tables ↔ post tables value := by
  constructor
  · intro guarded
    exact guarded value rfl
  · rintro holds _ ⟨⟩
    exact holds

@[simp] theorem guarded_throw {error : BankError} :
    Guarded keeps permits (throw error) post tables := by
  rintro _ ⟨⟩

@[simp] theorem guarded_reject {event : Event} {error : BankError} :
    Guarded keeps permits (reject event error) post tables := by
  rintro _ _ ⟨⟩

@[simp] theorem guarded_report {event : Event} {post : Tables → Unit → Prop} :
    Guarded keeps permits (report event) post tables ↔ post tables () := by
  constructor
  · intro guarded
    exact guarded () () rfl
  · rintro holds _ _ ⟨⟩
    exact holds

@[simp] theorem guarded_ofExcept {result : Except BankError α} :
    Guarded keeps permits (ofExcept result) post tables ↔
      ∀ value, result = .ok value → post tables value :=
  Iff.rfl

/-- One attempt after another is guarded when the second is guarded wherever the first one
can leave it with a value. -/
@[simp] theorem guarded_bind {attempt : Attempt α} {next : α → Attempt β} {post : Tables → β → Prop} :
    Guarded keeps permits (attempt >>= next) post tables ↔
      attempt.Guarded keeps permits
        (fun tables value => (next value).Guarded keeps permits post tables) tables := by
  refine (Operation.guarded_andThen attempt.run _ _ tables).trans ?_
  constructor
  · intro guarded
    refine guarded.mono fun tables result inner value isValue => ?_
    subst isValue
    exact inner
  · intro guarded
    refine guarded.mono fun tables result inner => ?_
    cases result with
    | ok value => exact inner value rfl
    | error error => rintro _ ⟨⟩

/-- What comes after a check that fails with a report may count on the check. -/
@[simp] theorem guarded_refuse {condition : Prop} [Decidable condition] {event : Event}
    {error : BankError} {next : β → Attempt α} {rest : Attempt α} :
    Guarded keeps permits (if condition then reject event error >>= next else rest) post tables ↔
      (¬condition → rest.Guarded keeps permits post tables) := by
  by_cases holds : condition <;> simp [holds]

@[simp] theorem guarded_map {attempt : Attempt α} {change : α → β} {post : Tables → β → Prop} :
    Guarded keeps permits (change <$> attempt) post tables ↔
      attempt.Guarded keeps permits (fun tables value => post tables (change value)) tables := by
  rw [map_eq_pure_bind, guarded_bind]
  simp only [guarded_pure]

/-- What follows from the end of an attempt may be used after it. -/
theorem Guarded.mono {attempt : Attempt α} {weaker : Tables → α → Prop}
    (guarded : attempt.Guarded keeps permits post tables)
    (implies : ∀ tables value, post tables value → weaker tables value) :
    attempt.Guarded keeps permits weaker tables :=
  Operation.Guarded.mono guarded fun tables _ holds value isValue =>
    implies tables value (holds value isValue)

/-- What other surroundings than the store answer tells nothing about the tables. -/
theorem guarded_lift_need {need : Need} {post : Tables → need.Answer → Prop}
    (outside : ∀ call, need ≠ .store call) :
    Guarded keeps permits (ExceptT.lift (Operation.need need)) post tables ↔
      ∀ answer, post tables answer := by
  refine (Operation.guarded_ask_outside outside).trans (forall_congr' fun answer => ?_)
  constructor
  · intro guarded
    exact guarded answer rfl
  · rintro holds _ ⟨⟩
    exact holds

@[simp] theorem guarded_now {post : Tables → Instant → Prop} :
    Guarded keeps permits (ExceptT.lift Operation.now) post tables ↔
      ∀ instant, post tables instant :=
  guarded_lift_need (by simp)

@[simp] theorem guarded_freshId {post : Tables → Uuid → Prop} :
    Guarded keeps permits (ExceptT.lift Operation.freshId) post tables ↔
      ∀ id, post tables id :=
  guarded_lift_need (by simp)

@[simp] theorem guarded_freshSalt {post : Tables → List UInt8 → Prop} :
    Guarded keeps permits (ExceptT.lift Operation.freshSalt) post tables ↔
      ∀ salt, post tables salt :=
  guarded_lift_need (by simp)

/-- A call that has to succeed. -/
@[simp] theorem guarded_call {call : StoreCall} {post : Tables → call.Reply → Prop} :
    @Guarded (no_index call.Reply) keeps permits (Attempt.call call) post tables ↔
      ∀ later, keeps tables later → permits later call ∧
        ∀ now reply, (Tables.perform now call later).1 = .ok reply →
          post (Tables.perform now call later).2 reply := by
  refine forall_congr' fun later => imp_congr_right fun _ => and_congr_right fun _ =>
    forall_congr' fun now => ?_
  generalize Tables.perform now call later = answered
  obtain ⟨answer, after⟩ := answered
  cases answer with
  | ok reply =>
      constructor
      · intro guarded value isValue
        exact guarded value (Except.ok.inj isValue ▸ rfl)
      · intro holds value isValue
        exact holds value (Except.ok.inj isValue ▸ rfl)
  | error error =>
      constructor
      · rintro _ _ ⟨⟩
      · rintro _ _ ⟨⟩

/-- A call whose failure is looked at. -/
@[simp] theorem guarded_lift_call {call : StoreCall}
    {post : Tables → Except StoreError call.Reply → Prop} :
    @Guarded (no_index (Except StoreError call.Reply)) keeps permits
        (ExceptT.lift (Operation.call call)) post tables ↔
      ∀ later, keeps tables later → permits later call ∧
        ∀ now, post (Tables.perform now call later).2 (Tables.perform now call later).1 := by
  refine forall_congr' fun later => imp_congr_right fun _ => and_congr_right fun _ =>
    forall_congr' fun now => ?_
  constructor
  · intro guarded
    exact guarded _ rfl
  · rintro holds _ ⟨⟩
    exact holds

end Attempt

end Countinghouse
