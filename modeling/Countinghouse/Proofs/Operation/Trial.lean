import Countinghouse.Proofs.Store.Effect
import Countinghouse.Operation

/-!
# Operations on trial

An operation is carried out on its own, over tables that no other operation touches, while
the store fails wherever it is told to. `Course` says what the surroundings do, and nothing
is assumed about it: every choice of failures, times and identifiers is a course. `Trial`
records the calls that were made and which of them failed.

`Operation.Withstands` judges an operation for all courses at once, by recursion over the
tree of needs, and `Operation.Withstands.tryOut` says what that means for each. For attempts
the judgement is `Attempt.Atomic`: what fails leaves the tables as they were found, and a
failure of the store ends the attempt at once. One rule for each way to build an attempt
follows.
-/

namespace Countinghouse

variable {α β : Type}

/-- What the surroundings do while an operation is carried out. Every answer may depend on
the number of needs that were met before. -/
structure Course where
  /-- The failure that the store answers with instead of doing what it is asked, if any. -/
  fault? : Nat → Option StoreError
  /-- The answers to all needs but those of the store, which only reads the clock. -/
  answers : Nat → (need : Need) → need.Answer

/-- How far an operation has come. -/
structure Trial where
  tables : Tables
  /-- The calls made of the store, oldest first, each with the failure it met, if any. -/
  calls : List (StoreCall × Option StoreError)
  /-- The number of needs that were met. -/
  met : Nat

/-- Nothing was done with the tables yet. -/
def Trial.start (tables : Tables) : Trial := ⟨tables, [], 0⟩

/-- Surroundings that follow a course. -/
def Course.surroundings (course : Course) : Surroundings Trial where
  answer
    | .store call, trial =>
      match course.fault? trial.met with
      | some error =>
        (.error error, ⟨trial.tables, trial.calls ++ [(call, some error)], trial.met + 1⟩)
      | none =>
        let (reply, tables) := Tables.perform (course.answers trial.met .clock) call trial.tables
        (reply, ⟨tables, trial.calls ++ [(call, none)], trial.met + 1⟩)
    | need, trial => (course.answers trial.met need, { trial with met := trial.met + 1 })

/-! ## All courses of an operation -/

namespace Operation

/-- Carries out an operation in the surroundings that follow a course. -/
def tryOut (course : Course) (operation : Operation α) (trial : Trial) : α × Trial :=
  operation.run course.surroundings trial

/-- A call at which the store fails. -/
theorem tryOut_call_of_fault {course : Course} {trial : Trial} {error : StoreError}
    (fault : course.fault? trial.met = some error) {call : StoreCall}
    {next : Except StoreError call.Reply → Operation α} :
    (ask (.store call) next).tryOut course trial = (next (.error error)).tryOut course
      ⟨trial.tables, trial.calls ++ [(call, some error)], trial.met + 1⟩ := by
  simp only [Operation.tryOut, run, Course.surroundings, fault]

/-- A call that the store answers. -/
theorem tryOut_call_of_noFault {course : Course} {trial : Trial}
    (noFault : course.fault? trial.met = none) {call : StoreCall}
    {next : Except StoreError call.Reply → Operation α} :
    (ask (.store call) next).tryOut course trial =
      (next (Tables.perform (course.answers trial.met .clock) call trial.tables).1).tryOut course
        ⟨(Tables.perform (course.answers trial.met .clock) call trial.tables).2,
          trial.calls ++ [(call, none)], trial.met + 1⟩ := by
  simp only [Operation.tryOut, run, Course.surroundings, noFault]

/-- The operation makes no call of the store and ends well. -/
def Ends (well : α → Prop) : Operation α → Prop
  | .done value => well value
  | .ask (.store _) _ => False
  | .ask _ next => ∀ answer, (next answer).Ends well

/-- However the operation goes, `post` holds of the tables and its value at the end. But when
the store fails at a call, no other call is made, and `struck` holds of the tables, the call,
the failure and the value. -/
def Withstands (struck : Tables → StoreCall → StoreError → α → Prop) :
    Operation α → (Tables → α → Prop) → Tables → Prop
  | .done value, post, tables => post tables value
  | .ask (.store call) next, post, tables =>
    (∀ error, (next (.error error)).Ends (struck tables call error)) ∧
      ∀ now, (next (Tables.perform now call tables).1).Withstands struck post
        (Tables.perform now call tables).2
  | .ask _ next, post, tables => ∀ answer, (next answer).Withstands struck post tables

variable {struck : Tables → StoreCall → StoreError → α → Prop} {well : α → Prop}

/-- An operation that makes no call leaves tables and record as they are. -/
theorem Ends.tryOut {operation : Operation α} (ends : operation.Ends well) (course : Course)
    (trial : Trial) :
    well (operation.tryOut course trial).1 ∧
      (operation.tryOut course trial).2.tables = trial.tables ∧
      (operation.tryOut course trial).2.calls = trial.calls := by
  induction operation generalizing trial with
  | done value => exact ⟨ends, rfl, rfl⟩
  | ask need next inductionHypothesis =>
      cases need with
      | store call => exact ends.elim
      | clock | freshId | freshSalt | report _ | ping => exact inductionHypothesis _ (ends _) _

/-- Either every call is answered and `post` holds in the end, or the last call is the only one
at which the store failed. -/
theorem Withstands.tryOut {operation : Operation α} {post : Tables → α → Prop} (course : Course)
    (trial : Trial) (withstands : operation.Withstands struck post trial.tables) :
    (∃ answered : List StoreCall,
        (operation.tryOut course trial).2.calls = trial.calls ++ answered.map (·, none) ∧
        post (operation.tryOut course trial).2.tables (operation.tryOut course trial).1) ∨
      ∃ (answered : List StoreCall) (call : StoreCall) (error : StoreError),
        (operation.tryOut course trial).2.calls =
            trial.calls ++ answered.map (·, none) ++ [(call, some error)] ∧
          struck (operation.tryOut course trial).2.tables call error
            (operation.tryOut course trial).1 := by
  induction operation generalizing trial with
  | done value => exact .inl ⟨[], by simp [Operation.tryOut, run], withstands⟩
  | ask need next inductionHypothesis =>
      cases need with
      | store call =>
          cases fault : course.fault? trial.met with
          | some error =>
              rw [tryOut_call_of_fault fault]
              obtain ⟨isStruck, sameTables, sameCalls⟩ := (withstands.1 error).tryOut course
                ⟨trial.tables, trial.calls ++ [(call, some error)], trial.met + 1⟩
              exact .inr ⟨[], call, error, by simpa using sameCalls, by rwa [sameTables]⟩
          | none =>
              rw [tryOut_call_of_noFault fault]
              rcases inductionHypothesis _ ⟨_, _, _⟩ (withstands.2 _) with
                ⟨answered, calls, holds⟩ | ⟨answered, last, error, calls, isStruck⟩
              · exact .inl ⟨call :: answered, by simpa using calls, holds⟩
              · exact .inr ⟨call :: answered, last, error, by simpa using calls, isStruck⟩
      | clock | freshId | freshSalt | report _ | ping =>
          exact inductionHypothesis _ { trial with met := trial.met + 1 } (withstands _)

theorem Ends.mono {operation : Operation α} {weaker : α → Prop} (ends : operation.Ends well)
    (implies : ∀ value, well value → weaker value) : operation.Ends weaker := by
  induction operation with
  | done value => exact implies value ends
  | ask need next inductionHypothesis =>
      cases need with
      | store call => exact ends
      | clock | freshId | freshSalt | report _ | ping =>
          exact fun answer => inductionHypothesis answer (ends answer)

/-- What does not call the store may also do something more that does not. -/
theorem Ends.andThen {operation : Operation α} {next : α → Operation β} {later : β → Prop}
    (ends : operation.Ends well) (goesOn : ∀ value, well value → (next value).Ends later) :
    (operation.andThen next).Ends later := by
  induction operation with
  | done value => exact goesOn value ends
  | ask need rest inductionHypothesis =>
      cases need with
      | store call => exact ends.elim
      | clock | freshId | freshSalt | report _ | ping =>
          exact fun answer => inductionHypothesis answer (ends answer)

/-- One operation after another, when the second does not undo what a failure in the first
leads to. -/
theorem Withstands.andThen {operation : Operation α} {next : α → Operation β}
    {struckThen : Tables → StoreCall → StoreError → β → Prop} {middle : Tables → α → Prop}
    {post : Tables → β → Prop} {tables : Tables}
    (first : operation.Withstands struck middle tables)
    (passedOn : ∀ tables call error value, struck tables call error value →
      (next value).Ends (struckThen tables call error))
    (second : ∀ tables value, middle tables value →
      (next value).Withstands struckThen post tables) :
    (operation.andThen next).Withstands struckThen post tables := by
  induction operation generalizing tables with
  | done value => exact second tables value first
  | ask need rest inductionHypothesis =>
      cases need with
      | store call =>
          exact ⟨fun error => (first.1 error).andThen (passedOn tables call error),
            fun now => inductionHypothesis _ (first.2 now)⟩
      | clock | freshId | freshSalt | report _ | ping =>
          exact fun answer => inductionHypothesis answer (first answer)

end Operation

/-! ## Attempts that are carried out completely or not at all -/

namespace Attempt

/-- Carries out an attempt on tables in the surroundings that follow a course. -/
def tryOut (course : Course) (attempt : Attempt α) (tables : Tables) : Except BankError α × Trial :=
  attempt.run.tryOut course (.start tables)

/-- Where an attempt may end: with a value and `post`, or with an error and the tables that
were found. -/
def Settled (found : Tables) (post : Tables → α → Prop) (tables : Tables) :
    Except BankError α → Prop
  | .ok value => post tables value
  | .error _ => tables = found

/-- The attempt leaves the tables as they were found when it fails, and fails at once when the
store does, with what `blame` makes of that failure. When it succeeds, `post` holds of the
tables and its value. -/
def Atomic (blame : StoreCall → StoreError → BankError) (attempt : Attempt α) (found : Tables)
    (post : Tables → α → Prop) (tables : Tables) : Prop :=
  Operation.Withstands
    (fun tables call error result => tables = found ∧ result = .error (blame call error))
    attempt.run (Settled found post) tables

variable {blame : StoreCall → StoreError → BankError} {found tables : Tables}
  {post : Tables → α → Prop}

@[simp] theorem atomic_pure {value : α} :
    Atomic blame (pure value) found post tables ↔ post tables value := Iff.rfl

@[simp] theorem atomic_throw {error : BankError} :
    Atomic blame (throw error) found post tables ↔ tables = found := Iff.rfl

@[simp] theorem atomic_reject {event : Event} {error : BankError} :
    Atomic blame (reject event error) found post tables ↔ tables = found :=
  ⟨fun atomic => atomic (), fun unchanged _ => unchanged⟩

@[simp] theorem atomic_reject_bind {event : Event} {error : BankError} {next : β → Attempt α} :
    Atomic blame (reject event error >>= next) found post tables ↔ tables = found :=
  ⟨fun atomic => atomic (), fun unchanged _ => unchanged⟩

@[simp] theorem atomic_report {event : Event} {post : Tables → Unit → Prop} :
    Atomic blame (report event) found post tables ↔ post tables () :=
  ⟨fun atomic => atomic (), fun holds _ => holds⟩

@[simp] theorem atomic_report_bind {event : Event} {next : Unit → Attempt α} :
    Atomic blame (report event >>= next) found post tables ↔
      (next ()).Atomic blame found post tables :=
  ⟨fun atomic => atomic (), fun holds _ => holds⟩

/-- A result that is already known, while the tables are as they were found. -/
theorem Atomic.ofExcept (result : Except BankError α) :
    Atomic blame (ofExcept result) found (fun after _ => after = found) found := by
  cases result <;> exact rfl

/-- One attempt after another. -/
theorem Atomic.bind {attempt : Attempt α} {next : α → Attempt β} {middle : Tables → α → Prop}
    {post : Tables → β → Prop} (first : attempt.Atomic blame found middle tables)
    (second : ∀ tables value, middle tables value → (next value).Atomic blame found post tables) :
    (attempt >>= next).Atomic blame found post tables := by
  refine Operation.Withstands.andThen first ?_ ?_
  · rintro tables call error _ ⟨unchanged, rfl⟩
    exact ⟨unchanged, rfl⟩
  · intro tables result settled
    cases result with
    | ok value => exact second tables value settled
    | error error => exact settled

/-- One attempt after another, when the first leaves the tables as they were found. -/
theorem Atomic.after {attempt : Attempt α} {next : α → Attempt β} {post : Tables → β → Prop}
    (first : attempt.Atomic blame found (fun after _ => after = found) found)
    (second : ∀ value, (next value).Atomic blame found post found) :
    (attempt >>= next).Atomic blame found post found := by
  refine first.bind fun tables value unchanged => ?_
  subst unchanged
  exact second value

/-- What follows from the end of an attempt may be used after it. -/
theorem Atomic.mono {attempt : Attempt α} {weaker : Tables → α → Prop}
    (atomic : attempt.Atomic blame found post tables)
    (implies : ∀ tables value, post tables value → weaker tables value) :
    attempt.Atomic blame found weaker tables := by
  have second : ∀ tables value, post tables value →
      Atomic blame (pure value) found weaker tables := implies
  simpa using atomic.bind second

/-- A check that fails with a report, while the tables are as they were found. -/
theorem Atomic.refuse {condition : Prop} [Decidable condition] {event : Event} {error : BankError}
    {next : β → Attempt α} {rest : Attempt α} (passed : rest.Atomic blame found post found) :
    Atomic blame (if condition then reject event error >>= next else rest) found post found := by
  split
  · exact atomic_reject_bind.mpr rfl
  · exact passed

/-- What other surroundings than the store answer changes no table. -/
theorem Atomic.need {need : Need} (outside : ∀ call, need ≠ .store call) :
    Atomic blame (ExceptT.lift (Operation.need need)) found (fun after _ => after = found)
      found := by
  cases need with
  | store call => exact absurd rfl (outside call)
  | clock | freshId | freshSalt | report _ | ping => exact fun _ => rfl

/-- A call that only reads. -/
theorem Atomic.read {call : StoreCall} (reading : call.isReading = true)
    (passedOn : ∀ error, blame call error = .storage error) :
    Atomic blame (Attempt.call call) found (fun after _ => after = found) found := by
  refine ⟨fun error => ⟨rfl, congrArg Except.error (passedOn error).symm⟩, fun now => ?_⟩
  · have unchanged := Tables.perform_of_isReading reading now found
    cases (Tables.perform now call found).1 <;> exact unchanged

/-- A call that may change the tables when it succeeds, whose failure is passed on. -/
theorem Atomic.write {call : StoreCall}
    (passedOn : ∀ error, blame call error = .storage error) :
    Atomic blame (Attempt.call call) found (fun _ _ => True) found := by
  refine ⟨fun error => ⟨rfl, congrArg Except.error (passedOn error).symm⟩, fun now => ?_⟩
  have effect := found.perform_effect now call
  cases answered : (Tables.perform now call found).1 with
  | ok reply => trivial
  | error error => exact effect.eq_of_error answered

/-- A call whose failure is looked at before anything else is done. -/
theorem Atomic.call {call : StoreCall} {next : Except StoreError call.Reply → Attempt α}
    (struck : ∀ error, (next (.error error)).run.Ends (· = .error (blame call error)))
    (goesOn : ∀ now reply after, found.Effect now call reply after →
      (next reply).Atomic blame found post after) :
    Atomic blame (ExceptT.lift (Operation.call call) >>= next) found post found :=
  ⟨fun error => (struck error).mono fun _ isStruck => ⟨rfl, isStruck⟩,
    fun now => goesOn now _ _ (found.perform_effect now call)⟩

/-- What the judgement says of a course: a failure leaves no trace in the tables, and where the
store fails the attempt ends and reports it. -/
theorem Atomic.tryOut {attempt : Attempt α} (atomic : attempt.Atomic blame found post found)
    (course : Course) :
    (∀ error, (attempt.tryOut course found).1 = .error error →
        (attempt.tryOut course found).2.tables = found) ∧
      ∀ earlier call error later,
        (attempt.tryOut course found).2.calls = earlier ++ (call, some error) :: later →
          later = [] ∧ (attempt.tryOut course found).1 = .error (blame call error) := by
  have noneFailed : ∀ (answered : List StoreCall) (call : StoreCall) (error : StoreError),
      (call, some error) ∉ answered.map (·, (none : Option StoreError)) := by simp
  rcases Operation.Withstands.tryOut course (.start found) atomic with
    ⟨answered, calls, settled⟩ | ⟨answered, last, failure, calls, unchanged, reported⟩
  · constructor
    · intro error failed
      unfold Attempt.tryOut at failed ⊢
      rw [failed] at settled
      exact settled
    · intro earlier call error later recorded
      have same : answered.map (·, none) = earlier ++ (call, some error) :: later :=
        calls.symm.trans recorded
      refine absurd ?_ (noneFailed answered call error)
      rw [same]
      exact List.mem_append_right _ List.mem_cons_self
  · constructor
    · exact fun _ _ => unchanged
    · intro earlier call error later recorded
      have same : answered.map (·, none) ++ [(last, some failure)] =
          earlier ++ (call, some error) :: later := calls.symm.trans recorded
      rcases List.eq_nil_or_concat later with rfl | ⟨between, final, rfl⟩
      · obtain ⟨-, isLast⟩ := List.append_inj' same rfl
        cases isLast
        exact ⟨rfl, reported⟩
      · -- The failure would not be at the last call.
        rw [List.concat_eq_append, ← List.cons_append, ← List.append_assoc] at same
        obtain ⟨front, -⟩ := List.append_inj' same rfl
        refine absurd ?_ (noneFailed answered call error)
        rw [front]
        exact List.mem_append_right _ List.mem_cons_self

end Attempt

end Countinghouse
