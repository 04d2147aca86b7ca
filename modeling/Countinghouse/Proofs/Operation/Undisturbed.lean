import Countinghouse.Proofs.Operation.Guarded
import Countinghouse.Proofs.Operation.Trial

/-!
# Undisturbed operations

An operation is undisturbed if the store does not fail while it is carried out, and no other
operation comes between its calls. Then it is known what the store answers, and all that is left
open is what the clock says and which identifiers are fresh. `Operation.Undisturbed` says what
holds at the end as long as the clock says what it may, by recursion over the tree of needs. One
rule for each way to build an attempt follows.
-/

namespace Countinghouse

variable {α β : Type} {clock : Instant → Prop}

/-- The store does not fail, and the clock only says what it may. -/
structure Course.IsSmooth (course : Course) (clock : Instant → Prop) : Prop where
  noFault : ∀ met, course.fault? met = none
  inTime : ∀ met, clock (course.answers met .clock)

/-- The clock stands still, and whatever else is asked for is the same every time. -/
def Course.standing (now : Instant) : Course where
  fault? _ := none
  answers _
    | .store _ => .error (.internal "")
    | .clock => now
    | .freshId => ⟨0⟩
    | .freshSalt => []
    | .report _ => ()
    | .ping => .ok ()

theorem Course.standing_isSmooth (now : Instant) : (standing now).IsSmooth (now = ·) :=
  ⟨fun _ => rfl, fun _ => rfl⟩

/-- The same course, on which the store never fails. -/
def Course.calm (course : Course) : Course := { course with fault? := fun _ => none }

theorem Course.calm_isSmooth (course : Course) :
    course.calm.IsSmooth fun now => ∃ met, course.answers met .clock = now :=
  ⟨fun _ => rfl, fun met => ⟨met, rfl⟩⟩

namespace Operation

/-- Calls are recorded after those that were made before. -/
theorem calls_tryOut (operation : Operation α) (course : Course) (trial : Trial) :
    ∃ more, (operation.tryOut course trial).2.calls = trial.calls ++ more := by
  induction operation generalizing trial with
  | done value => exact ⟨[], (List.append_nil _).symm⟩
  | ask need next inductionHypothesis =>
      cases need with
      | store call =>
          cases fault : course.fault? trial.met with
          | some error =>
              rw [tryOut_call_of_fault fault]
              obtain ⟨more, recorded⟩ := inductionHypothesis (.error error)
                ⟨trial.tables, trial.calls ++ [(call, some error)], trial.met + 1⟩
              exact ⟨(call, some error) :: more, by simpa using recorded⟩
          | none =>
              rw [tryOut_call_of_noFault fault]
              obtain ⟨more, recorded⟩ := inductionHypothesis _ ⟨_, trial.calls ++ [(call, none)], _⟩
              exact ⟨(call, none) :: more, by simpa using recorded⟩
      | clock | freshId | freshSalt | report _ | ping =>
          exact inductionHypothesis _ { trial with met := trial.met + 1 }

/-- Where the store did not fail, it is no matter that it might have. -/
theorem tryOut_calm {operation : Operation α} {course : Course} {trial : Trial}
    (noneFailed : ∀ entry ∈ (operation.tryOut course trial).2.calls, entry.2 = none) :
    operation.tryOut course.calm trial = operation.tryOut course trial := by
  induction operation generalizing trial with
  | done value => rfl
  | ask need next inductionHypothesis =>
      cases need with
      | store call =>
          cases fault : course.fault? trial.met with
          | some error =>
              rw [tryOut_call_of_fault fault] at noneFailed
              obtain ⟨more, recorded⟩ := (next (.error error)).calls_tryOut course
                ⟨trial.tables, trial.calls ++ [(call, some error)], trial.met + 1⟩
              cases noneFailed (call, some error) (by simp [recorded])
          | none =>
              rw [tryOut_call_of_noFault fault] at noneFailed ⊢
              rw [tryOut_call_of_noFault rfl]
              exact inductionHypothesis _ noneFailed
      | clock | freshId | freshSalt | report _ | ping => exact inductionHypothesis _ noneFailed

/-- However the operation goes while it is not disturbed, `post` holds of the tables and its value
at the end. -/
def Undisturbed (clock : Instant → Prop) : Operation α → (Tables → α → Prop) → Tables → Prop
  | .done value, post, tables => post tables value
  | .ask (.store call) next, post, tables =>
    ∀ now, clock now → (next (Tables.perform now call tables).1).Undisturbed clock post
      (Tables.perform now call tables).2
  | .ask .clock next, post, tables => ∀ now, clock now → (next now).Undisturbed clock post tables
  | .ask _ next, post, tables => ∀ answer, (next answer).Undisturbed clock post tables

variable {post : Tables → α → Prop} {tables : Tables}

theorem Undisturbed.tryOut {operation : Operation α} {course : Course}
    (smooth : course.IsSmooth clock) (trial : Trial)
    (holds : operation.Undisturbed clock post trial.tables) :
    post (operation.tryOut course trial).2.tables (operation.tryOut course trial).1 := by
  induction operation generalizing trial with
  | done value => exact holds
  | ask need next inductionHypothesis =>
      cases need with
      | store call =>
          rw [tryOut_call_of_noFault (smooth.noFault trial.met)]
          exact inductionHypothesis _ ⟨_, _, _⟩ (holds _ (smooth.inTime trial.met))
      | clock =>
          exact inductionHypothesis _ { trial with met := trial.met + 1 }
            (holds _ (smooth.inTime trial.met))
      | freshId | freshSalt | report _ | ping =>
          exact inductionHypothesis _ { trial with met := trial.met + 1 } (holds _)

theorem Undisturbed.mono {operation : Operation α} {weaker : Tables → α → Prop}
    (holds : operation.Undisturbed clock post tables)
    (implies : ∀ after value, post after value → weaker after value) :
    operation.Undisturbed clock weaker tables := by
  induction operation generalizing tables with
  | done value => exact implies tables value holds
  | ask need next inductionHypothesis =>
      cases need with
      | store call | clock =>
          exact fun now inTime => inductionHypothesis _ (holds now inTime)
      | freshId | freshSalt | report _ | ping =>
          exact fun answer => inductionHypothesis answer (holds answer)

theorem undisturbed_andThen {operation : Operation α} {next : α → Operation β}
    {post : Tables → β → Prop} :
    (operation.andThen next).Undisturbed clock post tables ↔ operation.Undisturbed clock
      (fun after value => (next value).Undisturbed clock post after) tables := by
  induction operation generalizing tables with
  | done value => exact Iff.rfl
  | ask need rest inductionHypothesis =>
      cases need with
      | store call | clock =>
          exact forall_congr' fun now => imp_congr_right fun _ => inductionHypothesis _
      | freshId | freshSalt | report _ | ping =>
          exact forall_congr' fun answer => inductionHypothesis _

/-- While nothing disturbs it, a guarded operation makes permitted calls only, and what every
permitted call keeps holds of the tables all the time. -/
theorem Guarded.tryOut {operation : Operation α} {keeps : Tables → Tables → Prop}
    {permits : Tables → StoreCall → Prop} {course : Course}
    (reflexive : ∀ tables, keeps tables tables) (noFault : ∀ met, course.fault? met = none)
    (trial : Trial) {invariant : Tables → Prop}
    (kept : ∀ now call found, permits found call → invariant found →
      invariant (Tables.perform now call found).2)
    (guarded : operation.Guarded keeps permits post trial.tables) (holds : invariant trial.tables) :
    invariant (operation.tryOut course trial).2.tables ∧
      ∀ entry ∈ (operation.tryOut course trial).2.calls, entry ∈ trial.calls ∨
        ∃ found, invariant found ∧ permits found entry.1 := by
  induction operation generalizing trial with
  | done value => exact ⟨holds, fun entry member => .inl member⟩
  | ask need next inductionHypothesis =>
      cases need with
      | store call =>
          obtain ⟨permitted, rest⟩ := guarded trial.tables (reflexive trial.tables)
          rw [tryOut_call_of_noFault (noFault trial.met)]
          obtain ⟨holdsAfter, made⟩ := inductionHypothesis _ ⟨_, trial.calls ++ [(call, none)], _⟩
            (rest _) (kept _ _ _ permitted holds)
          refine ⟨holdsAfter, fun entry member => ?_⟩
          rcases made entry member with recorded | later
          · rcases List.mem_append.mp recorded with earlier | isThis
            · exact .inl earlier
            · obtain rfl := List.mem_singleton.mp isThis
              exact .inr ⟨trial.tables, holds, permitted⟩
          · exact .inr later
      | clock | freshId | freshSalt | report _ | ping =>
          exact inductionHypothesis _ { trial with met := trial.met + 1 } (guarded _) holds

end Operation

namespace Attempt

/-- An attempt is gone on with where it was answered with a value. -/
theorem tryOut_bind_of_ok {attempt : Attempt α} {next : α → Attempt β} {course : Course}
    {trial later : Trial} {value : α}
    (first : attempt.run.tryOut course trial = (.ok value, later)) :
    (attempt >>= next).run.tryOut course trial = (next value).run.tryOut course later := by
  refine (Operation.run_andThen course.surroundings attempt.run _ trial).trans ?_
  rw [show attempt.run.run course.surroundings trial = _ from first]
  rfl

/-- A call that the store answers with a value. -/
theorem tryOut_call_of_ok {call : StoreCall} {course : Course} {trial : Trial} {reply : call.Reply}
    (noFault : course.fault? trial.met = none)
    (answered :
      (Tables.perform (course.answers trial.met .clock) call trial.tables).1 = .ok reply) :
    (Attempt.call call).run.tryOut course trial =
      (.ok reply, ⟨(Tables.perform (course.answers trial.met .clock) call trial.tables).2,
        trial.calls ++ [(call, none)], trial.met + 1⟩) := by
  refine (Operation.tryOut_call_of_noFault noFault).trans ?_
  rw [answered]
  rfl

/-- However the attempt goes while it is not disturbed, `post` holds of the tables and its result
at the end. -/
def Undisturbed (clock : Instant → Prop) (attempt : Attempt α)
    (post : Tables → Except BankError α → Prop) (tables : Tables) : Prop :=
  Operation.Undisturbed clock attempt.run post tables

/-- What has to hold of the result of an attempt so that `post` holds when `next` was carried out
after it. -/
def Onward (clock : Instant → Prop) (next : α → Attempt β)
    (post : Tables → Except BankError β → Prop) (tables : Tables) : Except BankError α → Prop
  | .ok value => (next value).Undisturbed clock post tables
  | .error error => post tables (.error error)

variable {next : α → Attempt β} {post : Tables → Except BankError β → Prop} {tables : Tables}

/-- Where every error will do, only the value matters. -/
theorem onward_of_ok {result : Except BankError α}
    (onError : ∀ error, post tables (.error error))
    (onOk : ∀ value, result = .ok value → (next value).Undisturbed clock post tables) :
    Onward clock next post tables result := by
  cases result with
  | ok value => exact onOk value rfl
  | error error => exact onError error

theorem undisturbed_bind {attempt : Attempt α} :
    (attempt >>= next).Undisturbed clock post tables ↔
      attempt.Undisturbed clock (Onward clock next post) tables := by
  have goesOn : (fun after result => Operation.Undisturbed clock
      (ExceptT.bindCont next result) post after) = Onward clock next post := by
    funext after result
    cases result <;> rfl
  exact goesOn ▸ Operation.undisturbed_andThen

/-- One attempt after another, when something is known of the first. -/
theorem Undisturbed.bind {attempt : Attempt α} {middle : Tables → Except BankError α → Prop}
    (first : attempt.Undisturbed clock middle tables)
    (second : ∀ after result, middle after result → Onward clock next post after result) :
    (attempt >>= next).Undisturbed clock post tables :=
  undisturbed_bind.mpr (first.mono second)

theorem undisturbed_reject {event : Event} {error : BankError} :
    Undisturbed clock (reject event error) post tables ↔ post tables (.error error) :=
  ⟨fun holds => holds (), fun holds _ => holds⟩

theorem undisturbed_report_bind {event : Event} {next : Unit → Attempt β} :
    Undisturbed clock (report event >>= next) post tables ↔
      (next ()).Undisturbed clock post tables :=
  ⟨fun holds => holds (), fun holds _ => holds⟩

theorem undisturbed_now_bind {next : Instant → Attempt β} :
    Undisturbed clock (ExceptT.lift Operation.now >>= next) post tables ↔
      ∀ now, clock now → (next now).Undisturbed clock post tables := Iff.rfl

theorem undisturbed_freshSalt_bind {next : List UInt8 → Attempt β} :
    Undisturbed clock (ExceptT.lift Operation.freshSalt >>= next) post tables ↔
      ∀ salt, (next salt).Undisturbed clock post tables := Iff.rfl

theorem undisturbed_ofExcept_bind {result : Except BankError α} :
    Undisturbed clock (ofExcept result >>= next) post tables ↔
      Onward clock next post tables result := by
  cases result <;> exact Iff.rfl

/-- A call of the store, whose failure is the failure of the attempt. -/
theorem undisturbed_call_bind {call : StoreCall} {next : call.Reply → Attempt β} :
    Undisturbed clock (Attempt.call call >>= next) post tables ↔ ∀ now, clock now →
      (∀ reply, (Tables.perform now call tables).1 = .ok reply →
        (next reply).Undisturbed clock post (Tables.perform now call tables).2) ∧
      ∀ error, (Tables.perform now call tables).1 = .error error →
        post (Tables.perform now call tables).2 (.error (.storage error)) := by
  refine undisturbed_bind.trans (forall_congr' fun now => imp_congr_right fun _ => ?_)
  cases (Tables.perform now call tables).1 with
  | ok reply =>
      refine Iff.trans ?_ (and_iff_left nofun).symm
      exact ⟨fun holds other same => Except.ok.inj same ▸ holds, fun holds => holds reply rfl⟩
  | error error =>
      refine Iff.trans ?_ (and_iff_right nofun).symm
      exact ⟨fun holds other same => Except.error.inj same ▸ holds, fun holds => holds error rfl⟩

/-- A call that is answered from the tables and leaves them as they are. -/
theorem Undisturbed.read_bind {call : StoreCall} {reply : call.Reply}
    {next : call.Reply → Attempt β}
    (answers : ∀ now, Tables.perform now call tables = (.ok reply, tables))
    (goesOn : (next reply).Undisturbed clock post tables) :
    (Attempt.call call >>= next).Undisturbed clock post tables := by
  refine undisturbed_call_bind.mpr fun now _ => ?_
  rw [answers now]
  exact ⟨fun other same => Except.ok.inj same ▸ goesOn, nofun⟩

/-- A call of the store whose reply is looked at, be it a failure or not. -/
theorem undisturbed_lift_call_bind {call : StoreCall}
    {next : Except StoreError call.Reply → Attempt β} :
    Undisturbed clock (ExceptT.lift (Operation.call call) >>= next) post tables ↔ ∀ now, clock now →
      (next (Tables.perform now call tables).1).Undisturbed clock post
        (Tables.perform now call tables).2 := Iff.rfl

theorem Undisturbed.tryOut {attempt : Attempt β} {course : Course} (smooth : course.IsSmooth clock)
    (holds : attempt.Undisturbed clock post tables) :
    post (attempt.tryOut course tables).2.tables (attempt.tryOut course tables).1 :=
  Operation.Undisturbed.tryOut smooth (.start tables) holds

end Attempt

end Countinghouse
