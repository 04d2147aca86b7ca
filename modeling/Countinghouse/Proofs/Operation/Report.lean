import Countinghouse.Proofs.Operation.Trial

/-!
# What an operation reports

`Operation.log` lists the events that an operation reports in the surroundings that follow a course.
Most of them say what was done. The loud ones are for whoever watches over the bank, and a complaint
is a loud one that names a component and its action.

`Attempt.Complains` judges an attempt for whatever is answered to it: it is loud only when it fails,
and then it makes one complaint if the failure is of a kind that is complained about. What kinds
these are may depend on the last call of the store. One rule for each way to build an attempt
follows.
-/

namespace Countinghouse

variable {α β : Type}

namespace Event

/-- The event is a warning or worse. -/
def isLoud (event : Event) : Bool := event.level.rank ≤ Level.warn.rank

/-- The event is loud, and names a component and its action. -/
structure IsComplaint (event : Event) : Prop where
  isLoud : event.isLoud = true
  component : (event.field? "component").isSome
  action : (event.field? "action").isSome

theorem warning_isComplaint (component action message : String) (fields : List (String × Field)) :
    (warning component action message fields).IsComplaint := ⟨rfl, rfl, rfl⟩

theorem isLoud_notice (component message : String) (fields : List (String × Field)) :
    (notice component message fields).isLoud = false := rfl

end Event

/-- The event that is to be logged, if that is what is asked for. -/
def Need.event? : Need → Option Event
  | .report event => some event
  | .store _ | .clock | .freshId | .freshSalt | .ping => none

/-- The last call that was made of the store. -/
def Trial.lastCall (trial : Trial) : Option StoreCall := trial.calls.getLast?.map Prod.fst

namespace Operation

/-- The events that an operation reports, oldest first. -/
def log (course : Course) : Operation α → Trial → List Event
  | .done _, _ => []
  | .ask need next, trial =>
    let (answer, after) := course.surroundings.answer need trial
    need.event?.toList ++ (next answer).log course after

/-- A call at which the store fails reports nothing. -/
theorem log_call_of_fault {course : Course} {trial : Trial} {error : StoreError}
    (fault : course.fault? trial.met = some error)
    {call : StoreCall} {next : Except StoreError call.Reply → Operation α} :
    (ask (.store call) next).log course trial = (next (.error error)).log course
      ⟨trial.tables, trial.calls ++ [(call, some error)], trial.met + 1⟩ := by
  simp [log, Course.surroundings, fault, Need.event?]

/-- A call that the store answers reports nothing. -/
theorem log_call_of_noFault {course : Course} {trial : Trial}
    (noFault : course.fault? trial.met = none) {call : StoreCall}
    {next : Except StoreError call.Reply → Operation α} :
    (ask (.store call) next).log course trial =
      (next (Tables.perform (course.answers trial.met .clock) call trial.tables).1).log course
        ⟨(Tables.perform (course.answers trial.met .clock) call trial.tables).2,
          trial.calls ++ [(call, none)], trial.met + 1⟩ := by
  simp [log, Course.surroundings, noFault, Need.event?]

/-- What is reported by one operation after another. -/
theorem log_andThen (course : Course) (operation : Operation α) (next : α → Operation β)
    (trial : Trial) : (operation.andThen next).log course trial = operation.log course trial ++
      (next (operation.tryOut course trial).1).log course (operation.tryOut course trial).2 := by
  induction operation generalizing trial with
  | done value => rfl
  | ask need rest inductionHypothesis =>
      have later := inductionHypothesis (course.surroundings.answer need trial).1
        (course.surroundings.answer need trial).2
      exact (congrArg (need.event?.toList ++ ·) later).trans (List.append_assoc ..).symm

/-- Whatever is answered, `post` holds in the end of the last call of the store, the loud events and
the value. -/
def Tells (post : Option StoreCall → List Event → α → Prop) :
    Operation α → Option StoreCall → List Event → Prop
  | .done value, last, loud => post last loud value
  | .ask (.store call) next, _, loud => ∀ reply, (next reply).Tells post (some call) loud
  | .ask (.report event) next, last, loud =>
    (next ()).Tells post last (loud ++ [event].filter Event.isLoud)
  | .ask _ next, last, loud => ∀ answer, (next answer).Tells post last loud

variable {post : Option StoreCall → List Event → α → Prop} {last : Option StoreCall}
  {loud : List Event}

theorem Tells.tryOut {operation : Operation α} (course : Course) (trial : Trial)
    (tells : operation.Tells post trial.lastCall loud) :
    post (operation.tryOut course trial).2.lastCall
      (loud ++ (operation.log course trial).filter Event.isLoud)
      (operation.tryOut course trial).1 := by
  -- The events so far go with `loud`, as the log of the rest only begins after them.
  induction operation generalizing trial loud with
  | done value =>
      change post trial.lastCall (loud ++ []) value
      rwa [List.append_nil]
  | ask need next inductionHypothesis =>
      cases need with
      | store call =>
          have isLast (tables : Tables) (answer : Option StoreError) (met : Nat) :
              Trial.lastCall ⟨tables, trial.calls ++ [(call, answer)], met⟩ = some call := by
            simp [Trial.lastCall]
          cases fault : course.fault? trial.met with
          | some error =>
              rw [tryOut_call_of_fault fault, log_call_of_fault fault]
              exact inductionHypothesis _ ⟨_, _, _⟩ (isLast .. ▸ tells _)
          | none =>
              rw [tryOut_call_of_noFault fault, log_call_of_noFault fault]
              exact inductionHypothesis _ ⟨_, _, _⟩ (isLast .. ▸ tells _)
      | report event =>
          have later := inductionHypothesis () { trial with met := trial.met + 1 } tells
          have parts : ((ask (.report event) next).log course trial).filter Event.isLoud =
              [event].filter Event.isLoud ++ ((next ()).log course
                { trial with met := trial.met + 1 }).filter Event.isLoud := List.filter_append ..
          rw [parts, ← List.append_assoc]
          exact later
      | clock | freshId | freshSalt | ping =>
          exact inductionHypothesis _ { trial with met := trial.met + 1 } (tells _)

theorem Tells.andThen {operation : Operation α} {next : α → Operation β}
    {middle : Option StoreCall → List Event → α → Prop}
    {post : Option StoreCall → List Event → β → Prop} (first : operation.Tells middle last loud)
    (second : ∀ last loud value, middle last loud value → (next value).Tells post last loud) :
    (operation.andThen next).Tells post last loud := by
  induction operation generalizing last loud with
  | done value => exact second last loud value first
  | ask need rest inductionHypothesis =>
      cases need with
      | report event => exact inductionHypothesis () first
      | store _ | clock | freshId | freshSalt | ping =>
          exact fun answer => inductionHypothesis answer (first answer)

end Operation

namespace Attempt

/-- A call of the store reports nothing. -/
@[simp] theorem log_call (call : StoreCall) (course : Course) (trial : Trial) :
    (Attempt.call call).run.log course trial = [] := by
  cases fault : course.fault? trial.met with
  | some error => exact Operation.log_call_of_fault fault
  | none =>
      refine (Operation.log_call_of_noFault fault).trans ?_
      cases (Tables.perform (course.answers trial.met .clock) call trial.tables).1 <;> rfl

/-- What is reported by an attempt that is gone on with. -/
theorem log_bind_of_ok {attempt : Attempt α} {next : α → Attempt β} {course : Course}
    {trial later : Trial} {value : α}
    (first : attempt.run.tryOut course trial = (.ok value, later)) :
    (attempt >>= next).run.log course trial =
      attempt.run.log course trial ++ (next value).run.log course later := by
  refine (Operation.log_andThen course attempt.run _ trial).trans ?_
  rw [first]
  rfl

/-- How loud an attempt may have been: not at all when it succeeded, and one complaint when it
failed with what is complained about. -/
def Verdict (isTold : Option StoreCall → BankError → Bool) (last : Option StoreCall)
    (loud : List Event) : Except BankError α → Prop
  | .ok _ => loud = []
  | .error error =>
    if isTold last error then ∃ event, loud = [event] ∧ event.IsComplaint else loud = []

/-- Whatever is answered, the attempt is loud only when it fails, and complains of what is to be
complained about. -/
def Complains (isTold : Option StoreCall → BankError → Bool) (last : Option StoreCall)
    (attempt : Attempt α) : Prop :=
  attempt.run.Tells (Verdict isTold) last []

variable {isTold : Option StoreCall → BankError → Bool} {last : Option StoreCall}
  {next : α → Attempt β} {event : Event} {error : BankError}

@[simp] theorem complains_pure {value : α} : Complains isTold last (pure value) := rfl

/-- A failure that is not complained about. -/
theorem complains_throw (untold : isTold last error = false) :
    Complains isTold last (throw error : Attempt α) := by
  unfold Complains
  change (if isTold last error then _ else _)
  rw [untold]
  exact rfl

/-- A failure with a complaint. -/
theorem complains_reject (complaint : event.IsComplaint) (told : isTold last error = true) :
    Complains isTold last (reject event error : Attempt α) := by
  unfold Complains
  change (if isTold last error then _ else _)
  rw [told]
  exact ⟨event, by simp [complaint.isLoud], complaint⟩

theorem complains_reject_bind (complaint : event.IsComplaint) (told : isTold last error = true) :
    Complains isTold last (reject event error >>= next) :=
  complains_reject (α := β) complaint told

/-- What says what was done is not loud. -/
theorem complains_report (quiet : event.isLoud = false) :
    Complains isTold last (report event) := by
  change [] ++ [event].filter Event.isLoud = []
  simp [quiet]

theorem complains_report_bind {next : Unit → Attempt β} (quiet : event.isLoud = false)
    (rest : (next ()).Complains isTold last) : Complains isTold last (report event >>= next) := by
  change (next ()).run.Tells _ last ([] ++ [event].filter Event.isLoud)
  rwa [List.filter_cons_of_neg (by simp [quiet])]

theorem complains_now_bind {next : Instant → Attempt β}
    (rest : ∀ now, (next now).Complains isTold last) :
    Complains isTold last (ExceptT.lift Operation.now >>= next) := rest

theorem complains_freshId_bind {next : Uuid → Attempt β}
    (rest : ∀ id, (next id).Complains isTold last) :
    Complains isTold last (ExceptT.lift Operation.freshId >>= next) := rest

theorem complains_freshSalt_bind {next : List UInt8 → Attempt β}
    (rest : ∀ salt, (next salt).Complains isTold last) :
    Complains isTold last (ExceptT.lift Operation.freshSalt >>= next) := rest

/-- A call of the store whose reply is looked at, be it a failure or not. -/
theorem complains_lift_call_bind {call : StoreCall} {next : Except StoreError call.Reply → Attempt β}
    (rest : ∀ reply, (next reply).Complains isTold (some call)) :
    Complains isTold last (ExceptT.lift (Operation.call call) >>= next) := rest

theorem complains_ofExcept {result : Except BankError α}
    (untold : ∀ error, result = .error error → isTold last error = false) :
    Complains isTold last (ofExcept result) := by
  cases result with
  | ok value => exact complains_pure
  | error error => exact complains_throw (untold error rfl)

/-- What is passed on of a failure of the store is not complained about. -/
theorem complains_call {call : StoreCall}
    (untold : ∀ error, isTold (some call) (.storage error) = false) :
    Complains isTold last (Attempt.call call) := by
  intro reply
  cases reply with
  | ok reply => exact complains_pure
  | error error => exact complains_throw (untold error)

/-- One attempt after another. -/
theorem Complains.bind {attempt : Attempt α} (first : attempt.Complains isTold last)
    (second : ∀ last value, (next value).Complains isTold last) :
    (attempt >>= next).Complains isTold last := by
  refine Operation.Tells.andThen first fun last loud result verdict => ?_
  cases result with
  | ok value =>
      obtain rfl : loud = [] := verdict
      exact second last value
  | error error => exact verdict

/-- A call that is followed by what depends on its reply. -/
theorem Complains.call_bind {call : StoreCall} {next : call.Reply → Attempt β}
    (untold : ∀ error, isTold (some call) (.storage error) = false)
    (second : ∀ reply, (next reply).Complains isTold (some call)) :
    (Attempt.call call >>= next).Complains isTold last := by
  intro reply
  cases reply with
  | ok reply => exact second reply
  | error error => exact complains_throw (untold error)

/-- A check that fails with a complaint. -/
theorem Complains.refuse {condition : Prop} [Decidable condition] {rest : Attempt β}
    (complaint : event.IsComplaint) (told : isTold last error = true)
    (passed : rest.Complains isTold last) :
    Complains isTold last (if condition then reject event error >>= next else rest) := by
  split
  · exact complains_reject_bind complaint told
  · exact passed

end Attempt

end Countinghouse
