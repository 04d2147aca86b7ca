import Countinghouse.Proofs.Operation.Guarded
import Countinghouse.Proofs.Store.History

/-!
# Services

A `Service` takes orders, and a program carries out each of them. Any number of orders are
carried out at the same time over one store: a run starts orders, answers their calls of
the store one at a time, and meets their other needs, all in any order. `Service.Steps` is
this relation. What a run records are the calls only, each with the order it was made for.

`Service.Contract` is what the orders promise each other: every order makes the calls that it
is permitted, provided that the others keep what it relies on. `Service.Contract.of_steps`
turns this into a law of whole runs.
-/

namespace Countinghouse

/-- What can be ordered, and the program that carries out an order. -/
structure Service where
  Order : Type
  Result : Order → Type
  program : (order : Order) → Operation (Result order)

namespace Service

variable {service : Service}

/-- An order that was started, with what is left of its program. -/
structure Task (service : Service) where
  order : service.Order
  rest : Operation (service.Result order)

/-- The tables, and the orders started so far. -/
structure State (service : Service) where
  tables : Tables
  tasks : List service.Task

/-- No rows are stored and no order was started. -/
def State.idle : service.State := ⟨.empty, []⟩

/-- A call of the store made for an order. -/
structure Deed (service : Service) where
  order : service.Order
  access : Access

/-- The call of a deed and the time it was made. -/
def Deed.timed (deed : service.Deed) : TimedCall := deed.access.toTimedCall

/-- Zero or more steps of the service from a state, with the calls made of the store. -/
inductive Steps (start : service.State) : List service.Deed → service.State → Prop where
  | refl : Steps start [] start
  /-- Another order is started. -/
  | order {deeds state} (order : service.Order) (prior : Steps start deeds state) :
      Steps start deeds ⟨state.tables, state.tasks ++ [⟨order, service.program order⟩]⟩
  /-- The store answers the call that a task waits for. -/
  | call {deeds state} {place : Nat} {order : service.Order} {call : StoreCall}
      {next : Except StoreError call.Reply → Operation (service.Result order)} (now : Instant)
      (waiting : state.tasks[place]? = some ⟨order, .ask (.store call) next⟩)
      (prior : Steps start deeds state) :
      Steps start (deeds ++ [⟨order, ⟨⟨now, call⟩, state.tables⟩⟩])
        ⟨(Tables.perform now call state.tables).2,
          state.tasks.set place ⟨order, next (Tables.perform now call state.tables).1⟩⟩
  /-- Anything answers another need that a task waits for. -/
  | answer {deeds state} {place : Nat} {order : service.Order} {need : Need}
      {next : need.Answer → Operation (service.Result order)} (answer : need.Answer)
      (outside : ∀ call, need ≠ .store call)
      (waiting : state.tasks[place]? = some ⟨order, .ask need next⟩)
      (prior : Steps start deeds state) :
      Steps start deeds ⟨state.tables, state.tasks.set place ⟨order, next answer⟩⟩

/-- Compose two runs that meet at the same state. -/
theorem Steps.trans {first middle last : service.State} {earlier later : List service.Deed}
    (run : Steps first earlier middle) (suffix : Steps middle later last) :
    Steps first (earlier ++ later) last := by
  induction suffix with
  | refl => simpa using run
  | order order prior inductionHypothesis => exact .order order inductionHypothesis
  | call now waiting prior inductionHypothesis =>
      simpa [List.append_assoc] using Steps.call now waiting inductionHypothesis
  | answer answer outside waiting prior inductionHypothesis =>
      exact .answer answer outside waiting inductionHypothesis

/-- The store sees the calls of all orders as one history. -/
theorem Steps.tables_eq {start state : service.State} {deeds : List service.Deed}
    (steps : Steps start deeds state) :
    state.tables = start.tables.follow (deeds.map Deed.timed) := by
  induction steps with
  | refl => rfl
  | order order prior inductionHypothesis => exact inductionHypothesis
  | call now waiting prior inductionHypothesis =>
      rw [List.map_append, Tables.follow_append, ← inductionHypothesis]
      rfl
  | answer answer outside waiting prior inductionHypothesis => exact inductionHypothesis

/-- What holds of every program, and is preserved by whatever answers it, holds of what is left
of every task. -/
theorem Steps.forall_task {good : (order : service.Order) → Operation (service.Result order) → Prop}
    (started : ∀ order, good order (service.program order))
    (answered : ∀ {order need next} (answer : need.Answer), good order (.ask need next) →
      good order (next answer))
    {start state : service.State} {deeds : List service.Deed} (steps : Steps start deeds state)
    (initial : ∀ task ∈ start.tasks, good task.order task.rest) :
    ∀ task ∈ state.tasks, good task.order task.rest := by
  induction steps with
  | refl => exact initial
  | order order prior inductionHypothesis =>
      intro task member
      rcases List.mem_append.mp member with old | new
      · exact inductionHypothesis task old
      · obtain rfl := List.mem_singleton.mp new
        exact started order
  | call now waiting prior inductionHypothesis =>
      intro task member
      rcases List.mem_or_eq_of_mem_set member with old | rfl
      · exact inductionHypothesis task old
      · exact answered _ (inductionHypothesis _ (List.mem_of_getElem? waiting))
  | answer answer outside waiting prior inductionHypothesis =>
      intro task member
      rcases List.mem_or_eq_of_mem_set member with old | rfl
      · exact inductionHypothesis task old
      · exact answered answer (inductionHypothesis _ (List.mem_of_getElem? waiting))

/-- What holds of a task at its place when it is started, and is preserved by every answer that the
task gets and by whatever other tasks do, holds of every task of a run. -/
theorem Steps.forall_place
    {good : List service.Deed → service.State → Nat → (order : service.Order) →
      Operation (service.Result order) → Prop}
    (started : ∀ {deeds state} order, Steps .idle deeds state →
      good deeds ⟨state.tables, state.tasks ++ [⟨order, service.program order⟩]⟩
        state.tasks.length order (service.program order))
    (called : ∀ {deeds state place order call next} now, Steps .idle deeds state →
      state.tasks[place]? = some ⟨order, .ask (.store call) next⟩ →
      good deeds state place order (.ask (.store call) next) →
      good (deeds ++ [⟨order, ⟨⟨now, call⟩, state.tables⟩⟩])
        ⟨(Tables.perform now call state.tables).2,
          state.tasks.set place ⟨order, next (Tables.perform now call state.tables).1⟩⟩
        place order (next (Tables.perform now call state.tables).1))
    (answered : ∀ {deeds state place order need next} (answer : need.Answer),
      (∀ call, need ≠ .store call) → state.tasks[place]? = some ⟨order, .ask need next⟩ →
      good deeds state place order (.ask need next) →
      good deeds ⟨state.tables, state.tasks.set place ⟨order, next answer⟩⟩ place order
        (next answer))
    (passed : ∀ {deeds later state next place order rest}, Steps state later next →
      good deeds state place order rest → good (deeds ++ later) next place order rest)
    {deeds : List service.Deed} {state : service.State} (steps : Steps .idle deeds state)
    {place : Nat} {task : service.Task} (atPlace : state.tasks[place]? = some task) :
    good deeds state place task.order task.rest := by
  induction steps generalizing place task with
  | refl => exact absurd atPlace (by simp [State.idle])
  | @order deeds state order prior inductionHypothesis =>
      rcases Nat.lt_trichotomy place state.tasks.length with old | rfl | beyond
      · rw [List.getElem?_append_left old] at atPlace
        simpa using passed (.order order .refl) (inductionHypothesis atPlace)
      · obtain rfl : (⟨order, service.program order⟩ : service.Task) = task := by
          simpa using atPlace
        exact started order prior
      · have none : (state.tasks ++ [⟨order, service.program order⟩])[place]? = none :=
          List.getElem?_eq_none (by rw [List.length_append]; exact beyond)
        rw [none] at atPlace
        cases atPlace
  | @call deeds state asking order call next now waiting prior inductionHypothesis =>
      by_cases same : asking = place
      · subst same
        rw [List.getElem?_set_self (List.getElem?_eq_some_iff.mp waiting).1] at atPlace
        obtain rfl := Option.some.inj atPlace
        exact called now prior waiting (inductionHypothesis waiting)
      · rw [List.getElem?_set_ne same] at atPlace
        exact passed (.call now waiting .refl) (inductionHypothesis atPlace)
  | @answer deeds state asking order need next answer outside waiting prior inductionHypothesis =>
      by_cases same : asking = place
      · subst same
        rw [List.getElem?_set_self (List.getElem?_eq_some_iff.mp waiting).1] at atPlace
        obtain rfl := Option.some.inj atPlace
        exact answered answer outside waiting (inductionHypothesis waiting)
      · rw [List.getElem?_set_ne same] at atPlace
        simpa using passed (.answer answer outside waiting .refl) (inductionHypothesis atPlace)

/-- A run stands at each of its deeds for a moment: a task waits for the call, and the run goes
on from the tables that the call leaves. -/
theorem Steps.at_deed {start state : service.State} {earlier later : List service.Deed}
    {deed : service.Deed} (steps : Steps start (earlier ++ deed :: later) state) :
    ∃ before after : service.State, Steps start earlier before ∧
      deed.access.before = before.tables ∧
      (∃ next, ⟨deed.order, .ask (.store deed.access.call) next⟩ ∈ before.tasks) ∧
      after.tables = deed.access.after ∧ Steps after later state := by
  generalize whole : earlier ++ deed :: later = deeds at steps
  induction steps generalizing later with
  | refl => simp at whole
  | order order prior inductionHypothesis =>
      obtain ⟨before, after, reached, found, waiting, left, goesOn⟩ := inductionHypothesis whole
      exact ⟨before, after, reached, found, waiting, left, .order order goesOn⟩
  | @call deeds state place order call next now waiting prior inductionHypothesis =>
      rcases List.eq_nil_or_concat later with rfl | ⟨between, final, rfl⟩
      · obtain ⟨rfl, isLast⟩ := List.append_inj' whole rfl
        obtain rfl := (List.cons.inj isLast).1
        exact ⟨state, _, prior, rfl, ⟨next, List.mem_of_getElem? waiting⟩, rfl, .refl⟩
      · rw [List.concat_eq_append, ← List.cons_append, ← List.append_assoc] at whole
        obtain ⟨front, isLast⟩ := List.append_inj' whole rfl
        obtain rfl := (List.cons.inj isLast).1
        obtain ⟨before, after, reached, found, waits, left, goesOn⟩ := inductionHypothesis front
        exact ⟨before, after, reached, found, waits, left,
          List.concat_eq_append ▸ .call now waiting goesOn⟩
  | answer answer outside waiting prior inductionHypothesis =>
      obtain ⟨before, after, reached, found, waits, left, goesOn⟩ := inductionHypothesis whole
      exact ⟨before, after, reached, found, waits, left, .answer answer outside waiting goesOn⟩

/-! ## Schedules -/

/-- The task at a place goes on with what it waits for, and the call it made. The store
answers at the given time, and `answers` meets every other need. Nothing happens when the
task is done or there is none. -/
def State.proceed (state : service.State) (place : Nat) (now : Instant)
    (answers : (need : Need) → need.Answer) : List service.Deed × service.State :=
  match state.tasks[place]? with
  | some ⟨order, .ask (.store call) next⟩ =>
    let (reply, tables) := Tables.perform now call state.tables
    ([⟨order, ⟨⟨now, call⟩, state.tables⟩⟩], ⟨tables, state.tasks.set place ⟨order, next reply⟩⟩)
  | some ⟨order, .ask need next⟩ =>
    ([], ⟨state.tables, state.tasks.set place ⟨order, next (answers need)⟩⟩)
  | _ => ([], state)

/-- One step of a schedule: to start an order, or to let the task at a place go on. -/
inductive Move (service : Service) where
  | order (order : service.Order)
  | proceed (place : Nat) (now : Instant) (answers : (need : Need) → need.Answer)

/-- The state after a move, with the call it made. -/
def State.move (state : service.State) : service.Move → List service.Deed × service.State
  | .order order => ([], ⟨state.tables, state.tasks ++ [⟨order, service.program order⟩]⟩)
  | .proceed place now answers => state.proceed place now answers

/-- The state after a schedule, with the calls it made. -/
def State.play (state : service.State) : List service.Move → List service.Deed × service.State
  | [] => ([], state)
  | move :: rest =>
    let (first, middle) := state.move move
    let (later, last) := middle.play rest
    (first ++ later, last)

theorem proceed_steps (state : service.State) (place : Nat) (now : Instant)
    (answers : (need : Need) → need.Answer) :
    Steps state (state.proceed place now answers).1 (state.proceed place now answers).2 := by
  unfold State.proceed
  split
  · next order call next waiting => exact .call now waiting .refl
  · next order need next outside waiting =>
      refine .answer (answers need) (fun call isStore => ?_) waiting .refl
      subst isStore
      exact outside call next rfl HEq.rfl
  · exact .refl

theorem move_steps (state : service.State) (move : service.Move) :
    Steps state (state.move move).1 (state.move move).2 := by
  cases move with
  | order order => exact .order order .refl
  | proceed place now answers => exact proceed_steps state place now answers

/-- What a schedule plays is a run. -/
theorem play_steps (state : service.State) (moves : List service.Move) :
    Steps state (state.play moves).1 (state.play moves).2 := by
  induction moves generalizing state with
  | nil => exact .refl
  | cons move rest inductionHypothesis =>
      exact (move_steps state move).trans (inductionHypothesis (state.move move).2)

/-! ## What orders promise each other -/

/-- What every order relies on while it waits, what each may ask of the store, and the
proof that the programs live by it. -/
structure Contract (service : Service) where
  keeps : Tables → Tables → Prop
  permits : service.Order → Tables → StoreCall → Prop
  keepsRefl : ∀ tables, keeps tables tables
  keepsTrans : ∀ {first second third}, keeps first second → keeps second third →
    keeps first third
  /-- No order disturbs what the others rely on. -/
  kept : ∀ {order tables call} (now : Instant), permits order tables call →
    keeps tables (Tables.perform now call tables).2
  guarded : ∀ order tables,
    (service.program order).Guarded keeps (permits order) (fun _ _ => True) tables

namespace Contract

variable (contract : service.Contract)

/-- What is left of a task lives by the contract from these tables on. -/
def Honest (tables : Tables) (task : service.Task) : Prop :=
  task.rest.Guarded contract.keeps (contract.permits task.order) (fun _ _ => True) tables

/-- A task stays honest while it waits. -/
theorem Honest.wait {contract : service.Contract} {tables later : Tables} {task : service.Task}
    (honest : contract.Honest tables task) (kept : contract.keeps tables later) :
    contract.Honest later task :=
  Operation.Guarded.wait contract.keepsTrans (fun _ _ => trivial) honest kept

/-- All tasks of a run that starts idle are honest. -/
theorem honest_of_steps {state : service.State} {deeds : List service.Deed}
    (steps : Steps .idle deeds state) : ∀ task ∈ state.tasks, contract.Honest state.tables task := by
  induction steps with
  | refl => exact fun task member => absurd member List.not_mem_nil
  | order order prior inductionHypothesis =>
      intro task member
      rcases List.mem_append.mp member with old | new
      · exact inductionHypothesis task old
      · obtain rfl := List.mem_singleton.mp new
        exact contract.guarded order _
  | call now waiting prior inductionHypothesis =>
      obtain ⟨permitted, continues⟩ :=
        inductionHypothesis _ (List.mem_of_getElem? waiting) _ (contract.keepsRefl _)
      intro task member
      rcases List.mem_or_eq_of_mem_set member with old | rfl
      · exact (inductionHypothesis task old).wait (contract.kept now permitted)
      · exact continues now
  | answer answer outside waiting prior inductionHypothesis =>
      intro task member
      rcases List.mem_or_eq_of_mem_set member with old | rfl
      · exact inductionHypothesis task old
      · exact (Operation.guarded_ask_outside outside).mp
          (inductionHypothesis _ (List.mem_of_getElem? waiting)) answer

/-- What holds before the first call, and is preserved by every permitted call, holds after
every run. -/
theorem of_steps (law : List service.Deed → Tables → Prop) (initial : law [] .empty)
    (preserved : ∀ deeds (deed : service.Deed), law deeds deed.access.before →
      contract.permits deed.order deed.access.before deed.access.call →
      law (deeds ++ [deed]) deed.access.after)
    {state : service.State} {deeds : List service.Deed} (steps : Steps .idle deeds state) :
    law deeds state.tables := by
  induction steps with
  | refl => exact initial
  | order order prior inductionHypothesis => exact inductionHypothesis
  | call now waiting prior inductionHypothesis =>
      have honest := contract.honest_of_steps prior _ (List.mem_of_getElem? waiting)
      exact preserved _ ⟨_, ⟨⟨now, _⟩, _⟩⟩ inductionHypothesis (honest _ (contract.keepsRefl _)).1
  | answer answer outside waiting prior inductionHypothesis => exact inductionHypothesis

/-- Every call that was made is permitted by the tables that it found. -/
theorem permitted_of_steps {state : service.State} {deeds : List service.Deed}
    (steps : Steps .idle deeds state) :
    ∀ deed ∈ deeds, contract.permits deed.order deed.access.before deed.access.call := by
  refine contract.of_steps (fun deeds _ => ∀ deed ∈ deeds,
    contract.permits deed.order deed.access.before deed.access.call) ?_ ?_ steps
  · exact fun deed member => absurd member List.not_mem_nil
  · intro deeds latest earlier permitted deed member
    rcases List.mem_append.mp member with old | new
    · exact earlier deed old
    · obtain rfl := List.mem_singleton.mp new
      exact permitted

/-- What a call of the run found is kept to its end. -/
theorem keeps_of_steps {state : service.State} {deeds : List service.Deed}
    (steps : Steps .idle deeds state) :
    ∀ deed ∈ deeds, contract.keeps deed.access.before state.tables := by
  refine contract.of_steps (fun deeds tables => ∀ deed ∈ deeds,
    contract.keeps deed.access.before tables) ?_ ?_ steps
  · exact fun deed member => absurd member List.not_mem_nil
  · intro deeds latest earlier permitted deed member
    have kept := contract.kept latest.access.now permitted
    rcases List.mem_append.mp member with old | new
    · exact contract.keepsTrans (earlier deed old) kept
    · obtain rfl := List.mem_singleton.mp new
      exact kept

end Contract

end Service

end Countinghouse
