import Countinghouse.Proofs.Sql.Query
import Countinghouse.Sql.Store
import Mathlib.Data.Finset.Max
import Mathlib.Logic.Relation

/-!
# Transfers that wait for each other

A server runs any number of transfers at the same time. It locks the rows whose balances a
transfer changes until the transfer is committed or rolled back, and a transfer whose next row is
locked for another one has to wait. `Contention.Steps` is this relation: who goes on, and with what
answer, is anyone's choice.

That nobody waits in a circle rests on one property of a single dialog, `Dialog.Climbs`: a row that
is asked for is never less than one that is held. The row that a transfer waits for is therefore
less than the one that its holder waits for.
-/

namespace Countinghouse

/-! ## Rows that an exchange locks -/

namespace Exchange

/-- The account whose row has to be locked before the server can answer. -/
def target? : Exchange → Option Int
  | .execute (.addBalance id _) => some id
  | _ => none

/-- The rows that are held after an exchange. Only an account that is active has a row that the
statement finds, and the end of a transaction gives all rows back. -/
def locksAfter (isActive : Int → Bool) (locks : List Int) : Exchange → List Int
  | .execute (.addBalance id _) => if isActive id then id :: locks else locks
  | .commit | .rollback => []
  | _ => locks

theorem mem_locksAfter {isActive : Int → Bool} {locks : List Int} {exchange : Exchange} {id : Int}
    (held : id ∈ exchange.locksAfter isActive locks) :
    id ∈ locks ∨ exchange.target? = some id ∧ isActive id := by
  unfold locksAfter at held
  split at held
  case h_1 target delta =>
    split at held
    case isTrue active =>
      rcases List.mem_cons.mp held with rfl | old
      · exact .inr ⟨rfl, active⟩
      · exact .inl old
    case isFalse => exact .inl held
  case h_2 | h_3 => cases held
  case h_4 => exact .inl held

end Exchange

/-! ## One dialog -/

namespace Dialog

variable {α β : Type}

/-- Whatever the server answers, and whichever accounts are active, no row is asked for that is
less than a row that is held. At the end the rows that are held and the result are as told. -/
def Climbs (atEnd : List Int → α → Prop) : List Int → Dialog α → Prop
  | locks, .done value => atEnd locks value
  | locks, .send exchange next =>
    (∀ id, exchange.target? = some id → ∀ held ∈ locks, held ≤ id) ∧
      ∀ isActive reply, (next reply).Climbs atEnd (exchange.locksAfter isActive locks)

/-- One dialog after another. -/
theorem Climbs.andThen {middle : List Int → α → Prop} {atEnd : List Int → β → Prop}
    {dialog : Dialog α} {next : α → Dialog β} {locks : List Int}
    (climbs : dialog.Climbs middle locks)
    (goesOn : ∀ held value, middle held value → (next value).Climbs atEnd held) :
    (dialog.andThen next).Climbs atEnd locks := by
  induction dialog generalizing locks with
  | done value => exact goesOn locks value climbs
  | send exchange rest inductionHypothesis =>
      obtain ⟨isAbove, climbs⟩ := climbs
      exact ⟨isAbove, fun isActive reply => inductionHypothesis reply (climbs isActive reply)⟩

end Dialog

namespace Query

variable {α β : Type}

/-- All rows that are held are at most this one. -/
def UpTo (bound : Int) (locks : List Int) : Prop := ∀ held ∈ locks, held ≤ bound

/-- What `Dialog.Climbs` says of a query that may end anyhow, as long as this holds of the rows. -/
def Climbs (atEnd : List Int → Prop) (locks : List Int) (query : Query α) : Prop :=
  query.run.Climbs (fun held _ => atEnd held) locks

theorem Climbs.mono {weak strong : List Int → Prop} {locks : List Int} {query : Query α}
    (climbs : query.Climbs strong locks) (weaker : ∀ held, strong held → weak held) :
    query.Climbs weak locks := by
  have unchanged : query.run.andThen .done = query.run := Dialog.andThen_done _
  unfold Climbs
  rw [← unchanged]
  exact Dialog.Climbs.andThen climbs fun held _ => weaker held

/-- One query after another. The rows may be as in the middle when the first one fails. -/
theorem Climbs.bind {middle atEnd : List Int → Prop} {locks : List Int} {query : Query α}
    {next : α → Query β} (climbs : query.Climbs middle locks)
    (goesOn : ∀ held value, middle held → (next value).Climbs atEnd held)
    (failed : ∀ held, middle held → atEnd held) :
    (query >>= next).Climbs atEnd locks := by
  refine Dialog.Climbs.andThen climbs fun held result reached => ?_
  cases result with
  | ok value => exact goesOn held value reached
  | error error => exact failed held reached

/-- A query that says nothing more. -/
theorem Climbs.silent {atEnd : List Int → Prop} {locks : List Int} {result : Except StoreError α}
    (holds : atEnd locks) : Climbs atEnd locks (ExceptT.mk (pure result)) := holds

theorem climbs_say {atEnd : List Int → Prop} {locks : List Int} {exchange : Exchange}
    (isAbove : ∀ id, exchange.target? = some id → UpTo id locks)
    (holds : ∀ isActive, atEnd (exchange.locksAfter isActive locks)) :
    (say exchange).Climbs atEnd locks := by
  refine ⟨isAbove, fun isActive reply => ?_⟩
  cases reply with
  | ok outcome => exact holds isActive
  | error failure => exact holds isActive

theorem climbs_fetch? {atEnd : List Int → Prop} {locks : List Int} (reader : RowReader α)
    {statement : Statement}
    (isAbove : ∀ id, (Exchange.execute statement).target? = some id → UpTo id locks)
    (holds : ∀ isActive, atEnd ((Exchange.execute statement).locksAfter isActive locks)) :
    (fetch? reader statement).Climbs atEnd locks := by
  refine (climbs_say isAbove holds).bind (fun held outcome reached => ?_) fun _ reached => reached
  split
  case h_1 => exact .silent reached
  case h_2 row _ _ =>
    have read : Climbs atEnd held (ofRead (reader.run row)) := .silent reached
    exact read.bind (fun _ _ reached => .silent reached) fun _ reached => reached

/-- A statement that locks nothing. -/
theorem climbs_fetch {atEnd : List Int → Prop} {locks : List Int} (reader : RowReader α)
    {statement : Statement} (noTarget : (Exchange.execute statement).target? = none)
    (unlocked : ∀ isActive, (Exchange.execute statement).locksAfter isActive locks = locks)
    (holds : atEnd locks) : (fetch reader statement).Climbs atEnd locks := by
  have found : (fetch? reader statement).Climbs atEnd locks :=
    climbs_fetch? reader (fun id isTarget => absurd isTarget (by simp [noTarget]))
      fun isActive => by rwa [unlocked isActive]
  refine found.bind (fun held record reached => ?_) fun _ reached => reached
  cases record <;> exact .silent reached

/-- A query whose failure is looked at. -/
theorem Climbs.attempt {middle atEnd : List Int → Prop} {locks : List Int} {query : Query α}
    {next : Except StoreError α → Query β} (climbs : query.Climbs middle locks)
    (goesOn : ∀ held result, middle held → (next result).Climbs atEnd held) :
    Climbs atEnd locks (ExceptT.lift query.run >>= next) := by
  unfold Climbs
  rw [ExceptT.run_bind_lift]
  exact Dialog.Climbs.andThen climbs goesOn

/-- However its body ends, a transaction gives all rows back. -/
theorem climbs_transaction {body : Query α} (climbs : body.Climbs (fun _ => True) []) :
    (transaction body).Climbs (· = []) [] := by
  have committed : ∀ {held : List Int}, (say .commit).Climbs (· = []) held :=
    climbs_say (fun _ isTarget => by cases isTarget) fun _ => rfl
  have abandoned : ∀ (held : List Int) (error : StoreError),
      (abandon error : Query α).Climbs (· = []) held := fun held error =>
    ⟨fun _ isTarget => absurd isTarget (by simp [Exchange.target?]), fun _ _ => rfl⟩
  have opened : (say .begin).Climbs (· = []) [] :=
    climbs_say (fun _ isTarget => by cases isTarget) fun _ => rfl
  refine opened.bind (fun held _ unlocked => ?_) fun _ unlocked => unlocked
  subst unlocked
  refine climbs.attempt fun held result _ => ?_
  cases result with
  | error error => exact abandoned held error
  | ok value =>
      refine committed.attempt fun held outcome unlocked => ?_
      cases outcome with
      | error error => exact abandoned held error
      | ok outcome => exact .silent unlocked

end Query

namespace Sql

open Query

/-! ## One transfer -/

/-- The change of a balance asks for the account's row, and holds no greater one after it. -/
theorem climbs_addBalance {id delta : Int} {locks : List Int} (isAbove : UpTo id locks) :
    (addBalance id delta).Climbs (UpTo id) locks := by
  have updated : (fetch? RowReader.account (.addBalance id delta)).Climbs (UpTo id) locks := by
    refine climbs_fetch? _ (fun target isTarget => ?_) fun isActive held member => ?_
    · obtain rfl := Option.some.inj isTarget
      exact isAbove
    · rcases Exchange.mem_locksAfter member with old | ⟨isTarget, -⟩
      · exact isAbove held old
      · exact (Option.some.inj isTarget).ge
  refine updated.bind (fun held found reached => ?_) fun _ reached => reached
  cases found <;> exact .silent reached

/-- The lesser of the two accounts comes first, in whichever direction the funds move. -/
theorem climbs_moveBalances (source destination amount : Int) :
    (moveBalances source destination amount).Climbs (fun _ => True) [] := by
  have inOrder : ∀ {first second firstDelta secondDelta : Int}
      (result : Account → Account → Account × Account), first ≤ second →
      Climbs (fun _ => True) [] (do
        let one ← addBalance first firstDelta
        let other ← addBalance second secondDelta
        return result one other) := by
    intro first second firstDelta secondDelta result ascending
    refine (climbs_addBalance fun _ none => by cases none).bind
      (fun held one upToFirst => ?_) fun _ _ => trivial
    refine (climbs_addBalance fun row member => (upToFirst row member).trans ascending).bind
      (fun held other _ => .silent trivial) fun _ _ => trivial
  unfold moveBalances
  split
  case isTrue ascending => exact inOrder _ ascending.le
  case isFalse descending =>
    exact inOrder (fun toAccount fromAccount => (fromAccount, toAccount)) (not_lt.mp descending)

/-- A transfer asks for rows in ascending order and has given all of them back when it ends. -/
theorem climbs_transferFunds (source destination amount : Int) :
    (transferFunds source destination amount).Climbs (· = []) [] := by
  have inserted : ∀ {α : Type} (reader : RowReader α) {statement : Statement},
      (Exchange.execute statement).target? = none →
      (∀ isActive, (Exchange.execute statement).locksAfter isActive [] = []) →
      (fetch reader statement).Climbs (· = []) [] := fun reader _ noTarget unlocked =>
    climbs_fetch reader noTarget unlocked rfl
  refine climbs_transaction ?_
  refine (inserted _ rfl fun _ => rfl).bind (fun held _ unlocked => ?_) fun _ _ => trivial
  subst unlocked
  refine (inserted _ rfl fun _ => rfl).bind (fun held _ unlocked => ?_) fun _ _ => trivial
  subst unlocked
  refine (inserted _ rfl fun _ => rfl).bind (fun held _ unlocked => ?_) fun _ _ => trivial
  subst unlocked
  refine (climbs_moveBalances source destination amount).bind (fun held accounts _ => ?_)
    fun _ _ => trivial
  exact .silent trivial

end Sql

/-! ## Many dialogs with one server -/

namespace Contention

/-- One side of a conversation with the server: what is left of it, and the rows that the server
has locked for it. -/
structure Client (α : Type) where
  rest : Dialog α
  locks : List Int

/-- The account whose row has to be locked before a client can go on. -/
def Client.target? {α : Type} (client : Client α) : Option Int :=
  match client.rest with
  | .done _ => none
  | .send exchange _ => exchange.target?

/-- Whether a client has something to say. -/
def Client.isUnfinished {α : Type} (client : Client α) : Bool :=
  match client.rest with
  | .done _ => false
  | .send .. => true

/-- The accounts that are active at the moment, and the clients of the server. -/
structure State (α : Type) where
  isActive : Int → Bool
  clients : List (Client α)

variable {α : Type}

/-- The row that the client at a place needs, when there is one for its statement to find. -/
def State.needs? (state : State α) (place : Nat) : Option Int :=
  (state.clients[place]?.bind Client.target?).filter state.isActive

/-- The client at a place has something to say. -/
def State.Unfinished (state : State α) (place : Nat) : Prop :=
  ∃ client ∈ state.clients[place]?, client.isUnfinished

/-- The rows that are locked for the client at a place. -/
def State.locks (state : State α) (place : Nat) : List Int :=
  (state.clients[place]?.map Client.locks).getD []

/-- One client waits for a row that is locked for another one. -/
def State.WaitsFor (state : State α) (waiting holding : Nat) : Prop :=
  waiting ≠ holding ∧ ∃ id ∈ state.needs? waiting, id ∈ state.locks holding

/-- A client waits for some other one. -/
def State.IsWaiting (state : State α) (place : Nat) : Prop :=
  ∃ holding < state.clients.length, state.WaitsFor place holding

instance (state : State α) (waiting holding : Nat) : Decidable (state.WaitsFor waiting holding) :=
  inferInstanceAs (Decidable (_ ∧ _))

instance (state : State α) (place : Nat) : Decidable (state.Unfinished place) :=
  inferInstanceAs (Decidable (∃ client ∈ state.clients[place]?, client.isUnfinished))

instance (state : State α) (place : Nat) : Decidable (state.IsWaiting place) :=
  inferInstanceAs (Decidable (∃ holding < state.clients.length, state.WaitsFor place holding))

/-- Zero or more steps of the server and its clients from a state. -/
inductive Steps (start : State α) : State α → Prop where
  | refl : Steps start start
  /-- A client that does not wait is answered, in any way. -/
  | answer {state : State α} {place : Nat} {exchange : Exchange} {next : SqlReply → Dialog α}
      {locks : List Int} (reply : SqlReply)
      (unfinished : state.clients[place]? = some ⟨.send exchange next, locks⟩)
      (free : ¬state.IsWaiting place) (prior : Steps start state) :
      Steps start { state with
        clients := state.clients.set place
          ⟨next reply, exchange.locksAfter state.isActive locks⟩ }
  /-- Accounts are opened, deleted or restored. -/
  | change {state : State α} (isActive : Int → Bool) (prior : Steps start state) :
      Steps start { state with isActive := isActive }

/-- All dialogs are about to begin. -/
def State.opening (isActive : Int → Bool) (dialogs : List (Dialog α)) : State α :=
  ⟨isActive, dialogs.map fun dialog => ⟨dialog, []⟩⟩

/-! ## The invariant -/

/-- A row is locked for one client, and no client asks for a row less than one that is locked for
it, now or later. -/
structure Orderly (state : State α) : Prop where
  climbs : ∀ client ∈ state.clients,
    client.rest.Climbs (fun locks _ => locks = []) client.locks
  isExclusive : ∀ {one other : Nat} {id : Int}, id ∈ state.locks one → id ∈ state.locks other →
    one = other

theorem orderly_opening {isActive : Int → Bool} {dialogs : List (Dialog α)}
    (climbs : ∀ dialog ∈ dialogs, dialog.Climbs (fun locks _ => locks = []) []) :
    Orderly (.opening isActive dialogs) where
  climbs client member := by
    obtain ⟨dialog, known, rfl⟩ := List.mem_map.mp member
    exact climbs dialog known
  isExclusive {one other id} held _ := by
    have noLocks : (State.opening isActive dialogs).locks one = [] := by
      simp only [State.locks, State.opening, List.getElem?_map]
      cases dialogs[one]? <;> rfl
    rw [noLocks] at held
    cases held

theorem locks_set_self {state : State α} {place : Nat} (client : Client α)
    (isPlace : place < state.clients.length) :
    State.locks { state with clients := state.clients.set place client } place = client.locks := by
  simp [State.locks, isPlace]

theorem locks_set_ne {state : State α} {place other : Nat} (client : Client α)
    (distinct : place ≠ other) :
    State.locks { state with clients := state.clients.set place client } other =
      state.locks other := by
  simp [State.locks, distinct]

/-- A row that a client that does not wait has locked, before or by the answer to what it says, is
locked for nobody else. -/
theorem Orderly.eq_of_held {state : State α} (orderly : Orderly state) {place other : Nat}
    {exchange : Exchange} {next : SqlReply → Dialog α} {locks : List Int} {id : Int}
    (unfinished : state.clients[place]? = some ⟨.send exchange next, locks⟩)
    (free : ¬state.IsWaiting place)
    (held : id ∈ exchange.locksAfter state.isActive locks) (elsewhere : id ∈ state.locks other) :
    place = other := by
  rcases Exchange.mem_locksAfter held with old | ⟨isTarget, active⟩
  · have before : id ∈ state.locks place := by simpa [State.locks, unfinished] using old
    exact orderly.isExclusive before elsewhere
  · by_contra distinct
    have isClient : other < state.clients.length := by
      by_contra beyond
      simp [State.locks, List.getElem?_eq_none (not_lt.mp beyond)] at elsewhere
    refine free ⟨other, isClient, distinct, id, ?_, elsewhere⟩
    simp [State.needs?, unfinished, Client.target?, isTarget, active]

/-- An answer keeps the order. -/
theorem Orderly.answer {state : State α} (orderly : Orderly state) {place : Nat}
    {exchange : Exchange} {next : SqlReply → Dialog α} {locks : List Int} (reply : SqlReply)
    (unfinished : state.clients[place]? = some ⟨.send exchange next, locks⟩)
    (free : ¬state.IsWaiting place) :
    Orderly { state with
      clients := state.clients.set place
        ⟨next reply, exchange.locksAfter state.isActive locks⟩ } where
  climbs client member := by
    rcases List.mem_or_eq_of_mem_set member with old | rfl
    · exact orderly.climbs client old
    · exact (orderly.climbs _ (List.mem_of_getElem? unfinished)).2 state.isActive reply
  isExclusive {one other id} heldByOne heldByOther := by
    have isPlace : place < state.clients.length := (List.getElem?_eq_some_iff.mp unfinished).1
    by_cases isOne : place = one <;> by_cases isOther : place = other
    · exact isOne.symm.trans isOther
    · subst isOne
      rw [locks_set_self _ isPlace] at heldByOne
      rw [locks_set_ne _ isOther] at heldByOther
      exact orderly.eq_of_held unfinished free heldByOne heldByOther
    · subst isOther
      rw [locks_set_self _ isPlace] at heldByOther
      rw [locks_set_ne _ isOne] at heldByOne
      exact (orderly.eq_of_held unfinished free heldByOther heldByOne).symm
    · rw [locks_set_ne _ isOne] at heldByOne
      rw [locks_set_ne _ isOther] at heldByOther
      exact orderly.isExclusive heldByOne heldByOther

/-- The order is kept along every run. -/
theorem Steps.orderly {start state : State α} (steps : Steps start state)
    (initial : Orderly start) : Orderly state := by
  induction steps with
  | refl => exact initial
  | answer reply unfinished free prior inductionHypothesis =>
      exact inductionHypothesis.answer reply unfinished free
  | change isActive prior inductionHypothesis =>
      exact ⟨inductionHypothesis.climbs, inductionHypothesis.isExclusive⟩

/-! ## Who waits for whom -/

/-- A client for which a row is locked is not finished, and needs no lesser row. -/
theorem Orderly.le_of_held {state : State α} (orderly : Orderly state) {place : Nat} {held : Int}
    (isHeld : held ∈ state.locks place) :
    state.Unfinished place ∧ ∀ needed ∈ state.needs? place, held ≤ needed := by
  cases found : state.clients[place]? with
  | none => simp [State.locks, found] at isHeld
  | some client =>
      have climbs := orderly.climbs client (List.mem_of_getElem? found)
      have isHeldByClient : held ∈ client.locks := by simpa [State.locks, found] using isHeld
      obtain ⟨rest, locks⟩ := client
      cases rest with
      | done value =>
          have noLocks : locks = [] := climbs
          simp [noLocks] at isHeldByClient
      | send exchange next =>
          refine ⟨⟨_, found, rfl⟩, fun needed needs => ?_⟩
          have isTarget : exchange.target? = some needed := by
            have both := needs
            simp only [State.needs?, found, Option.bind_some, Client.target?,
              Option.mem_def, Option.filter_eq_some_iff] at both
            exact both.1
          exact climbs.1 needed isTarget held isHeldByClient

/-- The row that a client waits for is less than the one that the holder of it waits for. -/
theorem Orderly.needs_lt {state : State α} (orderly : Orderly state) {first second third : Nat}
    (waits : state.WaitsFor first second) (waitsThen : state.WaitsFor second third) :
    ∀ earlier ∈ state.needs? first, ∀ later ∈ state.needs? second, earlier < later := by
  obtain ⟨-, row, needed, held⟩ := waits
  obtain ⟨distinct, other, neededThen, heldByThird⟩ := waitsThen
  intro earlier isEarlier later isLater
  obtain rfl := Option.mem_unique needed isEarlier
  obtain rfl := Option.mem_unique neededThen isLater
  refine lt_of_le_of_ne ((orderly.le_of_held held).2 other isLater) ?_
  rintro rfl
  exact distinct (orderly.isExclusive held heldByThird)

/-- Along a path of clients that wait for each other, the rows that they wait for ascend. -/
theorem Orderly.needs_lt_of_path {state : State α} (orderly : Orderly state) {first last : Nat}
    (path : Relation.TransGen state.WaitsFor first last) {beyond : Nat}
    (goesOn : state.WaitsFor last beyond) :
    ∀ earlier ∈ state.needs? first, ∀ later ∈ state.needs? last, earlier < later := by
  induction path generalizing beyond with
  | single waits => exact orderly.needs_lt waits goesOn
  | tail path waits inductionHypothesis =>
      intro earlier isEarlier later isLater
      obtain ⟨-, between, isBetween, -⟩ := id waits
      exact (inductionHypothesis waits earlier isEarlier between isBetween).trans
        (orderly.needs_lt waits goesOn between isBetween later isLater)

/-- Nobody waits for itself through others. -/
theorem Orderly.no_cycle {state : State α} (orderly : Orderly state) (place : Nat) :
    ¬Relation.TransGen state.WaitsFor place place := by
  intro cycle
  obtain ⟨next, waits, -⟩ := Relation.TransGen.head'_iff.mp cycle
  obtain ⟨-, row, needed, -⟩ := id waits
  exact lt_irrefl row (orderly.needs_lt_of_path cycle waits row needed row needed)

/-- As long as a client has not finished, one of those that have not can go on: the one that needs
the greatest row does not wait. -/
theorem Orderly.exists_free {state : State α} (orderly : Orderly state) {place : Nat}
    (unfinished : state.Unfinished place) :
    ∃ other, state.Unfinished other ∧ ¬state.IsWaiting other := by
  by_contra noneFree
  have allWait : ∀ other, state.Unfinished other → state.IsWaiting other := by
    simpa using noneFree
  let places := (Finset.range state.clients.length).filter state.Unfinished
  have isPlace : ∀ {other}, state.Unfinished other → other ∈ places := by
    rintro other ⟨client, found, isUnfinished⟩
    exact Finset.mem_filter.mpr ⟨Finset.mem_range.mpr (List.getElem?_eq_some_iff.mp found).1,
      client, found, isUnfinished⟩
  obtain ⟨last, member, isGreatest⟩ :=
    places.exists_max_image (fun other => (state.needs? other).getD 0) ⟨place, isPlace unfinished⟩
  obtain ⟨holder, -, waits⟩ := allWait last (Finset.mem_filter.mp member).2
  obtain ⟨-, row, needed, held⟩ := id waits
  obtain ⟨isUnfinished, -⟩ := orderly.le_of_held held
  obtain ⟨third, -, waitsThen⟩ := allWait holder isUnfinished
  obtain ⟨-, other, neededThen, -⟩ := id waitsThen
  have ascending := orderly.needs_lt waits waitsThen row needed other neededThen
  have isAtMost := isGreatest holder (isPlace isUnfinished)
  rw [Option.mem_def] at needed neededThen
  simp only [needed, neededThen, Option.getD_some] at isAtMost
  omega

/-! ## Schedules -/

/-- The client at a place goes on with an answer, unless it is finished or has to wait. -/
def State.proceed (state : State α) (place : Nat) (reply : SqlReply) : State α :=
  match state.clients[place]? with
  | some ⟨.send exchange next, locks⟩ =>
    if state.IsWaiting place then state
    else { state with
      clients := state.clients.set place ⟨next reply, exchange.locksAfter state.isActive locks⟩ }
  | _ => state

/-- The state after clients went on one after another. -/
def State.play (state : State α) (schedule : List (Nat × SqlReply)) : State α :=
  schedule.foldl (fun state move => state.proceed move.1 move.2) state

theorem Steps.proceed {start state : State α} (steps : Steps start state) (place : Nat)
    (reply : SqlReply) : Steps start (state.proceed place reply) := by
  unfold State.proceed
  split
  case h_1 unfinished =>
    split
    case isTrue => exact steps
    case isFalse free => exact .answer reply unfinished free steps
  case h_2 => exact steps

theorem Steps.play {start state : State α} (steps : Steps start state)
    (schedule : List (Nat × SqlReply)) : Steps start (state.play schedule) := by
  induction schedule generalizing state with
  | nil => exact steps
  | cons move rest inductionHypothesis => exact inductionHypothesis (steps.proceed move.1 move.2)

/-! ## Transfers -/

/-- Transfers that are about to begin, each with its source, its destination and its amount. -/
def transfers (orders : List (Int × Int × Int)) : List (Dialog (Except StoreError Movement)) :=
  orders.map fun (source, destination, amount) =>
    (Sql.transferFunds source destination amount).run

/-- Of any number of transfers between any accounts, however they take turns and whatever they are
answered, none waits for itself through others, and as long as one has not finished, one of those
that have not does not wait. -/
theorem transfers_go_on {isActive : Int → Bool} {orders : List (Int × Int × Int)}
    {state : State (Except StoreError Movement)}
    (steps : Steps (.opening isActive (transfers orders)) state) :
    (∀ place, ¬Relation.TransGen state.WaitsFor place place) ∧
      ((∃ place, state.Unfinished place) →
        ∃ place, state.Unfinished place ∧ ¬state.IsWaiting place) := by
  have orderly : Orderly state := steps.orderly (orderly_opening fun dialog member => by
    obtain ⟨⟨source, destination, amount⟩, -, rfl⟩ := List.mem_map.mp member
    exact Sql.climbs_transferFunds source destination amount)
  exact ⟨orderly.no_cycle, fun ⟨_, unfinished⟩ => orderly.exists_free unfinished⟩

/-- A row that every statement of a transfer can use. -/
def anyRow : SqlRow :=
  [("id", .int 1), ("owner", .text "ann"), ("balance", .int 0), ("currency", .text "USD"),
    ("is_deleted", .bool false), ("from_account_id", .int 1), ("to_account_id", .int 2),
    ("account_id", .int 1), ("amount", .int 5), ("created_at", .text "2024-01-01T00:00:00Z")]

/-- Three transfers that move funds in a circle: the last one waits for the first, which waits for
the second, and all have written their transfer and their entries. -/
def circle : State (Except StoreError Movement) :=
  (State.opening (fun _ => true) (transfers [(1, 2, 5), (2, 3, 5), (3, 1, 5)])).play
    ((List.range 4).flatMap (fun _ => [0, 1, 2].map fun place => (place, .ok ⟨[anyRow], 1⟩)) ++
      [(0, .ok ⟨[anyRow], 1⟩), (1, .ok ⟨[anyRow], 1⟩)])

theorem circle_goes_on :
    circle.WaitsFor 2 0 ∧ circle.WaitsFor 0 1 ∧
      (∀ place, ¬Relation.TransGen circle.WaitsFor place place) ∧
      ∃ place, circle.Unfinished place ∧ ¬circle.IsWaiting place := by
  have steps : Steps (.opening (fun _ => true) (transfers [(1, 2, 5), (2, 3, 5), (3, 1, 5)]))
      circle := Steps.refl.play _
  obtain ⟨noCycle, someGoesOn⟩ := transfers_go_on steps
  exact ⟨by decide +kernel, by decide +kernel, noCycle, someGoesOn ⟨2, by decide +kernel⟩⟩

end Contention

end Countinghouse
