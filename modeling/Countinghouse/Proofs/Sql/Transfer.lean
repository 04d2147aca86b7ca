import Countinghouse.Proofs.Sql.Transcript
import Countinghouse.Sql.Store
import Mathlib.Tactic.IntervalCases

/-!
# A transfer of funds as it is told to a server

`Sql.transferPlan` is what the server is told when all goes well, written without the branch on
the identifiers. The dialog follows it until the server gives an answer it cannot use, whatever
the server answers; from the place of that answer follows all that is said about the dialog's
result.
-/

namespace Countinghouse.Sql

open Query

/-- What is wrong with the answer to one exchange of a transfer. -/
def complaint? : Exchange → SqlReply → Option StoreError
  | .execute (.insertTransfer ..), reply =>
    RowReader.transfer.complaint? (.ofSql .rowNotFound) reply
  | .execute (.insertEntry ..), reply => RowReader.entry.complaint? (.ofSql .rowNotFound) reply
  | .execute (.addBalance id _), reply =>
    RowReader.account.complaint? (.accountUnavailable id) reply
  | _, .error failure => some (.ofSql failure)
  | _, .ok _ => none

/-- The statement that changes the balance of an account of a transfer. -/
def balanceUpdate (source amount id : Int) : Exchange :=
  .execute (.addBalance id (if id = source then -amount else amount))

/-- What is said for a transfer from the first to the last exchange. -/
def transferPlan (source destination amount : Int) : List Exchange :=
  [.begin, .execute (.insertTransfer source destination amount),
    .execute (.insertEntry source (-amount)), .execute (.insertEntry destination amount),
    balanceUpdate source amount (min source destination),
    balanceUpdate source amount (max source destination), .commit]

/-- A record was read from the answer to a statement that was sent. -/
def RecordFor {α : Type} (replies : Nat → SqlReply) (sent : List Exchange) (reader : RowReader α)
    (statement : Statement) (record : α) : Prop :=
  ∃ place : Nat, sent[place]? = some (.execute statement) ∧
    reader.record? (replies place) = some record

/-- All statements of a transfer were sent, and each record of the movement is the one that the
server returned for its own statement. -/
structure Booked (replies : Nat → SqlReply) (sent : List Exchange)
    (source destination amount : Int) (movement : Movement) : Prop where
  transfer : RecordFor replies sent RowReader.transfer (.insertTransfer source destination amount)
    movement.transfer
  fromEntry : RecordFor replies sent RowReader.entry (.insertEntry source (-amount))
    movement.fromEntry
  toEntry : RecordFor replies sent RowReader.entry (.insertEntry destination amount)
    movement.toEntry
  fromAccount : RecordFor replies sent RowReader.account (.addBalance source (-amount))
    movement.fromAccount
  toAccount : RecordFor replies sent RowReader.account (.addBalance destination amount)
    movement.toAccount

variable {replies : Nat → SqlReply} {source destination amount : Int}

/-! ## The dialog follows its plan -/

/-- The dialog for the balance of one account. -/
theorem follows_addBalance (id delta : Int) (told : List Exchange) :
    Follows complaint? replies told [.execute (.addBalance id delta)]
      (fun account => RowReader.account.record? (replies told.length) = some account)
      ((addBalance id delta).recited replies told) :=
  follows_fetch?_bind (fun _ => rfl) rfl rfl

/-- Where the balance of the first of two accounts is changed, the lesser identifier's first. -/
def balancePlace (place : Nat) (id other : Int) : Nat := if id < other then place else place + 1

theorem follows_moveBalances (distinct : source ≠ destination) (told : List Exchange) :
    Follows complaint? replies told
      [balanceUpdate source amount (min source destination),
        balanceUpdate source amount (max source destination)]
      (fun accounts =>
        RowReader.account.record? (replies (balancePlace told.length source destination)) =
            some accounts.1 ∧
          RowReader.account.record? (replies (balancePlace told.length destination source)) =
            some accounts.2)
      ((moveBalances source destination amount).recited replies told) := by
  unfold moveBalances balancePlace balanceUpdate
  rcases distinct.lt_or_gt with ascending | descending
  · rw [if_pos ascending, if_pos ascending, if_neg ascending.not_gt, min_eq_left ascending.le,
      max_eq_right ascending.le, if_pos rfl, if_neg distinct.symm]
    refine (follows_addBalance source (-amount) told).next fun fromAccount fromRecord => ?_
    refine (follows_addBalance destination amount _).next fun toAccount toRecord => ?_
    rw [List.length_append] at toRecord
    exact .pure ⟨fromRecord, toRecord⟩
  · rw [if_neg descending.not_gt, if_neg descending.not_gt, if_pos descending,
      min_eq_right descending.le, max_eq_left descending.le, if_pos rfl, if_neg distinct.symm]
    refine (follows_addBalance destination amount told).next fun toAccount toRecord => ?_
    refine (follows_addBalance source (-amount) _).next fun fromAccount fromRecord => ?_
    rw [List.length_append] at fromRecord
    exact .pure ⟨fromRecord, toRecord⟩

/-- The records of a movement are what the server answered at these places. -/
structure RecordedAt (replies : Nat → SqlReply) (fromPlace toPlace : Nat) (movement : Movement) :
    Prop where
  transfer : RowReader.transfer.record? (replies 1) = some movement.transfer
  fromEntry : RowReader.entry.record? (replies 2) = some movement.fromEntry
  toEntry : RowReader.entry.record? (replies 3) = some movement.toEntry
  fromAccount : RowReader.account.record? (replies fromPlace) = some movement.fromAccount
  toAccount : RowReader.account.record? (replies toPlace) = some movement.toAccount

/-- The dialog between the begin and the commit. -/
theorem follows_book (distinct : source ≠ destination) :
    Follows complaint? replies [.begin]
      [.execute (.insertTransfer source destination amount),
        .execute (.insertEntry source (-amount)), .execute (.insertEntry destination amount),
        balanceUpdate source amount (min source destination),
        balanceUpdate source amount (max source destination)]
      (RecordedAt replies (balancePlace 4 source destination) (balancePlace 4 destination source))
      ((book source destination amount).recited replies [.begin]) := by
  refine (follows_fetch rfl).next fun transfer transferRecord => ?_
  refine (follows_fetch rfl).next fun fromEntry fromRecord => ?_
  refine (follows_fetch rfl).next fun toEntry toRecord => ?_
  refine (follows_moveBalances distinct _).bind fun accounts accountRecords => ?_
  exact .pure ⟨transferRecord, fromRecord, toRecord, accountRecords.1, accountRecords.2⟩

/-- What the dialog comes to when the answer to the exchange at a place is the last one of the
plan: either it is not what the dialog needs, or all was said. -/
structure EndsAt (replies : Nat → SqlReply) (source destination amount : Int) (place : Nat)
    (exchange : Exchange) (result : Except StoreError Movement) (sent : List Exchange) : Prop where
  atPlace : (transferPlan source destination amount)[place]? = some exchange
  accepted : ∀ earlier < place, ∀ other, (transferPlan source destination amount)[earlier]? =
    some other → complaint? other (replies earlier) = none
  isSent : sent = (transferPlan source destination amount).take (place + 1) ++
    if 0 < place ∧ ¬result.isOk then [.rollback] else []
  isResult : match complaint? exchange (replies place) with
    | some error => result = .error error
    | none => exchange = .commit ∧ ∃ movement, result = .ok movement ∧
        RecordedAt replies (balancePlace 4 source destination) (balancePlace 4 destination source)
          movement

/-- The whole dialog. -/
theorem transferFunds_endsAt (distinct : source ≠ destination) :
    ∃ place exchange, EndsAt replies source destination amount place exchange
      ((transferFunds source destination amount).recited replies []).1
      ((transferFunds source destination amount).recited replies []).2 := by
  obtain ⟨outcome, follows, said⟩ := recited_transaction (follows_book distinct) (by
    intro exchange atEnd reply
    have isEnd : exchange = .begin ∨ exchange = .commit := by simpa using atEnd
    rcases isEnd with rfl | rfl <;> cases reply <;> rfl)
  rw [show transferFunds source destination amount = Query.transaction _ from rfl, said]
  cases follows with
  | completed movement accepted recorded =>
      have each := (accepted_iff _ _).mp accepted
      simp only [List.length_nil, Nat.zero_add] at each
      refine ⟨6, .commit, rfl, fun earlier _ other found => each earlier other found, rfl, ?_⟩
      rw [each 6 .commit rfl]
      exact ⟨rfl, movement, rfl, recorded⟩
  | @brokenOff earlier later exchange error isPlan accepted wrong =>
      have whole : transferPlan source destination amount = earlier ++ exchange :: later := isPlan
      have each := (accepted_iff _ _).mp accepted
      simp only [List.length_nil, Nat.zero_add] at each wrong
      refine ⟨earlier.length, exchange, ?_, fun place isEarlier other found => ?_, ?_, ?_⟩
      · rw [whole, List.getElem?_append_right le_rfl, Nat.sub_self, List.getElem?_cons_zero]
      · rw [whole, List.getElem?_append_left isEarlier] at found
        exact each place other found
      · rw [whole, List.take_length_add_append]
        cases earlier <;> simp [undoing, Except.isOk, Except.toBool]
      · rw [wrong]

/-! ## Answers -/

theorem ofSql_ne_accountUnavailable (failure : SqlFailure) (id : Int) :
    StoreError.ofSql failure ≠ .accountUnavailable id := by
  unfold StoreError.ofSql
  split
  · dsimp only
    split_ifs <;> simp
  · simp

/-- An account is reported unavailable when an update of it finds no row. -/
theorem complaint?_eq_accountUnavailable_iff {exchange : Exchange} {reply : SqlReply} {id : Int} :
    complaint? exchange reply = some (.accountUnavailable id) ↔
      ∃ delta outcome, exchange = .execute (.addBalance id delta) ∧ reply = .ok outcome ∧
        outcome.rows = [] := by
  constructor
  · intro wrong
    unfold complaint? at wrong
    split at wrong
    case h_3 other delta =>
      rcases RowReader.complaint?_cases wrong with ⟨failure, isOfSql⟩ | ⟨isMissing, outcome, noRow⟩
      · exact absurd isOfSql.symm (ofSql_ne_accountUnavailable failure id)
      · obtain rfl := StoreError.accountUnavailable.inj isMissing
        exact ⟨delta, outcome, rfl, noRow⟩
    case h_4 failure _ _ _ =>
      exact absurd (Option.some.inj wrong) (ofSql_ne_accountUnavailable failure id)
    case h_5 => cases wrong
    all_goals
      rcases RowReader.complaint?_cases wrong with ⟨failure, isOfSql⟩ | ⟨isMissing, -⟩
      · exact absurd isOfSql.symm (ofSql_ne_accountUnavailable failure id)
      · exact absurd isMissing.symm (ofSql_ne_accountUnavailable _ id)
  · rintro ⟨delta, outcome, rfl, rfl, noRow⟩
    exact RowReader.complaint?_of_noRow noRow

/-! ## Places in the plan -/

theorem balancePlace_lt (place : Nat) (id other : Int) :
    balancePlace place id other < place + 2 := by
  unfold balancePlace
  split <;> omega

theorem balancePlace_eq_last (distinct : source ≠ destination) :
    balancePlace 4 source destination = 5 ∨ balancePlace 4 destination source = 5 := by
  unfold balancePlace
  rcases distinct.lt_or_gt with ascending | descending
  · exact .inr (if_neg ascending.not_gt)
  · exact .inl (if_neg descending.not_gt)

theorem transferPlan_source :
    (transferPlan source destination amount)[balancePlace 4 source destination]? =
      some (.execute (.addBalance source (-amount))) := by
  unfold balancePlace
  split
  case isTrue ascending => simp [transferPlan, balanceUpdate, ascending.le]
  case isFalse descending =>
    have isGreater : destination ≤ source := not_lt.mp descending
    simp [transferPlan, balanceUpdate, isGreater]

theorem transferPlan_destination (distinct : source ≠ destination) :
    (transferPlan source destination amount)[balancePlace 4 destination source]? =
      some (.execute (.addBalance destination amount)) := by
  unfold balancePlace
  split
  case isTrue descending => simp [transferPlan, balanceUpdate, descending.le, distinct.symm]
  case isFalse ascending =>
    have isGreater : source ≤ destination := not_lt.mp ascending
    simp [transferPlan, balanceUpdate, isGreater, distinct.symm]

/-- Nothing of the plan is said twice. -/
theorem transferPlan_place_unique (distinct : source ≠ destination) {first second : Nat}
    {exchange : Exchange}
    (atFirst : (transferPlan source destination amount)[first]? = some exchange)
    (atSecond : (transferPlan source destination amount)[second]? = some exchange) :
    first = second := by
  have different : min source destination ≠ max source destination := by
    rcases distinct.lt_or_gt with ascending | descending <;> omega
  have noneTwice : (transferPlan source destination amount).Nodup := by
    simp [transferPlan, balanceUpdate, distinct, different]
  exact (List.getElem?_inj (List.getElem?_eq_some_iff.mp atFirst).1 noneTwice).mp
    (atFirst.trans atSecond.symm)

theorem ne_rollback {place : Nat} {exchange : Exchange}
    (inPlan : (transferPlan source destination amount)[place]? = some exchange) :
    exchange ≠ .rollback := by
  rintro rfl
  have isPlanned := List.mem_of_getElem? inPlan
  simp [transferPlan, balanceUpdate] at isPlanned

/-- When the server answers all five statements with records, these make a movement. -/
theorem exists_recordedAt (accepted : ∀ place < 6, ∀ exchange,
      (transferPlan source destination amount)[place]? = some exchange →
        complaint? exchange (replies place) = none) (distinct : source ≠ destination) :
    ∃ movement, RecordedAt replies (balancePlace 4 source destination)
      (balancePlace 4 destination source) movement := by
  obtain ⟨transfer, transferRecord⟩ :=
    RowReader.complaint?_eq_none_iff.mp (accepted 1 (by omega) _ rfl)
  obtain ⟨fromEntry, fromEntryRecord⟩ :=
    RowReader.complaint?_eq_none_iff.mp (accepted 2 (by omega) _ rfl)
  obtain ⟨toEntry, toEntryRecord⟩ :=
    RowReader.complaint?_eq_none_iff.mp (accepted 3 (by omega) _ rfl)
  obtain ⟨fromAccount, fromRecord⟩ := RowReader.complaint?_eq_none_iff.mp
    (accepted _ (balancePlace_lt 4 source destination) _ transferPlan_source)
  obtain ⟨toAccount, toRecord⟩ := RowReader.complaint?_eq_none_iff.mp
    (accepted _ (balancePlace_lt 4 destination source) _ (transferPlan_destination distinct))
  exact ⟨⟨transfer, fromAccount, toAccount, fromEntry, toEntry⟩,
    transferRecord, fromEntryRecord, toEntryRecord, fromRecord, toRecord⟩

/-! ## What is said, and what is returned -/

namespace EndsAt

variable {place : Nat} {exchange : Exchange} {result : Except StoreError Movement}
  {sent : List Exchange}

/-- What was said, apart from the rollback, stands in the plan at its own place. -/
theorem sent_iff (ends : EndsAt replies source destination amount place exchange result sent)
    {index : Nat} {said : Exchange} (isPlanned : said ≠ .rollback) :
    sent[index]? = some said ↔
      index ≤ place ∧ (transferPlan source destination amount)[index]? = some said := by
  have isLess : place < (transferPlan source destination amount).length :=
    (List.getElem?_eq_some_iff.mp ends.atPlace).1
  rw [ends.isSent]
  by_cases inPlan : index ≤ place
  · rw [List.getElem?_append_left (by rw [List.length_take]; omega),
      List.getElem?_take_of_lt (by omega), and_iff_right inPlan]
  · rw [List.getElem?_append_right (by rw [List.length_take]; omega)]
    simp only [inPlan, false_and, iff_false]
    split
    · intro found
      have isRollback := List.mem_of_getElem? found
      exact isPlanned (List.mem_singleton.mp isRollback)
    · simp

theorem place_le (ends : EndsAt replies source destination amount place exchange result sent) :
    place ≤ 6 :=
  Nat.lt_succ_iff.mp (List.getElem?_eq_some_iff.mp ends.atPlace).1

/-- The commit is said at the last place of the plan. -/
theorem commit_iff (ends : EndsAt replies source destination amount place exchange result sent)
    (distinct : source ≠ destination) {index : Nat} :
    sent[index]? = some .commit ↔ index = 6 ∧ place = 6 := by
  rw [ends.sent_iff (by simp)]
  constructor
  · rintro ⟨reached, isCommit⟩
    have isLast : index = 6 := transferPlan_place_unique distinct isCommit rfl
    exact ⟨isLast, by have := ends.place_le; omega⟩
  · rintro ⟨rfl, rfl⟩
    exact ⟨le_rfl, rfl⟩

/-- A record of a statement of the plan is the one in the answer at the statement's place. -/
theorem recordFor_iff
    (ends : EndsAt replies source destination amount place exchange result sent)
    (distinct : source ≠ destination) {α : Type} {reader : RowReader α} {statement : Statement}
    {record : α} {index : Nat}
    (inPlan : (transferPlan source destination amount)[index]? = some (.execute statement)) :
    RecordFor replies sent reader statement record ↔
      index ≤ place ∧ reader.record? (replies index) = some record := by
  unfold RecordFor
  simp only [ends.sent_iff (by simp : Exchange.execute statement ≠ .rollback)]
  constructor
  · rintro ⟨other, ⟨reached, isStatement⟩, isRecord⟩
    obtain rfl := transferPlan_place_unique distinct inPlan isStatement
    exact ⟨reached, isRecord⟩
  · rintro ⟨reached, isRecord⟩
    exact ⟨index, ⟨reached, inPlan⟩, isRecord⟩

/-- A movement is booked when it is made of the answers at the places of the five statements. -/
theorem booked_iff (ends : EndsAt replies source destination amount place exchange result sent)
    (distinct : source ≠ destination) {movement : Movement} :
    Booked replies sent source destination amount movement ↔
      5 ≤ place ∧ RecordedAt replies (balancePlace 4 source destination)
        (balancePlace 4 destination source) movement := by
  have atTransfer : (transferPlan source destination amount)[1]? = some _ := rfl
  have atFromEntry : (transferPlan source destination amount)[2]? = some _ := rfl
  have atToEntry : (transferPlan source destination amount)[3]? = some _ := rfl
  have isFrom := balancePlace_lt 4 source destination
  have isTo := balancePlace_lt 4 destination source
  constructor
  · rintro ⟨transfer, fromEntry, toEntry, fromAccount, toAccount⟩
    rw [ends.recordFor_iff distinct atTransfer] at transfer
    rw [ends.recordFor_iff distinct atFromEntry] at fromEntry
    rw [ends.recordFor_iff distinct atToEntry] at toEntry
    rw [ends.recordFor_iff distinct transferPlan_source] at fromAccount
    rw [ends.recordFor_iff distinct (transferPlan_destination distinct)] at toAccount
    refine ⟨?_, transfer.2, fromEntry.2, toEntry.2, fromAccount.2, toAccount.2⟩
    rcases balancePlace_eq_last distinct with isLast | isLast
    · exact isLast ▸ fromAccount.1
    · exact isLast ▸ toAccount.1
  · rintro ⟨reached, recorded⟩
    exact {
      transfer := (ends.recordFor_iff distinct atTransfer).mpr ⟨by omega, recorded.transfer⟩
      fromEntry := (ends.recordFor_iff distinct atFromEntry).mpr
        ⟨by omega, recorded.fromEntry⟩
      toEntry := (ends.recordFor_iff distinct atToEntry).mpr ⟨by omega, recorded.toEntry⟩
      fromAccount := (ends.recordFor_iff distinct transferPlan_source).mpr
        ⟨by omega, recorded.fromAccount⟩
      toAccount := (ends.recordFor_iff distinct (transferPlan_destination distinct)).mpr
        ⟨by omega, recorded.toAccount⟩ }

/-- The dialog does not end at an update that was answered with a record. -/
theorem record?_eq_none
    (ends : EndsAt replies source destination amount place exchange result sent) {id delta : Int}
    (inPlan : (transferPlan source destination amount)[place]? =
      some (.execute (.addBalance id delta))) :
    RowReader.account.record? (replies place) = none := by
  obtain rfl := Option.some.inj (inPlan.symm.trans ends.atPlace)
  have ending := ends.isResult
  by_contra isRecord
  obtain ⟨account, isRecord⟩ := Option.ne_none_iff_exists'.mp isRecord
  have noComplaint : complaint? (.execute (.addBalance id delta)) (replies place) = none :=
    RowReader.complaint?_eq_none_iff.mpr ⟨account, isRecord⟩
  rw [noComplaint] at ending
  exact Exchange.noConfusion ending.1

/-- All statements were sent and answered with records just if the commit was said. -/
theorem exists_booked_iff
    (ends : EndsAt replies source destination amount place exchange result sent)
    (distinct : source ≠ destination) :
    (∃ movement, Booked replies sent source destination amount movement) ↔ place = 6 := by
  simp only [ends.booked_iff distinct]
  constructor
  · rintro ⟨movement, reached, recorded⟩
    by_contra notLast
    obtain rfl : place = 5 := by have := ends.place_le; omega
    rcases balancePlace_eq_last distinct with isLast | isLast
    · have noRecord := ends.record?_eq_none (isLast ▸ transferPlan_source)
      exact Option.some_ne_none _ ((isLast ▸ recorded.fromAccount).symm.trans noRecord)
    · have noRecord := ends.record?_eq_none (isLast ▸ transferPlan_destination distinct)
      exact Option.some_ne_none _ ((isLast ▸ recorded.toAccount).symm.trans noRecord)
  · rintro rfl
    obtain ⟨movement, recorded⟩ := exists_recordedAt ends.accepted distinct
    exact ⟨movement, by omega, recorded⟩

theorem isOk_iff (ends : EndsAt replies source destination amount place exchange result sent)
    (distinct : source ≠ destination) :
    result.isOk ↔ ∃ index, sent[index]? = some .commit ∧ (replies index).isOk := by
  simp only [ends.commit_iff distinct]
  have ending := ends.isResult
  constructor
  · intro isOk
    split at ending
    case h_1 error _ =>
      rw [ending] at isOk
      cases isOk
    case h_2 noComplaint =>
      obtain ⟨rfl, -⟩ := ending
      have isLast : place = 6 := transferPlan_place_unique distinct ends.atPlace rfl
      refine ⟨6, ⟨rfl, isLast⟩, ?_⟩
      subst isLast
      cases reply : replies 6 with
      | ok outcome => rfl
      | error failure => simp [complaint?, reply] at noComplaint
  · rintro ⟨index, ⟨rfl, rfl⟩, isOk⟩
    obtain rfl : exchange = .commit := Option.some.inj (ends.atPlace.symm.trans rfl)
    cases reply : replies 6 with
    | error failure =>
        rw [reply] at isOk
        cases isOk
    | ok outcome =>
        rw [show complaint? .commit (replies 6) = none by rw [reply]; rfl] at ending
        obtain ⟨-, movement, rfl, -⟩ := ending
        rfl

theorem booked_of_ok (ends : EndsAt replies source destination amount place exchange result sent)
    (distinct : source ≠ destination) {movement : Movement} (isOk : result = .ok movement) :
    Booked replies sent source destination amount movement := by
  have ending := ends.isResult
  split at ending
  case h_1 => cases isOk.symm.trans ending
  case h_2 =>
    obtain ⟨rfl, other, isOther, recorded⟩ := ending
    obtain rfl := Except.ok.inj (isOk.symm.trans isOther)
    have isLast : place = 6 := transferPlan_place_unique distinct ends.atPlace rfl
    exact (ends.booked_iff distinct).mpr ⟨by omega, recorded⟩

theorem accountUnavailable_iff
    (ends : EndsAt replies source destination amount place exchange result sent) {id : Int} :
    result = .error (.accountUnavailable id) ↔ ∃ index delta outcome,
      sent[index]? = some (.execute (.addBalance id delta)) ∧ replies index = .ok outcome ∧
        outcome.rows = [] := by
  have ending := ends.isResult
  constructor
  · intro isUnavailable
    split at ending
    case h_1 error wrong =>
      obtain rfl := Except.error.inj (ending.symm.trans isUnavailable)
      obtain ⟨delta, outcome, rfl, answered, noRow⟩ :=
        complaint?_eq_accountUnavailable_iff.mp wrong
      exact ⟨place, delta, outcome, (ends.sent_iff (by simp)).mpr ⟨le_rfl, ends.atPlace⟩, answered,
        noRow⟩
    case h_2 =>
      obtain ⟨-, movement, isOk, -⟩ := ending
      cases isOk.symm.trans isUnavailable
  · rintro ⟨index, delta, outcome, isSent, answered, noRow⟩
    obtain ⟨reached, inPlan⟩ := (ends.sent_iff (by simp)).mp isSent
    have wrong : complaint? (.execute (.addBalance id delta)) (replies index) =
        some (.accountUnavailable id) :=
      complaint?_eq_accountUnavailable_iff.mpr ⟨delta, outcome, rfl, answered, noRow⟩
    rcases reached.lt_or_eq with isEarlier | rfl
    · exact absurd (ends.accepted index isEarlier _ inPlan) (by rw [wrong]; simp)
    · obtain rfl := Option.some.inj (inPlan.symm.trans ends.atPlace)
      rwa [wrong] at ending

/-- The dialog goes past the begin when that is answered without an error. -/
theorem begun_iff (ends : EndsAt replies source destination amount place exchange result sent) :
    (replies 0).isOk ↔ 0 < place := by
  have noComplaint_iff : complaint? .begin (replies 0) = none ↔ (replies 0).isOk := by
    cases replies 0 <;> simp [complaint?, Except.isOk, Except.toBool]
  rw [← noComplaint_iff]
  constructor
  · intro noComplaint
    by_contra atBegin
    obtain rfl : place = 0 := by omega
    obtain rfl : exchange = .begin := Option.some.inj (ends.atPlace.symm.trans rfl)
    have ending := ends.isResult
    rw [noComplaint] at ending
    exact Exchange.noConfusion ending.1
  · exact fun isPast => ends.accepted 0 isPast _ rfl

end EndsAt

/-! ## The dialog is dropped -/

/-- A transaction is open while its statements are answered. -/
theorem mayBeOpen_transferPlan {place : Nat} {pending : Exchange} (isBefore : place < 6)
    (atPlace : (transferPlan source destination amount)[place]? = some pending)
    (begun : 0 < place → (replies 0).isOk) :
    mayBeOpen (Dialog.answered replies ((transferPlan source destination amount).take place))
      pending := by
  cases answer : replies 0 with
  | error failure =>
      rw [answer] at begun
      obtain rfl : place = 0 := by
        by_contra isLater
        cases begun (by omega)
      obtain rfl := Option.some.inj atPlace
      rfl
  | ok outcome =>
      interval_cases place <;> obtain rfl := Option.some.inj atPlace <;>
        simp [transferPlan, balanceUpdate, Dialog.answered, mayBeOpen, mayLeaveOpen, answer]

/-- Whoever waits for the answer to an exchange before the commit and then no longer does leaves
nothing open: what was said up to there is rolled back. -/
theorem dropped_transferFunds {driver : SqlDriver} (rollsBack : driver.RollsBack)
    {place last : Nat} {exchange : Exchange} {result : Except StoreError Movement}
    {sent : List Exchange}
    (ends : EndsAt replies source destination amount last exchange result sent)
    (isSent : ((transferFunds source destination amount).recited replies []).2 = sent)
    (isReached : place ≤ last) (isBefore : place < 6) :
    dropped driver replies (transferFunds source destination amount) place =
      (transferPlan source destination amount).take (place + 1) ++ [.rollback] := by
  have isLess : place < (transferPlan source destination amount).length :=
    isBefore.trans (Nat.lt_succ_self 6)
  obtain ⟨pending, atPlace⟩ : ∃ pending,
      (transferPlan source destination amount)[place]? = some pending :=
    ⟨_, List.getElem?_eq_getElem isLess⟩
  have isSaid : sent[place]? = some pending :=
    (ends.sent_iff (ne_rollback atPlace)).mpr ⟨isReached, atPlace⟩
  have said : sent.take place = (transferPlan source destination amount).take place := by
    rw [ends.isSent, List.take_append_of_le_length (by rw [List.length_take]; omega),
      List.take_take, min_eq_left (by omega)]
  have isOpen : mayBeOpen
      (Dialog.answered replies ((transferPlan source destination amount).take place)) pending :=
    mayBeOpen_transferPlan isBefore atPlace fun isPast => ends.begun_iff.mpr (by omega)
  subst isSent
  rw [dropped_eq driver isSaid, said, rollsBack _ _ isOpen, List.take_add_one, atPlace]
  rfl

/-! ## All or nothing -/

/-- What holds of the dialog of a transfer, however the server answers. -/
structure AllOrNothing (replies : Nat → SqlReply) (source destination amount : Int)
    (result : Except StoreError Movement) (sent : List Exchange) : Prop where
  /-- The plan is said up to some place. What was begun is rolled back if the transfer fails. -/
  planned : ∃ count ≤ 7, 0 < count ∧
    sent = (transferPlan source destination amount).take count ++
      if (replies 0).isOk ∧ ¬result.isOk then [.rollback] else []
  /-- The commit is sent if all five statements were sent and answered with a record each. -/
  commits : .commit ∈ sent ↔ ∃ movement, Booked replies sent source destination amount movement
  /-- The transfer succeeds if its commit is acknowledged. -/
  succeeds : result.isOk ↔ ∃ place : Nat, sent[place]? = some .commit ∧ (replies place).isOk
  /-- The movement is made of the answers to its own statements. -/
  returns : ∀ movement, result = .ok movement →
    Booked replies sent source destination amount movement
  /-- An account is not available if the update of its balance finds no row. -/
  misses : ∀ id, result = .error (.accountUnavailable id) ↔ ∃ (place : Nat) (delta : Int)
    (outcome : SqlOutcome), sent[place]? = some (.execute (.addBalance id delta)) ∧
      replies place = .ok outcome ∧ outcome.rows = []
  /-- With a driver that rolls back what is open, all is rolled back and nothing committed if the
  call is dropped before its commit. -/
  drops : ∀ driver : SqlDriver, driver.RollsBack →
    ∀ place < 6, sent[place]? = (transferPlan source destination amount)[place]? →
      dropped driver replies (transferFunds source destination amount) place =
          (transferPlan source destination amount).take (place + 1) ++ [.rollback] ∧
        .commit ∉ dropped driver replies (transferFunds source destination amount) place

/-- A transfer of funds between two accounts is all or nothing, as far as it is told to the
server. -/
theorem transferFunds_allOrNothing (replies : Nat → SqlReply) (source destination amount : Int)
    (distinct : source ≠ destination) :
    AllOrNothing replies source destination amount
      ((transferFunds source destination amount).recited replies []).1
      ((transferFunds source destination amount).recited replies []).2 := by
  obtain ⟨last, exchange, ends⟩ := transferFunds_endsAt distinct
  refine ⟨⟨last + 1, by have := ends.place_le; omega, last.succ_pos, ?_⟩, ?_,
    ends.isOk_iff distinct, fun _ => ends.booked_of_ok distinct,
    fun _ => ends.accountUnavailable_iff, ?_⟩
  · rw [if_congr (and_congr_left' ends.begun_iff) rfl rfl]
    exact ends.isSent
  · rw [ends.exists_booked_iff distinct, List.mem_iff_getElem?]
    simp only [ends.commit_iff distinct, exists_eq_left]
  · intro driver rollsBack place isBefore asPlanned
    have isLess : place < (transferPlan source destination amount).length :=
      isBefore.trans (Nat.lt_succ_self 6)
    have atPlace := List.getElem?_eq_getElem isLess
    rw [atPlace] at asPlanned
    have isReached := ((ends.sent_iff (ne_rollback atPlace)).mp asPlanned).1
    rw [dropped_transferFunds rollsBack ends rfl isReached isBefore]
    refine ⟨rfl, fun isCommitted => ?_⟩
    rcases List.mem_append.mp isCommitted with inPlan | isRollback
    · obtain ⟨index, isCommit⟩ := List.mem_iff_getElem?.mp inPlan
      rw [List.getElem?_take] at isCommit
      split at isCommit
      · have isLast : index = 6 := transferPlan_place_unique distinct isCommit rfl
        omega
      · cases isCommit
    · cases List.mem_singleton.mp isRollback

/-- The answers of a server that has both accounts, the payer's with the greater identifier. -/
def rehearsedReplies : Nat → SqlReply
  | 1 => returned [("from_account_id", .int 2), ("to_account_id", .int 1), ("amount", .int 10)]
  | 2 => returned [("account_id", .int 2), ("amount", .int (-10))]
  | 3 => returned [("account_id", .int 1), ("amount", .int 10)]
  | 4 => returned [("owner", .text "payee"), ("balance", .int 10), ("currency", .text "USD"),
      ("is_deleted", .bool false)]
  | 5 => returned [("owner", .text "payer"), ("balance", .int 90), ("currency", .text "USD"),
      ("is_deleted", .bool false)]
  | _ => .ok ⟨[], 0⟩
where
  /-- The answer with one row. -/
  returned (columns : SqlRow) : SqlReply :=
    .ok ⟨[("id", .int 1) :: ("created_at", .text "2025-01-01T00:00:00Z") :: columns], 1⟩

/-- A driver that rolls back whatever may be open, and adds nothing otherwise. -/
def careful : SqlDriver where
  onDrop heard pending := if mayBeOpen heard pending then [.rollback] else []

theorem transferFunds_allOrNothing_in_rehearsal :
    (2 : Int) ≠ 1 ∧ ((transferFunds 2 1 10).recited rehearsedReplies []).1.isOk ∧
      .commit ∈ ((transferFunds 2 1 10).recited rehearsedReplies []).2 ∧
      (∃ movement, Booked rehearsedReplies
        ((transferFunds 2 1 10).recited rehearsedReplies []).2 2 1 10 movement) ∧
      careful.RollsBack ∧
      dropped careful rehearsedReplies (transferFunds 2 1 10) 3 =
        (transferPlan 2 1 10).take 4 ++ [.rollback] := by
  have law := transferFunds_allOrNothing rehearsedReplies 2 1 10 (by decide)
  have rollsBack : careful.RollsBack := fun _ _ isOpen => if_pos isOpen
  exact ⟨by decide, by decide +kernel, by decide +kernel, law.commits.mp (by decide +kernel),
    rollsBack, (law.drops careful rollsBack 3 (by decide) (by decide +kernel)).1⟩

end Countinghouse.Sql
