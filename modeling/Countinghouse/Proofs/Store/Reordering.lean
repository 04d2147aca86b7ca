import Countinghouse.Proofs.Store.Booking
import Countinghouse.Proofs.Store.Conservation

/-!
# The order of transfers

A transfer writes balances that were computed from those it found, but what it comes to is an amount
that is taken from one balance and added to another. `Tables.Remits` says what a series of transfers
comes to. Only the transfers that are carried out count, and not the order in which they are.
Whether one of them is carried out is a matter of its two accounts, so the order makes no difference
to transfers between other accounts.
-/

namespace Countinghouse

/-! ## Rows without numbers and times -/

/-- A transfer without its number and its time. -/
def Transfer.bare (transfer : Transfer) : Transfer := { transfer with id := 0, createdAt := ⟨0⟩ }

/-- An entry without its number and its time. -/
def Entry.bare (entry : Entry) : Entry := { entry with id := 0, createdAt := ⟨0⟩ }

/-- A movement whose rows have no numbers and no times. -/
def Movement.bare (movement : Movement) : Movement where
  transfer := movement.transfer.bare
  fromAccount := movement.fromAccount
  toAccount := movement.toAccount
  fromEntry := movement.fromEntry.bare
  toEntry := movement.toEntry.bare

/-- The entries of a transfer, without numbers and times. -/
def Transfer.bareLegs (transfer : Transfer) : List Entry :=
  [⟨0, transfer.fromAccountId, -transfer.amount, ⟨0⟩⟩,
    ⟨0, transfer.toAccountId, transfer.amount, ⟨0⟩⟩]

/-- What a transfer adds to the balance of an account. -/
def Transfer.share (id : Int) (transfer : Transfer) : Int :=
  Tables.shift transfer.fromAccountId transfer.toAccountId transfer.amount id

/-- The transfer that a call asks for. -/
def StoreCall.remittance? : StoreCall → Option Transfer
  | .transferFunds source destination amount => some ⟨0, source, destination, amount, ⟨0⟩⟩
  | _ => none

/-- The transfer that a call has carried out, if it has. -/
def Access.remitted? (access : Access) : Option Transfer :=
  (access.call.movement? access.reply).map (·.transfer.bare)

namespace Tables

/-- A row of the accounts with the shares of transfers added to its balance. -/
def settleAll (remitted : List Transfer) (row : Account) : Account :=
  { row with balance := row.balance + (remitted.map (Transfer.share row.id)).sum }

theorem settleAll_nil (row : Account) : settleAll [] row = row := by
  simp [settleAll]

theorem settleAll_append (first second : List Transfer) (row : Account) :
    settleAll (first ++ second) row = settleAll second (settleAll first row) := by
  unfold settleAll
  rw [List.map_append, List.sum_append, Int.add_assoc]

theorem settleAll_eq_of_perm {remitted other : List Transfer} (perm : remitted.Perm other) :
    settleAll remitted = settleAll other := by
  funext row
  unfold settleAll
  rw [(perm.map (Transfer.share row.id)).sum_eq]

/-! ## What a series of transfers comes to -/

/-- Transfers were carried out, and nothing else was done. -/
structure Remits (remitted : List Transfer) (before after : Tables) : Prop where
  users : after.users = before.users
  accounts : after.accounts = before.accounts.map (settleAll remitted)
  transfers : after.transfers.map (·.bare) = before.transfers.map (·.bare) ++ remitted
  entries : after.entries.map (·.bare) =
    before.entries.map (·.bare) ++ remitted.flatMap (·.bareLegs)
  sessions : after.sessions = before.sessions
  lastAccountId : after.lastAccountId = before.lastAccountId
  lastTransferId : after.lastTransferId = before.lastTransferId + remitted.length
  lastEntryId : after.lastEntryId = before.lastEntryId + 2 * remitted.length

/-- The same users, accounts, sessions and counters, and the same transfers and entries but for
their numbers, their times and their order. -/
structure SameBooks (tables other : Tables) : Prop where
  users : tables.users = other.users
  accounts : tables.accounts = other.accounts
  transfers : (tables.transfers.map (·.bare)).Perm (other.transfers.map (·.bare))
  entries : (tables.entries.map (·.bare)).Perm (other.entries.map (·.bare))
  sessions : tables.sessions = other.sessions
  lastAccountId : tables.lastAccountId = other.lastAccountId
  lastTransferId : tables.lastTransferId = other.lastTransferId
  lastEntryId : tables.lastEntryId = other.lastEntryId

namespace Remits

variable {remitted others : List Transfer} {before after final : Tables}

theorem refl (tables : Tables) : Remits [] tables tables where
  users := rfl
  accounts := (List.map_id'' settleAll_nil _).symm
  transfers := (List.append_nil _).symm
  entries := (List.append_nil _).symm
  sessions := rfl
  lastAccountId := rfl
  lastTransferId := (Int.add_zero _).symm
  lastEntryId := (Int.add_zero _).symm

/-- One series after another. -/
theorem append (first : Remits remitted before after) (second : Remits others after final) :
    Remits (remitted ++ others) before final where
  users := second.users.trans first.users
  accounts := by
    rw [second.accounts, first.accounts, List.map_map]
    exact List.map_congr_left fun row _ => (settleAll_append remitted others row).symm
  transfers := by rw [second.transfers, first.transfers, List.append_assoc]
  entries := by rw [second.entries, first.entries, List.flatMap_append, List.append_assoc]
  sessions := second.sessions.trans first.sessions
  lastAccountId := second.lastAccountId.trans first.lastAccountId
  lastTransferId := by
    rw [second.lastTransferId, first.lastTransferId, List.length_append]
    omega
  lastEntryId := by
    rw [second.lastEntryId, first.lastEntryId, List.length_append]
    omega

/-- The order of the transfers makes no difference to the books. -/
theorem sameBooks (remits : Remits remitted before after) (other : Remits others before final)
    (perm : remitted.Perm others) : SameBooks after final where
  users := remits.users.trans other.users.symm
  accounts := by rw [remits.accounts, other.accounts, settleAll_eq_of_perm perm]
  transfers := by
    rw [remits.transfers, other.transfers]
    exact perm.append_left _
  entries := by
    rw [remits.entries, other.entries]
    exact (perm.flatMap_right _).append_left _
  sessions := remits.sessions.trans other.sessions.symm
  lastAccountId := remits.lastAccountId.trans other.lastAccountId.symm
  lastTransferId := by rw [remits.lastTransferId, other.lastTransferId, perm.length_eq]
  lastEntryId := by rw [remits.lastEntryId, other.lastEntryId, perm.length_eq]

end Remits

variable {tables other : Tables} {source destination amount : Int} {payer payee : Account}

/-- Settling a transfer writes balances only. -/
theorem settle_eq (source destination fromBalance toBalance : Int) (row : Account) :
    settle source destination fromBalance toBalance row =
      { row with balance := (settle source destination fromBalance toBalance row).balance } := by
  unfold settle
  split
  · rfl
  · split <;> rfl

/-- A transfer that is carried out adds its shares to the balances that it finds. -/
theorem remits_moved (numbered : tables.Numbered) (now : Instant)
    (transferable : tables.Transferable source destination amount payer payee) :
    Remits [⟨0, source, destination, amount, ⟨0⟩⟩] tables
      (tables.moved now source destination amount payer payee) where
  users := rfl
  accounts := by
    rw [accounts_moved]
    refine List.map_congr_left fun row stored => ?_
    rw [settle_eq, settle_balance numbered transferable stored]
    simp only [settleAll, Transfer.share, List.map_cons, List.map_nil, List.sum_singleton]
  transfers := by
    unfold moved
    rw [List.map_append]
    rfl
  entries := by
    unfold moved
    rw [List.map_append]
    rfl
  sessions := rfl
  lastAccountId := rfl
  lastTransferId := rfl
  lastEntryId := rfl

/-! ## A series of calls -/

/-- The transfers that calls carry out, one after another, without numbers and times. -/
def remitted (tables : Tables) (calls : List TimedCall) : List Transfer :=
  (tables.accesses calls).filterMap Access.remitted?

theorem remitted_cons (tables : Tables) (timed : TimedCall) (rest : List TimedCall) :
    tables.remitted (timed :: rest) =
      (Access.mk timed tables).remitted?.toList ++ (tables.next timed).remitted rest := by
  rw [remitted, accesses, List.filterMap_cons]
  cases (Access.mk timed tables).remitted? <;> rfl

section

variable {now : Instant} {before after : Tables} {call : StoreCall}
  {reply : Except StoreError call.Reply}

/-- A transfer is carried out, or nothing is done. -/
theorem Effect.remits (effect : Effect now before call reply after) (numbered : before.Numbered)
    (isTransfer : call.remittance?.isSome) :
    Remits ((call.movement? reply).map (·.transfer.bare)).toList before after := by
  cases effect with
  | nothing _ noMovement =>
      rw [noMovement]
      exact .refl before
  | transferred transferable => exact remits_moved numbered now transferable
  | registered | updated | opened | deleted | restored | admitted | blocked => cases isTransfer

/-- What a call has carried out is what it asked for. -/
theorem Effect.asked (effect : Effect now before call reply after) {movement : Movement}
    (isCarriedOut : call.movement? reply = some movement) :
    call.remittance? = some movement.transfer.bare := by
  cases effect with
  | nothing _ noMovement =>
      rw [noMovement] at isCarriedOut
      cases isCarriedOut
  | transferred =>
      cases isCarriedOut
      rfl
  | registered | updated | opened | deleted | restored | admitted | blocked => cases isCarriedOut

end

/-- A series of transfers comes to those of them that are carried out. -/
theorem remits_follow (numbered : tables.Numbered) (calls : List TimedCall)
    (onlyTransfers : ∀ timed ∈ calls, timed.call.remittance?.isSome) :
    Remits (tables.remitted calls) tables (tables.follow calls) := by
  induction calls generalizing tables with
  | nil => exact .refl tables
  | cons timed rest inductionHypothesis =>
      have effect := tables.next_effect timed
      have first := effect.remits numbered (onlyTransfers timed List.mem_cons_self)
      rw [remitted_cons]
      exact first.append (inductionHypothesis (numbered.step effect)
        fun other member => onlyTransfers other (List.mem_cons_of_mem _ member))

/-- Where every call is carried out, the transfers are those that are asked for. -/
theorem remitted_eq_of_all {calls : List TimedCall}
    (allCarriedOut : ∀ access ∈ tables.accesses calls,
      ∃ movement, access.call.movement? access.reply = some movement) :
    tables.remitted calls = (calls.map (·.call)).filterMap StoreCall.remittance? ∧
      ∀ timed ∈ calls, timed.call.remittance?.isSome := by
  induction calls generalizing tables with
  | nil => exact ⟨rfl, by simp⟩
  | cons timed rest inductionHypothesis =>
      obtain ⟨movement, isCarriedOut⟩ := allCarriedOut ⟨timed, tables⟩ List.mem_cons_self
      have asked : timed.call.remittance? = some movement.transfer.bare :=
        (tables.next_effect timed).asked isCarriedOut
      have carriedOut : (Access.mk timed tables).remitted? = some movement.transfer.bare := by
        rw [Access.remitted?, isCarriedOut, Option.map_some]
      obtain ⟨isRest, restAsk⟩ := inductionHypothesis fun access member =>
        allCarriedOut access (List.mem_cons_of_mem _ member)
      constructor
      · rw [remitted_cons, isRest, carriedOut, List.map_cons, List.filterMap_cons, asked]
        rfl
      · intro other member
        rcases List.mem_cons.mp member with rfl | later
        · rw [asked]
          rfl
        · exact restAsk other later

/-! ## What a transfer depends on -/

/-- A transfer leaves the accounts that are not its own to be found as before. -/
theorem account?_transferFunds (numbered : tables.Numbered) (now : Instant) {id : Int}
    (notSource : id ≠ source) (notDestination : id ≠ destination) :
    (tables.transferFunds now source destination amount).2.account? id = tables.account? id := by
  obtain ⟨error, failed⟩ | ⟨payer, payee, transferable, isMoved⟩ :=
    tables.transferFunds_cases now source destination amount
  · rw [failed]
  · rw [isMoved]
    exact (carriedOut_moved numbered now transferable).otherAccounts id notSource notDestination

theorem objections_eq (sameSource : tables.account? source = other.account? source)
    (sameDestination : tables.account? destination = other.account? destination) :
    tables.objections source destination amount = other.objections source destination amount := by
  unfold objections Unavailable activeAccount
  rw [sameSource, sameDestination]

/-- Each objection makes one error. -/
theorem objections_single : ∀ objection ∈ tables.objections source destination amount,
    ∀ one another, objection one → objection another → one = another := by
  intro objection member one another stands standsToo
  simp only [objections, List.mem_cons, List.not_mem_nil, or_false] at member
  rcases member with rfl | rfl | rfl | rfl | rfl
  all_goals exact stands.2.trans standsToo.2.symm

/-- The only answer that a transfer between two accounts can have when it succeeds, but for the
numbers and times of rows. -/
def Answers (payer? payee? : Option Account) (source destination amount : Int)
    (answer : Movement) : Prop :=
  ∃ payer payee, payer? = some payer ∧ payee? = some payee ∧
    answer = (movement ⟨0⟩ source destination amount payer payee empty).bare

theorem answers_single {payer? payee? : Option Account} {one another : Movement}
    (answers : Answers payer? payee? source destination amount one)
    (otherAnswers : Answers payer? payee? source destination amount another) : one = another := by
  obtain ⟨payer, payee, rfl, rfl, rfl⟩ := answers
  obtain ⟨_, _, ⟨⟩, ⟨⟩, rfl⟩ := otherAnswers
  rfl

theorem transferFunds_decided_bare (now : Instant) (tables : Tables)
    (source destination amount : Int) :
    Decided (Answers (tables.account? source) (tables.account? destination) source destination
        amount)
      (tables.objections source destination amount)
      ((tables.transferFunds now source destination amount).1.map Movement.bare) := by
  refine (transferFunds_decided now tables source destination amount).map Movement.bare ?_
  rintro _ ⟨payer, payee, transferable, rfl⟩
  exact ⟨payer, payee, transferable.payerStored, transferable.payeeStored, rfl⟩

/-- What a transfer answers depends on its two accounts, but for the numbers and times of rows. -/
theorem transferFunds_alike (sameSource : tables.account? source = other.account? source)
    (sameDestination : tables.account? destination = other.account? destination)
    (now otherNow : Instant) :
    (tables.transferFunds now source destination amount).1.map Movement.bare =
      (other.transferFunds otherNow source destination amount).1.map Movement.bare := by
  have decided := transferFunds_decided_bare now tables source destination amount
  have otherDecided := transferFunds_decided_bare otherNow other source destination amount
  rw [← objections_eq sameSource sameDestination, ← sameSource, ← sameDestination] at otherDecided
  exact decided.eq_of_single objections_single (fun _ _ => answers_single) otherDecided

/-! ## Orders of transfers -/

/-- The transfer that an answer tells of, without its number and its time. -/
def told (answer : Except StoreError Movement) : List Transfer :=
  (answer.toOption.map (·.transfer.bare)).toList

theorem told_eq_of_alike {answer otherAnswer : Except StoreError Movement}
    (alike : answer.map Movement.bare = otherAnswer.map Movement.bare) :
    told answer = told otherAnswer := by
  cases answer with
  | error =>
      cases otherAnswer with
      | error => rfl
      | ok => cases alike
  | ok movement =>
      cases otherAnswer with
      | error => cases alike
      | ok otherMovement =>
          have sameTransfer : movement.transfer.bare = otherMovement.transfer.bare :=
            congrArg Movement.transfer (Except.ok.inj alike)
          exact congrArg (fun transfer => [transfer]) sameTransfer

theorem remits_transferFunds (numbered : tables.Numbered) (now : Instant)
    (source destination amount : Int) :
    Remits (told (tables.transferFunds now source destination amount).1) tables
      (tables.transferFunds now source destination amount).2 := by
  obtain ⟨error, failed⟩ | ⟨payer, payee, transferable, isMoved⟩ :=
    tables.transferFunds_cases now source destination amount
  · rw [failed]
    exact .refl tables
  · rw [isMoved]
    exact remits_moved numbered now transferable

/-- Two transfers between four different accounts can change places. -/
theorem sameBooks_of_apart (numbered : tables.Numbered)
    {source destination amount otherSource otherDestination otherAmount : Int}
    (apart : [source, destination, otherSource, otherDestination].Nodup)
    (now later otherNow otherLater : Instant) :
    let first := tables.transferFunds now source destination amount
    let second := first.2.transferFunds later otherSource otherDestination otherAmount
    let otherFirst := tables.transferFunds otherNow otherSource otherDestination otherAmount
    let otherSecond := otherFirst.2.transferFunds otherLater source destination amount
    first.1.map Movement.bare = otherSecond.1.map Movement.bare ∧
      second.1.map Movement.bare = otherFirst.1.map Movement.bare ∧
      SameBooks second.2 otherSecond.2 := by
  intro first second otherFirst otherSecond
  simp only [List.nodup_cons, List.mem_cons, List.not_mem_nil, or_false, not_or] at apart
  obtain ⟨⟨-, notOtherSource, notOtherDestination⟩, ⟨differentSource, differentDestination⟩, -⟩ :=
    apart
  have sameFirst : first.1.map Movement.bare = otherSecond.1.map Movement.bare :=
    transferFunds_alike
      (account?_transferFunds numbered otherNow notOtherSource notOtherDestination).symm
      (account?_transferFunds numbered otherNow differentSource differentDestination).symm _ _
  have sameSecond : second.1.map Movement.bare = otherFirst.1.map Movement.bare :=
    transferFunds_alike
      (account?_transferFunds numbered now (Ne.symm notOtherSource) (Ne.symm differentSource))
      (account?_transferFunds numbered now (Ne.symm notOtherDestination)
        (Ne.symm differentDestination)) _ _
  refine ⟨sameFirst, sameSecond, ?_⟩
  have numberedAfter : first.2.Numbered :=
    numbered.step (tables.perform_effect now (.transferFunds source destination amount))
  have otherNumberedAfter : otherFirst.2.Numbered := numbered.step
    (tables.perform_effect otherNow (.transferFunds otherSource otherDestination otherAmount))
  have remits : Remits (told first.1 ++ told second.1) tables second.2 :=
    (remits_transferFunds numbered ..).append (remits_transferFunds numberedAfter ..)
  have otherRemits : Remits (told otherFirst.1 ++ told otherSecond.1) tables otherSecond.2 :=
    (remits_transferFunds numbered ..).append (remits_transferFunds otherNumberedAfter ..)
  refine remits.sameBooks otherRemits ?_
  rw [told_eq_of_alike sameFirst, told_eq_of_alike sameSecond]
  exact List.perm_append_comm

/-- The order of transfers makes no difference.

After any calls, take two transfers between four different accounts, which may be missing or
deleted, and make them in either order, at any times. Each has the same success or the same failure,
and the same answer but for numbers and times; and in the end the accounts are the same, and so are
the transfers and the entries but for their numbers, their times and their order. The same is true
in the end of any two series of transfers of which one is the other in another order, if each
transfer is carried out in both. -/
theorem order_of_transfers_makes_no_difference (calls : List TimedCall) :
    let tables := after calls
    (∀ (source destination amount otherSource otherDestination otherAmount : Int)
        (now later otherNow otherLater : Instant),
      [source, destination, otherSource, otherDestination].Nodup →
      let first := tables.transferFunds now source destination amount
      let second := first.2.transferFunds later otherSource otherDestination otherAmount
      let otherFirst := tables.transferFunds otherNow otherSource otherDestination otherAmount
      let otherSecond := otherFirst.2.transferFunds otherLater source destination amount
      first.1.map Movement.bare = otherSecond.1.map Movement.bare ∧
        second.1.map Movement.bare = otherFirst.1.map Movement.bare ∧
        SameBooks second.2 otherSecond.2) ∧
    ∀ series reordered : List TimedCall,
      (series.map (·.call)).Perm (reordered.map (·.call)) →
      (∀ access ∈ tables.accesses series,
        ∃ movement, access.call.movement? access.reply = some movement) →
      (∀ access ∈ tables.accesses reordered,
        ∃ movement, access.call.movement? access.reply = some movement) →
      SameBooks (tables.follow series) (tables.follow reordered) := by
  intro tables
  have numbered : tables.Numbered := numbered_after calls
  constructor
  · intro source destination amount otherSource otherDestination otherAmount now later otherNow
      otherLater apart
    exact sameBooks_of_apart numbered apart now later otherNow otherLater
  · intro series reordered perm allCarriedOut allCarriedOutToo
    obtain ⟨isAsked, areTransfers⟩ := remitted_eq_of_all allCarriedOut
    obtain ⟨isAskedToo, areTransfersToo⟩ := remitted_eq_of_all allCarriedOutToo
    refine (remits_follow numbered series areTransfers).sameBooks
      (remits_follow numbered reordered areTransfersToo) ?_
    rw [isAsked, isAskedToo]
    exact perm.filterMap _

/-- Alice and Bob open two accounts each. -/
def fourAccounts : List TimedCall :=
  [.createUser ⟨"alice", "", "A", "a@b.c"⟩, .createUser ⟨"bob", "", "B", "b@b.c"⟩,
    .createAccount ⟨"alice", .usd, 100⟩, .createAccount ⟨"bob", .usd, 100⟩,
    .createAccount ⟨"alice", .idr, 100⟩, .createAccount ⟨"bob", .idr, 100⟩].map (⟨⟨0⟩, ·⟩)

/-- Three transfers that go round in a circle can be made in another order and at other times, and
two transfers that have nothing to do with each other as well. -/
theorem order_of_transfers_makes_no_difference_in_circle :
    let tables := after fourAccounts
    let series : List TimedCall := [⟨⟨1⟩, .transferFunds 1 2 30⟩, ⟨⟨2⟩, .transferFunds 2 3 120⟩,
      ⟨⟨3⟩, .transferFunds 3 1 5⟩]
    let reordered : List TimedCall := [⟨⟨4⟩, .transferFunds 3 1 5⟩, ⟨⟨5⟩, .transferFunds 1 2 30⟩,
      ⟨⟨6⟩, .transferFunds 2 3 120⟩]
    (series.map (·.call)).Perm (reordered.map (·.call)) ∧
      (tables.follow series).accounts.map (·.balance) = [75, 10, 215, 100] ∧
      SameBooks (tables.follow series) (tables.follow reordered) ∧
      SameBooks ((tables.transferFunds ⟨1⟩ 1 2 30).2.transferFunds ⟨2⟩ 3 4 120).2
        ((tables.transferFunds ⟨3⟩ 3 4 120).2.transferFunds ⟨4⟩ 1 2 30).2 := by
  intro tables series reordered
  obtain ⟨ofTwo, ofSeries⟩ := order_of_transfers_makes_no_difference fourAccounts
  have perm : (series.map (·.call)).Perm (reordered.map (·.call)) := by decide +kernel
  have carriedOut : ∀ access ∈ tables.accesses series,
      (access.call.movement? access.reply).isSome := by decide +kernel
  have carriedOutToo : ∀ access ∈ tables.accesses reordered,
      (access.call.movement? access.reply).isSome := by decide +kernel
  refine ⟨perm, by decide +kernel, ofSeries series reordered perm ?_ ?_, ?_⟩
  · intro access member
    exact Option.isSome_iff_exists.mp (carriedOut access member)
  · intro access member
    exact Option.isSome_iff_exists.mp (carriedOutToo access member)
  · exact (ofTwo 1 2 30 3 4 120 ⟨1⟩ ⟨2⟩ ⟨3⟩ ⟨4⟩ (by decide)).2.2

end Tables

end Countinghouse
