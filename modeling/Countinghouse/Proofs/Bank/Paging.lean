import Countinghouse.Proofs.Bank.Privacy
import Countinghouse.Proofs.Operation.Amid
import Countinghouse.Proofs.Store.Paging

/-!
# Reading a history page by page

While nothing is booked, the pages of a history are its rows, cut into pieces of one size. While
others go on booking, an owner who reads one page after another may be shown a row twice, but never
misses one: `Bank.Browses` is such a reading, and what carries the proof is that a row which was not
shown yet lies behind the pages that were.
-/

namespace Countinghouse.Bank

open Attempt

/-- The page of a history with this number and this size. -/
def readPage (caller : String) (accountId number size : Int) : Attempt (List Transfer) := do
  let page ← Attempt.ofExcept (Page.make number size)
  transfersOf caller accountId page

variable {tables after : Tables} {caller : String} {accountId number size : Int} {page : Page}

/-! ## Pages of a history that stands still -/

/-- As long as the store does not fail, these rows are shown as the page, and the tables stay as
they are. -/
def ShowsPage (tables : Tables) (caller : String) (accountId number size : Int)
    (rows : List Transfer) : Prop :=
  ∀ course : Course, (∀ met, course.fault? met = none) →
    ((readPage caller accountId number size).tryOut course tables).1 = .ok rows ∧
      ((readPage caller accountId number size).tryOut course tables).2.tables = tables

theorem showsPage_of_make (holds : tables.Holds caller accountId)
    (made : Page.make number size = .ok page) :
    ShowsPage tables caller accountId number size
      (tables.listTransfers accountId page.limit page.offset) := by
  intro course noFault
  have smooth : course.IsSmooth fun _ => True := ⟨noFault, fun _ => trivial⟩
  have isShown : (readPage caller accountId number size).Undisturbed (fun _ => True)
      (fun after result =>
        result = .ok (tables.listTransfers accountId page.limit page.offset) ∧ after = tables)
      tables := by
    refine undisturbed_ofExcept_bind.mpr ?_
    rw [made]
    refine (small.undisturbed_reading (.transfersOf accountId page)).mono ?_
    rintro after result ⟨rfl, rfl⟩
    exact ⟨(Reading.answer_eq_ok_iff (.transfersOf accountId page)).mpr ⟨holds, rfl⟩, rfl⟩
  exact isShown.tryOut smooth

/-- The owner is shown a window on the history. -/
theorem showsPage_window (holds : tables.Holds caller accountId)
    (isShort : (tables.transfersTouching accountId).length ≤ 9223372036854775807)
    (one_le_size : 1 ≤ size) (size_le_max : size ≤ Page.maxSize) (index : Nat) :
    ShowsPage tables caller accountId (index + 1) size
      (((tables.transfersTouching accountId).drop (index * size.toNat)).take size.toNat) := by
  let page : Page := ⟨index + 1, size, by omega, one_le_size, size_le_max⟩
  have made : Page.make (index + 1) size = .ok page := Page.make_eq_ok_iff.mpr ⟨rfl, rfl⟩
  have isPage := Tables.listTransfers_page page isShort
  have isBefore : (page.number - 1).toNat = index := by
    rw [show page.number = (index : Int) + 1 from rfl, Int.add_sub_cancel, Int.toNat_natCast]
  rw [isBefore] at isPage
  rw [show size.toNat = page.size.toNat from rfl, ← isPage]
  exact showsPage_of_make holds made

/-- These are the pages of an account's history, as its owner is shown them one after another. -/
structure ArePages (tables : Tables) (caller : String) (accountId size : Int)
    (pages : List (List Transfer)) : Prop where
  count : pages.length = tables.transfers.countP (·.touches accountId) ⌈/⌉ size.toNat
  shown : ∀ (index : Nat) (rows : List Transfer), pages[index]? = some rows →
    ShowsPage tables caller accountId (index + 1) size rows ∧
      (index + 1 < pages.length → (rows.length : Int) = size)
  /-- Behind the last page there are empty ones, however far one goes. -/
  beyond : ∀ number : Int, pages.length < number →
    ShowsPage tables caller accountId number size []
  complete : ∀ transfer, transfer ∈ pages.flatten ↔ transfer ∈ tables.transfers ∧
    (transfer.fromAccountId = accountId ∨ transfer.toAccountId = accountId)
  descending : pages.flatten.Pairwise (·.id > ·.id)

theorem arePages_windows (numbered : tables.Numbered) (isCounted : Fits tables.lastTransferId)
    (holds : tables.Holds caller accountId) (one_le_size : 1 ≤ size)
    (size_le_max : size ≤ Page.maxSize) :
    ArePages tables caller accountId size
      (windows (tables.transfersTouching accountId) size.toNat) := by
  have positive : 0 < size.toNat := by omega
  have isShort : (tables.transfersTouching accountId).length ≤ 9223372036854775807 := by
    have fewer := numbered.length_transfersTouching accountId
    unfold Fits at isCounted
    omega
  have isShown := showsPage_window holds isShort one_le_size size_le_max
  constructor
  case count =>
    rw [length_windows, Tables.transfersTouching, List.filter_reverse, List.length_reverse,
      List.countP_eq_length_filter]
  case shown =>
    intro index rows isThere
    rw [← getElem?_windows isThere]
    refine ⟨isShown index, fun follows => ?_⟩
    rw [length_window_of_follows positive follows, Int.toNat_of_nonneg (by omega)]
  case beyond =>
    intro number isBeyond
    have isBehind := isShown (number - 1).toNat
    rw [drop_eq_nil_of_windows positive (by omega), List.take_nil, Int.toNat_of_nonneg (by omega),
      Int.sub_add_cancel] at isBehind
    exact isBehind
  case complete =>
    intro transfer
    rw [flatten_windows positive]
    exact Tables.mem_transfersTouching
  case descending =>
    rw [flatten_windows positive]
    exact numbered.pairwise_transfersTouching

/-- Pages partition a history.

After any calls, as long as the counter of transfers has 64 bits, the owner of an account is shown
page by page exactly the transfers that touch it, each of them once and the latest first: as many
pages as it takes, of which all but the last are full, and only empty ones behind them. A page is
made of every number from 1 on and every size from 1 to 100 and of no others. Nothing is lost when
its bounds are handed to the store, and it does not begin within an earlier page of the same size,
but at most so far out that there is nothing to be shown. -/
theorem pages_partition_history (calls : List TimedCall)
    (isCounted : Fits (Tables.after calls).lastTransferId) {caller : String} {accountId : Int}
    (holds : (Tables.after calls).Holds caller accountId) {size : Int} (one_le_size : 1 ≤ size)
    (size_le_max : size ≤ 100) :
    (∃ pages, ArePages (Tables.after calls) caller accountId size pages ∧
      pages.flatten.reverse.Sublist ((Tables.movements calls).map (·.transfer))) ∧
    (∀ number limit, (∃ page, Page.make number limit = .ok page) ↔
      1 ≤ number ∧ 1 ≤ limit ∧ limit ≤ 100) ∧
    ∀ (number limit : Int) (page : Page), Page.make number limit = .ok page →
      0 ≤ number - 1 ∧ (page.limit.toNat : Int) = limit ∧ Fits page.offset ∧
        (page.offset.toNat : Int) = page.offset ∧
        ∀ (earlierNumber : Int) (earlier : Page), Page.make earlierNumber limit = .ok earlier →
          earlierNumber < number →
          page.offset = 9223372036854775807 ∨ earlier.offset + earlier.limit ≤ page.offset := by
  refine ⟨?_, fun number limit => Page.exists_make_iff, ?_⟩
  · refine ⟨_, arePages_windows (Tables.numbered_after calls) isCounted holds one_le_size
      size_le_max, ?_⟩
    rw [flatten_windows (by omega), Tables.transfersTouching, List.filter_reverse,
      List.reverse_reverse, ← (Tables.journal_after calls).transfers]
    exact List.filter_sublist
  · intro number limit page made
    obtain ⟨rfl, rfl⟩ := Page.make_eq_ok_iff.mp made
    have one_le_number := page.one_le_number
    have one_le_limit : 0 ≤ page.limit := Int.le_trans (by decide) page.one_le_size
    obtain ⟨notNegative, fits⟩ := page.offset_fits
    refine ⟨by omega, Int.toNat_of_nonneg one_le_limit, fits, Int.toNat_of_nonneg notNegative, ?_⟩
    intro earlierNumber earlier madeEarlier isEarlier
    obtain ⟨rfl, sameSize⟩ := Page.make_eq_ok_iff.mp madeEarlier
    exact Page.offset_eq_or_le sameSize isEarlier

/-- Bob paid once and was paid once, so on pages of one row he is shown two, and nothing on the
last page of all. -/
theorem pages_partition_history_of_bob :
    let tables := Tables.after (payment ++ affairs)
    Fits tables.lastTransferId ∧ tables.Holds "bob" 2 ∧
      ShowsPage tables "bob" 2 9223372036854775807 1 [] ∧
      ∃ pages, ArePages tables "bob" 2 1 pages ∧
        pages = [[⟨2, 2, 3, 90, ⟨9⟩⟩], [⟨1, 1, 2, 30, ⟨0⟩⟩]] := by
  intro tables
  have isCounted : Fits tables.lastTransferId := by decide +kernel
  have holds : tables.Holds "bob" 2 := ⟨⟨2, "bob", 40, .usd, false, ⟨0⟩⟩, by decide +kernel, rfl⟩
  obtain ⟨⟨pages, arePages, -⟩, -⟩ :=
    pages_partition_history (payment ++ affairs) isCounted holds (le_refl 1) (by decide)
  have count : pages.length = 2 := arePages.count.trans (by decide +kernel)
  refine ⟨isCounted, holds, arePages.beyond _ (by rw [count]; decide), pages, arePages, ?_⟩
  obtain ⟨first, second, rfl⟩ := List.length_eq_two.mp count
  have firstShown := ((arePages.shown 0 first rfl).1 (.standing ⟨0⟩) fun _ => rfl).1
  have secondShown := ((arePages.shown 1 second rfl).1 (.standing ⟨0⟩) fun _ => rfl).1
  have isFirst : ((readPage "bob" 2 1 1).tryOut (.standing ⟨0⟩) tables).1 =
      .ok [⟨2, 2, 3, 90, ⟨9⟩⟩] := by decide +kernel
  have isSecond : ((readPage "bob" 2 2 1).tryOut (.standing ⟨0⟩) tables).1 =
      .ok [⟨1, 1, 2, 30, ⟨0⟩⟩] := by decide +kernel
  obtain rfl := Except.ok.inj (firstShown.symm.trans isFirst)
  obtain rfl := Except.ok.inj (secondShown.symm.trans isSecond)
  rfl

/-! ## Pages of a history that goes on -/

/-- Whatever others do while a page is read, the owner is shown it as it is at the end. -/
theorem endsAmid_transfersOf_iff (holds : tables.Holds caller accountId)
    {result : Except BankError (List Transfer)} :
    (transfersOf caller accountId page).run.EndsAmid tables result after ↔
      ∃ others, after = tables.follow others ∧
        result = .ok (after.listTransfers accountId page.limit page.offset) := by
  have readsAccount (now : Instant) (tables : Tables) :
      Tables.perform now (.getAccount accountId) tables =
        (.ok (tables.account? accountId), tables) := rfl
  have readsRows (now : Instant) (tables : Tables) :
      Tables.perform now (.listTransfers accountId page.limit page.offset) tables =
        (.ok (tables.listTransfers accountId page.limit page.offset), tables) := rfl
  have inTwoSteps : (transfersOf caller accountId page).run.EndsAmid tables result after ↔
      ∃ earlier later, after = (tables.follow earlier).follow later ∧
        result = .ok (after.listTransfers accountId page.limit page.offset) := by
    refine (endsAmid_read_bind_iff readsAccount).trans (exists_congr fun earlier => ?_)
    obtain ⟨row, found, owns⟩ := holds.follow earlier
    rw [found]
    dsimp only
    rw [isOwner_iff.mpr owns]
    exact endsAmid_read_iff readsRows
  rw [inTwoSteps]
  constructor
  · rintro ⟨earlier, later, rfl, isShown⟩
    exact ⟨earlier ++ later, (Tables.follow_append ..).symm, isShown⟩
  · rintro ⟨others, rfl, isShown⟩
    exact ⟨[], others, rfl, isShown⟩

theorem endsAmid_readPage_iff (holds : tables.Holds caller accountId)
    (made : Page.make number size = .ok page) {result : Except BankError (List Transfer)} :
    (readPage caller accountId number size).run.EndsAmid tables result after ↔
      ∃ others, after = tables.follow others ∧
        result = .ok (after.listTransfers accountId page.limit page.offset) := by
  have isRead : readPage caller accountId number size = transfersOf caller accountId page := by
    unfold readPage
    rw [made]
    rfl
  rw [isRead]
  exact endsAmid_transfersOf_iff holds

/-- A caller reads pages of one size, from this number on, until one of them is not full, while
others make calls. The first page shows the tables that were `found`. -/
inductive Browses (caller : String) (accountId size : Int) :
    Int → Tables → Tables → List (List Transfer) → Prop where
  | ends {number tables found rows}
      (read : (readPage caller accountId number size).run.EndsAmid tables (.ok rows) found)
      (isLast : rows.length < size) : Browses caller accountId size number tables found [rows]
  | goesOn {number tables found foundNext rows pages}
      (read : (readPage caller accountId number size).run.EndsAmid tables (.ok rows) found)
      (isFull : size ≤ rows.length)
      (rest : Browses caller accountId size (number + 1) found foundNext pages) :
      Browses caller accountId size number tables found (rows :: pages)

namespace Browses

variable {found : Tables} {pages : List (List Transfer)}

theorem exists_follow (browses : Browses caller accountId size number tables found pages)
    (holds : tables.Holds caller accountId) (made : Page.make number size = .ok page) :
    ∃ others, found = tables.follow others := by
  cases browses with
  | ends read | goesOn read =>
      obtain ⟨others, isFound, -⟩ := (endsAmid_readPage_iff holds made).mp read
      exact ⟨others, isFound⟩

/-- A row that lies where the page begins, or behind it, is going to be shown. -/
theorem shows_behind (browses : Browses caller accountId size number tables found pages)
    (holds : tables.Holds caller accountId) (made : Page.make number size = .ok page) {index : Nat}
    {transfer : Transfer} (atIndex : (found.transfersTouching accountId)[index]? = some transfer)
    (isBehind : page.offset.toNat ≤ index) : ∃ rows ∈ pages, transfer ∈ rows := by
  induction browses generalizing page index with
  | @ends number tables found rows read isLast =>
      obtain ⟨-, -, isShown⟩ := (endsAmid_readPage_iff holds made).mp read
      obtain rfl := Except.ok.inj isShown
      obtain ⟨rfl, rfl⟩ := Page.make_eq_ok_iff.mp made
      refine ⟨_, List.mem_singleton_self _, mem_take_drop atIndex isBehind ?_⟩
      -- The page is not full, so the history ends on it.
      obtain ⟨inRange, -⟩ := List.getElem?_eq_some_iff.mp atIndex
      unfold Tables.listTransfers Page.limit at isLast
      rw [List.length_take, List.length_drop] at isLast
      unfold Page.limit
      omega
  | @goesOn number tables found foundNext rows pages read isFull rest inductionHypothesis =>
      obtain ⟨others, rfl, isShown⟩ := (endsAmid_readPage_iff holds made).mp read
      obtain rfl := Except.ok.inj isShown
      by_cases isOnPage : index < page.offset.toNat + page.limit.toNat
      · exact ⟨_, List.mem_cons_self, mem_take_drop atIndex isBehind isOnPage⟩
      · -- The row moves away from the front while the next page begins where this one ends.
        obtain ⟨rfl, rfl⟩ := Page.make_eq_ok_iff.mp made
        have one_le_number := page.one_le_number
        let next : Page :=
          ⟨page.number + 1, page.size, by omega, page.one_le_size, page.size_le_max⟩
        have madeNext : Page.make (page.number + 1) page.size = .ok next :=
          Page.make_eq_ok_iff.mpr ⟨rfl, rfl⟩
        have begins : next.offset ≤ page.offset + page.limit :=
          Page.offset_le_of_follows rfl rfl
        have holdsNext := holds.follow others
        obtain ⟨more, rfl⟩ := rest.exists_follow holdsNext madeNext
        obtain ⟨later, isLater, atLater⟩ :=
          Tables.getElem?_transfersTouching_follow atIndex more
        obtain ⟨shownRows, isPage, isThere⟩ :=
          inductionHypothesis holdsNext madeNext atLater (by omega)
        exact ⟨shownRows, List.mem_cons_of_mem _ isPage, isThere⟩

end Browses

/-- Reading page by page misses nothing.

The owner of an account reads its history from the first page on until a page is not full, while
others make any calls of the store, before, between and during the readings. Every page is shown to
the owner whatever the others do, and the owner remains the owner. And every transfer that touches
the account and is stored when the first page is shown, which includes all that were stored before,
is on at least one of the pages, as it was stored. -/
theorem browsing_misses_nothing {tables : Tables} {caller : String} {accountId : Int}
    (holds : tables.Holds caller accountId) {size : Int} (one_le_size : 1 ≤ size)
    (size_le_max : size ≤ 100) :
    (∀ number, 1 ≤ number →
      (∀ others, ∃ rows, (readPage caller accountId number size).run.EndsAmid tables (.ok rows)
        (tables.follow others)) ∧
      ∀ result after, (readPage caller accountId number size).run.EndsAmid tables result after →
        (∃ rows, result = .ok rows) ∧ after.Holds caller accountId) ∧
    ∀ found pages, Browses caller accountId size 1 tables found pages →
      tables.transfers <+: found.transfers ∧
      ∀ transfer ∈ found.transfers,
        transfer.fromAccountId = accountId ∨ transfer.toAccountId = accountId →
          ∃ rows ∈ pages, transfer ∈ rows := by
  constructor
  · intro number one_le_number
    obtain ⟨page, made⟩ := Page.exists_make_iff.mpr ⟨one_le_number, one_le_size, size_le_max⟩
    constructor
    · intro others
      exact ⟨_, (endsAmid_readPage_iff holds made).mpr ⟨others, rfl, rfl⟩⟩
    · intro result after ends
      obtain ⟨others, rfl, isShown⟩ := (endsAmid_readPage_iff holds made).mp ends
      exact ⟨⟨_, isShown⟩, holds.follow others⟩
  · intro found pages browses
    let first : Page := ⟨1, size, le_refl 1, one_le_size, size_le_max⟩
    have made : Page.make 1 size = .ok first := Page.make_eq_ok_iff.mpr ⟨rfl, rfl⟩
    constructor
    · obtain ⟨others, rfl⟩ := browses.exists_follow holds made
      exact tables.prefix_transfers_follow others
    · intro transfer stored touches
      obtain ⟨index, atIndex⟩ := List.mem_iff_getElem?.mp
        (Tables.mem_transfersTouching.mpr ⟨stored, touches⟩)
      have begins : first.offset = 0 := by
        unfold Page.offset
        rw [Int.sub_self, Int.zero_mul]
        rfl
      exact browses.shows_behind holds made atIndex (by rw [begins]; exact Nat.zero_le index)

/-- Bob is paid once more while he reads his history on pages of one row. His latest row by then is
shown to him twice, and none that was there at the start is missed. -/
theorem browsing_misses_nothing_of_bob :
    let tables := Tables.after (payment ++ affairs)
    let latest : Transfer := ⟨2, 2, 3, 90, ⟨9⟩⟩
    let earliest : Transfer := ⟨1, 1, 2, 30, ⟨0⟩⟩
    tables.Holds "bob" 2 ∧ tables.transfers = [earliest, latest] ∧
      Browses "bob" 2 1 1 tables tables [[latest], [latest], [earliest], []] ∧
      ∀ transfer ∈ tables.transfers,
        ∃ rows ∈ [[latest], [latest], [earliest], []], transfer ∈ rows := by
  intro tables latest earliest
  let further := tables.follow [⟨⟨12⟩, .transferFunds 1 2 5⟩]
  have holds : tables.Holds "bob" 2 := ⟨⟨2, "bob", 40, .usd, false, ⟨0⟩⟩, by decide +kernel, rfl⟩
  have holdsStill : further.Holds "bob" 2 := holds.follow _
  have stored : tables.transfers = [earliest, latest] := by decide +kernel
  have first : (readPage "bob" 2 1 1).run.EndsAmid tables (.ok [latest]) tables :=
    (endsAmid_readPage_iff holds rfl).mpr ⟨[], rfl, by decide +kernel⟩
  have second : (readPage "bob" 2 2 1).run.EndsAmid tables (.ok [latest]) further :=
    (endsAmid_readPage_iff holds rfl).mpr ⟨_, rfl, by decide +kernel⟩
  have third : (readPage "bob" 2 3 1).run.EndsAmid further (.ok [earliest]) further :=
    (endsAmid_readPage_iff holdsStill rfl).mpr ⟨[], rfl, by decide +kernel⟩
  have fourth : (readPage "bob" 2 4 1).run.EndsAmid further (.ok []) further :=
    (endsAmid_readPage_iff holdsStill rfl).mpr ⟨[], rfl, by decide +kernel⟩
  have browses : Browses "bob" 2 1 1 tables tables [[latest], [latest], [earliest], []] :=
    .goesOn first (by decide) (.goesOn second (by decide)
      (.goesOn third (by decide) (.ends fourth (by decide))))
  refine ⟨holds, stored, browses, fun transfer isStored => ?_⟩
  refine ((browsing_misses_nothing holds (le_refl 1) (by decide)).2 _ _ browses).2 transfer
    isStored ?_
  rw [stored] at isStored
  rcases List.mem_pair.mp isStored with rfl | rfl
  · exact .inr rfl
  · exact .inl rfl

end Countinghouse.Bank
