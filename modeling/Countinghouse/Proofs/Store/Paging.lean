import Countinghouse.Ledger.Page
import Countinghouse.Proofs.Store.Constraints
import Countinghouse.Proofs.Store.Journal
import Mathlib.Algebra.Order.Floor.Div

/-!
# Pages of a history

The history of an account is the list of the transfers that touch it, latest first. What is booked
later is put in front of it, so a row keeps its distance from the end and never gets nearer to the
front. A page is a window on this list. `Page.offset_le_of_follows` and `Page.offset_eq_or_le` say
where one page begins as seen from another: pages leave no gap between them, and they do not overlap
unless the offset is cut off at the largest 64-bit number.
-/

namespace Countinghouse

/-! ## Where a page begins -/

namespace Page

variable {number size : Int} {page earlier next : Page}

/-- The number and the size of a page are those that were asked for. -/
theorem make_eq_ok_iff : make number size = .ok page ↔ page.number = number ∧ page.size = size := by
  unfold make
  obtain ⟨isNumber, isSize, one_le_number, one_le_size, size_le_max⟩ := page
  constructor
  · intro made
    split at made
    case isTrue =>
      split at made
      case isTrue =>
        split at made
        case isTrue =>
          cases made
          exact ⟨rfl, rfl⟩
        case isFalse => cases made
      case isFalse => cases made
    case isFalse => cases made
  · rintro ⟨rfl, rfl⟩
    rw [dif_pos one_le_number, dif_pos one_le_size, dif_pos size_le_max]

theorem exists_make_iff :
    (∃ page, make number size = .ok page) ↔ 1 ≤ number ∧ 1 ≤ size ∧ size ≤ maxSize := by
  constructor
  · rintro ⟨page, made⟩
    obtain ⟨rfl, rfl⟩ := make_eq_ok_iff.mp made
    exact ⟨page.one_le_number, page.one_le_size, page.size_le_max⟩
  · rintro ⟨one_le_number, one_le_size, size_le_max⟩
    exact ⟨⟨number, size, one_le_number, one_le_size, size_le_max⟩, make_eq_ok_iff.mpr ⟨rfl, rfl⟩⟩

theorem offset_fits (page : Page) : 0 ≤ page.offset ∧ Fits page.offset := by
  have rowsBefore : 0 ≤ (page.number - 1) * page.size :=
    Int.mul_nonneg (by have := page.one_le_number; omega) (by have := page.one_le_size; omega)
  unfold offset Fits
  omega

/-- The next page begins where the page ends, or before. -/
theorem offset_le_of_follows (sameSize : next.size = page.size)
    (follows : next.number = page.number + 1) : next.offset ≤ page.offset + page.limit := by
  have oneMore : (next.number - 1) * next.size = (page.number - 1) * page.size + page.size := by
    rw [sameSize, follows]
    ring
  have one_le_size := page.one_le_size
  unfold offset limit
  omega

/-- A page begins where an earlier one ends, or after, unless its offset is cut off. -/
theorem offset_eq_or_le (sameSize : earlier.size = page.size)
    (isEarlier : earlier.number < page.number) :
    page.offset = 9223372036854775807 ∨ earlier.offset + earlier.limit ≤ page.offset := by
  have atLeast : earlier.number * page.size ≤ (page.number - 1) * page.size :=
    Int.mul_le_mul_of_nonneg_right (by omega) (by have := page.one_le_size; omega)
  have oneLess : (earlier.number - 1) * page.size = earlier.number * page.size - page.size := by
    ring
  unfold offset limit
  rw [sameSize]
  omega

end Page

/-! ## Windows on a list -/

variable {Row : Type} {rows : List Row} {size index : Nat}

/-- The windows of one size that follow each other from the front of a list to its end. -/
def windows (rows : List Row) (size : Nat) : List (List Row) :=
  (List.range (rows.length ⌈/⌉ size)).map fun index => (rows.drop (index * size)).take size

@[simp] theorem length_windows : (windows rows size).length = rows.length ⌈/⌉ size := by
  unfold windows
  rw [List.length_map, List.length_range]

theorem flatMap_range_windows (rows : List Row) (size count : Nat) :
    ((List.range count).flatMap fun index => (rows.drop (index * size)).take size) =
      rows.take (count * size) := by
  induction count with
  | zero => simp
  | succ count inductionHypothesis =>
      rw [List.range_succ, List.flatMap_append, inductionHypothesis, List.flatMap_singleton,
        Nat.succ_mul, List.take_add]

/-- Windows cover the list, and they do not overlap. -/
theorem flatten_windows (positive : 0 < size) : (windows rows size).flatten = rows := by
  have reachesEnd : rows.length ≤ rows.length ⌈/⌉ size * size := by
    rw [Nat.mul_comm]
    exact le_smul_ceilDiv positive
  unfold windows
  rw [← List.flatMap_def, flatMap_range_windows, List.take_of_length_le reachesEnd]

theorem getElem?_windows {window : List Row} (isThere : (windows rows size)[index]? = some window) :
    (rows.drop (index * size)).take size = window := by
  unfold windows at isThere
  rw [List.getElem?_map] at isThere
  obtain ⟨place, isPlace, rfl⟩ := Option.map_eq_some_iff.mp isThere
  obtain ⟨inRange, rfl⟩ := List.getElem?_eq_some_iff.mp isPlace
  rw [List.getElem_range]

/-- Every window that another one follows is full. -/
theorem length_window_of_follows (positive : 0 < size)
    (follows : index + 1 < (windows rows size).length) :
    ((rows.drop (index * size)).take size).length = size := by
  have goesOn : size * (index + 1) < rows.length := by
    rw [length_windows] at follows
    exact Nat.lt_of_not_le fun ends =>
      Nat.not_le_of_lt follows ((ceilDiv_le_iff_le_mul positive).mpr ends)
  rw [Nat.mul_add_one, Nat.mul_comm] at goesOn
  rw [List.length_take, List.length_drop]
  omega

/-- Nothing is left behind the last window. -/
theorem drop_eq_nil_of_windows (positive : 0 < size)
    (isBehind : (windows rows size).length ≤ index) : rows.drop (index * size) = [] := by
  rw [length_windows] at isBehind
  refine List.drop_eq_nil_of_le ?_
  rw [Nat.mul_comm]
  exact (ceilDiv_le_iff_le_mul positive).mp isBehind

/-- A row is in the window that begins at most so far before it. -/
theorem mem_take_drop {row : Row} {offset : Nat} (atIndex : rows[index]? = some row)
    (begins : offset ≤ index) (ends : index < offset + size) :
    row ∈ (rows.drop offset).take size := by
  refine List.mem_of_getElem? (i := index - offset) ?_
  rw [List.getElem?_take, if_pos (by omega), List.getElem?_drop, Nat.add_sub_cancel' begins]
  exact atIndex

namespace Tables

variable {tables : Tables} {accountId : Int}

theorem mem_transfersTouching {transfer : Transfer} :
    transfer ∈ tables.transfersTouching accountId ↔ transfer ∈ tables.transfers ∧
      (transfer.fromAccountId = accountId ∨ transfer.toAccountId = accountId) := by
  unfold transfersTouching
  rw [List.mem_filter, List.mem_reverse]
  simp [Transfer.touches]

/-- Later transfers have greater numbers, so a history descends. -/
theorem Numbered.pairwise_transfersTouching (numbered : tables.Numbered) :
    (tables.transfersTouching accountId).Pairwise (·.id > ·.id) :=
  (List.pairwise_reverse.mpr numbered.pairwise_transfers).filter _

/-- No history is longer than the counter of transfers says. -/
theorem Numbered.length_transfersTouching (numbered : tables.Numbered) (accountId : Int) :
    ((tables.transfersTouching accountId).length : Int) ≤ tables.lastTransferId := by
  have fewer := List.length_filter_le (·.touches accountId) tables.transfers.reverse
  rw [List.length_reverse] at fewer
  rw [numbered.lastTransferId, transfersTouching]
  omega

/-- A page of a history is the window of that number and size. That its offset may be cut off makes
no difference, as no history goes on so far. -/
theorem listTransfers_page (page : Page)
    (isShort : (tables.transfersTouching accountId).length ≤ 9223372036854775807) :
    tables.listTransfers accountId page.limit page.offset =
      ((tables.transfersTouching accountId).drop
        ((page.number - 1).toNat * page.size.toNat)).take page.size.toNat := by
  have one_le_number := page.one_le_number
  have one_le_size := page.one_le_size
  have rowsBefore : (((page.number - 1).toNat * page.size.toNat : Nat) : Int) =
      (page.number - 1) * page.size := by
    rw [Nat.cast_mul, Int.toNat_of_nonneg (by omega), Int.toNat_of_nonneg (by omega)]
  unfold listTransfers Page.limit Page.offset
  by_cases isCutOff : (page.number - 1) * page.size ≤ 9223372036854775807
  · rw [min_eq_left isCutOff, ← rowsBefore, Int.toNat_natCast]
  · rw [List.drop_eq_nil_of_le (by omega), List.drop_eq_nil_of_le (by omega)]

theorem prefix_transfers_follow (tables : Tables) (calls : List TimedCall) :
    tables.transfers <+: (tables.follow calls).transfers :=
  prefix_follow (fun tables timed => (tables.next_effect timed).transfers_grow) tables calls

/-- What is booked by further calls is put in front of a history. -/
theorem exists_transfersTouching_follow (tables : Tables) (calls : List TimedCall)
    (accountId : Int) : ∃ newer, (tables.follow calls).transfersTouching accountId =
      newer ++ tables.transfersTouching accountId := by
  obtain ⟨booked, isLonger⟩ := tables.prefix_transfers_follow calls
  refine ⟨booked.reverse.filter (·.touches accountId), ?_⟩
  rw [transfersTouching, ← isLonger, List.reverse_append, List.filter_append]
  rfl

/-- A row keeps its distance from the end of a history, so further calls can only move it away from
the front. -/
theorem getElem?_transfersTouching_follow {index : Nat} {transfer : Transfer}
    (atIndex : (tables.transfersTouching accountId)[index]? = some transfer)
    (calls : List TimedCall) : ∃ later, index ≤ later ∧
      ((tables.follow calls).transfersTouching accountId)[later]? = some transfer := by
  obtain ⟨newer, isLonger⟩ := tables.exists_transfersTouching_follow calls accountId
  refine ⟨newer.length + index, Nat.le_add_left _ _, ?_⟩
  rw [isLonger, List.getElem?_append_right (Nat.le_add_right _ _), Nat.add_sub_cancel_left, atIndex]

end Tables

end Countinghouse
