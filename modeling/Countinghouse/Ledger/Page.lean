import Countinghouse.Failure
import Countinghouse.Ledger.Account

/-!
# Pages of a listing

A `Page` is numbered from one and holds between one and `Page.maxSize` rows. The number
of rows before a page is cut off at the largest 64-bit number, so that a page number
far beyond the end still lies beyond the end.
-/

namespace Countinghouse

/-- The largest number of rows on one page. -/
def Page.maxSize : Int := 100

/-- One page of a listing. -/
structure Page where
  number : Int
  size : Int
  one_le_number : 1 ≤ number
  one_le_size : 1 ≤ size
  size_le_max : size ≤ Page.maxSize
  deriving DecidableEq, Repr

namespace Page

/-- The page with this number and size, when both are in bounds. The number is looked
at first. -/
def make (number size : Int) : Except BankError Page :=
  if one_le_number : 1 ≤ number then
    if one_le_size : 1 ≤ size then
      if size_le_max : size ≤ maxSize then
        .ok ⟨number, size, one_le_number, one_le_size, size_le_max⟩
      else .error (badSize size)
    else .error (badSize size)
  else
    .error (.invalidPagination ("page_id must be at least 1, got " ++ toString number))
where
  /-- The failure of a size out of bounds. -/
  badSize (size : Int) : BankError :=
    .invalidPagination
      ("page_size must be between 1 and " ++ toString maxSize ++ ", got " ++ toString size)

/-- The number of rows on a full page. -/
def limit (page : Page) : Int := page.size

/-- The number of rows before a page. -/
def offset (page : Page) : Int := min ((page.number - 1) * page.size) 9223372036854775807

end Page

end Countinghouse
