/-!
# Currencies

An account holds exactly one currency. There is no conversion: funds move only
between accounts that agree on it.
-/

namespace Countinghouse

/-- A currency the bank keeps accounts in. -/
inductive Currency where
  | usd
  | idr
  deriving DecidableEq, Repr, Inhabited

namespace Currency

/-- Every currency, in the order they are offered. -/
def all : List Currency := [.usd, .idr]

/-- The ISO 4217 code. -/
def code : Currency → String
  | .usd => "USD"
  | .idr => "IDR"

/-- The currency with exactly this code, in upper case. -/
def ofCode? (text : String) : Option Currency :=
  all.find? (·.code == text)

theorem ofCode?_code (currency : Currency) : ofCode? currency.code = some currency := by
  cases currency <;> decide

theorem code_of_ofCode? {text : String} {currency : Currency}
    (found : ofCode? text = some currency) : currency.code = text := by
  simpa using List.find?_some found

end Currency

end Countinghouse
