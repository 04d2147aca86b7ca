import Countinghouse.Text.Hex
import Countinghouse.Unicode.Visible

/-!
# Texts quoted for diagnostics

A diagnostic shows a text between quotes, with quotes, backslashes and everything that
cannot be seen escaped. `Unicode.isVisible` decides what can be seen.
-/

namespace Countinghouse.Debug

/-- The hexadecimal digits of a number, with no zeros in front. -/
def hexDigits (value : Nat) : List Char :=
  match (Hex.digits 6 value).dropWhile (· == '0') with
  | [] => ['0']
  | digits => digits

/-- A character between quotes. -/
def escapeChar (character : Char) : List Char :=
  if character = '"' then ['\\', '"']
  else if character = '\\' then ['\\', '\\']
  else if character = '\n' then ['\\', 'n']
  else if character = '\r' then ['\\', 'r']
  else if character = '\t' then ['\\', 't']
  else if character.toNat = 0 then ['\\', '0']
  else if Unicode.isVisible character then [character]
  else ['\\', 'u', '\x7b'] ++ hexDigits character.toNat ++ ['\x7d']

/-- A text between quotes. -/
def quote (value : String) : String :=
  "\"" ++ String.ofList (value.toList.flatMap escapeChar) ++ "\""

end Countinghouse.Debug
