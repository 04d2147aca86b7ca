import Countinghouse.Idna.Label
import Countinghouse.Idna.Mapping
import Countinghouse.Idna.Punycode
import Countinghouse.Unicode.Normal

/-!
# Internationalized domain names

A domain name with characters beyond ASCII has a form in ASCII: its characters are mapped
to the ones that stand for them, the result is composed, and each label that is not in
ASCII then is encoded behind `xn--`. A label that comes encoded must decode to what would
be encoded in the same way.
-/

namespace Countinghouse.Idna

/-- What an encoded label begins with. -/
def marker : List Char := ['x', 'n', '-', '-']

/-- The longest label that is encoded, and the longest that is decoded. -/
def longest : Nat × Nat := (1000, 2000)

/-- The form in which a text is encoded. -/
def normalized? (text : List Char) : Option (List Char) := do
  return Unicode.compose (← text.mapM mapped?).flatten

/-- The label that an encoded one stands for. -/
def decoded? (label : List Char) : Option (List Char) := do
  let text := label.drop marker.length
  guard (text.all Punycode.isBasic && text.length ≤ longest.2 && text.getLast? != some '-')
  let decoded ← Punycode.decode? text
  guard (!decoded.all Punycode.isBasic)
  guard (normalized? decoded == some decoded)
  return decoded

/-- A label as it is meant, when it may stand in a name. -/
def meaning? (label : List Char) : Option (List Char) := do
  let meant ← if marker.isPrefixOf label then decoded? label else some label
  guard (isSound meant && meant.length ≤ longest.1)
  return meant

/-- A label in ASCII. -/
def encoded (label : List Char) : List Char :=
  if label.all Punycode.isBasic then label else marker ++ Punycode.encode label

/-- The form of a domain name in ASCII, if it has one. -/
def toAscii? (domain : List Char) : Option (List Char) := do
  let labels ← ((← normalized? domain).splitOn '.').mapM meaning?
  guard (!labels.any hasRightToLeft || labels.all hasOneDirection)
  return List.intercalate ['.'] (labels.map encoded)

end Countinghouse.Idna
