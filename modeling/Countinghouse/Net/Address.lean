import Countinghouse.Text.Hex

/-!
# Internet addresses

`Address.parse?` reads an address of version 4 (four decimal numbers below 256, without
zeros in front) or of version 6 (eight groups of up to four hexadecimal digits, one run of
which may be left out as `::`, and the last two of which may be written as a version 4
address). `Address.render` writes the usual form, in which the longest run of zero groups
is left out.
-/

namespace Countinghouse

/-- An internet address, as its four bytes or its eight groups. -/
inductive Address where
  | v4 (octets : List Nat)
  | v6 (groups : List Nat)
  deriving DecidableEq, Repr

namespace Address

/-- Reads one of the four numbers of a version 4 address. -/
def octet? (text : List Char) : Option (Nat × List Char) :=
  let digits := text.takeWhile Char.isDigit
  let value := digits.foldl (fun value digit => value * 10 + (digit.toNat - 48)) 0
  if digits.isEmpty || 3 < digits.length || 255 < value
      || (digits.head? == some '0' && digits.length != 1) then none
  else some (value, text.drop digits.length)

/-- Passes over one character. -/
def expect? (character : Char) (text : List Char) : Option (List Char) :=
  if text.head? = some character then some (text.drop 1) else none

/-- The four numbers of a version 4 address, and what follows them. -/
def octets? (text : List Char) : Option (List Nat × List Char) := do
  let (first, text) ← octet? text
  let (second, text) ← octet? (← expect? '.' text)
  let (third, text) ← octet? (← expect? '.' text)
  let (fourth, text) ← octet? (← expect? '.' text)
  return ([first, second, third, fourth], text)

/-- A group of a version 6 address, and what follows it. -/
def group? (text : List Char) : Option (Nat × List Char) := do
  let digits := text.takeWhile fun character => (Hex.value? character).isSome
  if digits.isEmpty || 4 < digits.length then none
  else return (← Hex.read? digits, text.drop digits.length)

/-- Groups that were read, whether the last two were a version 4 address, and what follows
them. -/
structure Groups where
  values : List Nat
  endsInV4 : Bool
  rest : List Char

/-- The two groups of four numbers. -/
def pairUp : List Nat → List Nat
  | high :: low :: rest => (high * 256 + low) :: pairUp rest
  | _ => []

/-- Reads up to `room` groups; a colon stands before each but the very first. -/
def groups : Nat → List Nat → List Char → Groups
  | 0, values, text => ⟨values, false, text⟩
  | room + 1, values, text =>
    let separated := if values.isEmpty then some text else expect? ':' text
    match if room = 0 then none else separated.bind octets? with
    | some (octets, rest) => ⟨values ++ pairUp octets, true, rest⟩
    | none =>
      match separated.bind group? with
      | some (value, rest) => groups room (values ++ [value]) rest
      | none => ⟨values, false, text⟩

/-- Reads a version 6 address. -/
def readV6? (text : List Char) : Option (List Nat) :=
  let head := groups 8 [] text
  if head.values.length = 8 then if head.rest.isEmpty then some head.values else none
  else if head.endsInV4 then none
  else do
    let after ← (expect? ':' head.rest).bind (expect? ':')
    let tail := groups (7 - head.values.length) [] after
    guard tail.rest.isEmpty
    return head.values
      ++ List.replicate (8 - head.values.length - tail.values.length) 0 ++ tail.values

/-- Reads an address. -/
def parse? (text : List Char) : Option Address :=
  match octets? text with
  | some (octets, []) => some (.v4 octets)
  | _ => (readV6? text).map .v6

/-- The number of zeros in front. -/
def leadingZeros (groups : List Nat) : Nat := (groups.takeWhile (· == 0)).length

/-- Where the longest run of at least two zero groups begins, and its length. -/
def longestRun (groups : List Nat) : Nat × Nat :=
  (List.range groups.length).foldl
    (fun (start, length) place =>
      let found := leadingZeros (groups.drop place)
      if length < found ∧ 1 < found then (place, found) else (start, length))
    (0, 0)

/-- Groups joined by colons. -/
def joinGroups (groups : List Nat) : String :=
  String.intercalate ":" (groups.map fun group => String.ofList
    (match (Hex.digits 4 group).dropWhile (· == '0') with
      | [] => ['0']
      | digits => digits))

/-- Numbers joined by dots. -/
def joinOctets (octets : List Nat) : String := String.intercalate "." (octets.map toString)

/-- The usual written form. -/
def render : Address → String
  | .v4 octets => joinOctets octets
  | .v6 groups =>
    match groups with
    | [0, 0, 0, 0, 0, 0xffff, high, low] =>
      "::ffff:" ++ joinOctets [high / 256, high % 256, low / 256, low % 256]
    | _ =>
      let (start, length) := longestRun groups
      if length = 0 then joinGroups groups
      else joinGroups (groups.take start) ++ "::" ++ joinGroups (groups.drop (start + length))

/-- The address of an endpoint: an address and a port, joined by a colon; an address of
version 6 stands between brackets. -/
def ofEndpoint? (text : String) : Option Address :=
  let reversed := text.toList.reverse
  let address := (reversed.drop ((reversed.takeWhile (· != ':')).length + 1)).reverse
  match address with
  | '[' :: inner => (readV6? inner.dropLast).map .v6
  | plain => do
    let (octets, rest) ← octets? plain
    guard rest.isEmpty
    return .v4 octets

end Address

end Countinghouse
