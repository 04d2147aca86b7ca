import Countinghouse.Json.Value

/-!
# Pointers into JSON values

A pointer is a list of names, each after a slash; in a name `~1` stands for a slash and
`~0` for a tilde. `Json.at?` follows a pointer: a name leads to the field of an object, a
number to the item of a list.
-/

namespace Countinghouse.Json

/-- The name that a part of a pointer stands for. -/
def pointerName : List Char → List Char
  | '~' :: '1' :: rest => '/' :: pointerName rest
  | '~' :: '0' :: rest => '~' :: pointerName rest
  | character :: rest => character :: pointerName rest
  | [] => []

/-- The value that a name leads to. -/
def child? (name : String) : Json → Option Json
  | .list items => name.toNat? >>= (items[·]?)
  | value => value.field? name

/-- The value that a pointer leads to. -/
def at? (pointer : String) (value : Json) : Option Json :=
  ((pointer.splitOn "/").drop 1).foldlM
    (fun value part => value.child? (String.ofList (pointerName part.toList))) value

end Countinghouse.Json
