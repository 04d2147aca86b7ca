import Countinghouse.Unicode.Composition

/-!
# The composed form of a text

The same text can be written with letters and marks apart or together, and with marks in
one order or another. Its composed form is the one in which everything is together that can
be, and the marks are in order.
-/

namespace Countinghouse.Unicode

/-- The most characters a character is taken apart into, one after another. -/
def decompositionDepth : Nat := 8

/-- A character taken apart as far as that goes. -/
def takeApart : Nat → Char → List Char
  | 0, character => [character]
  | depth + 1, character =>
    match decomposition? character with
    | some (first, second) => takeApart depth first ++ [second]
    | none => [character]

/-- Marks in their order. Those with the same place stay as they are. -/
def sortMarks (marks : List Char) : List Char :=
  marks.mergeSort fun one other => combiningClass one ≤ combiningClass other

/-- A text with the marks after each letter in order. -/
def orderMarks (text : List Char) : List Char :=
  let step (character : Char) : List Char × List Char → List Char × List Char
    | (marks, done) =>
      if combiningClass character = 0 then ([], character :: sortMarks marks ++ done)
      else (character :: marks, done)
  let (marks, done) := text.foldr step ([], [])
  sortMarks marks ++ done

/-- Puts a text together. `starter` is the letter that what comes next may belong to, and
`between`, latest first, is what stands after it. What belongs to a letter must not be cut
off from it by a mark with the same place, or with none. -/
def putTogether (starter : Option Char) (between : List Char) : List Char → List Char
  | [] => starter.toList ++ between.reverse
  | character :: rest =>
    let place := combiningClass character
    let isCutOff := between.head?.any fun mark =>
      combiningClass mark = 0 || place ≤ combiningClass mark
    match if isCutOff then none else starter.bind (composite? · character) with
    | some composite => putTogether (some composite) between rest
    | none =>
      if place = 0 then starter.toList ++ between.reverse ++ putTogether (some character) [] rest
      else putTogether starter (character :: between) rest

/-- The composed form of a text. -/
def compose (text : List Char) : List Char :=
  putTogether none [] (orderMarks (text.flatMap (takeApart decompositionDepth)))

end Countinghouse.Unicode
