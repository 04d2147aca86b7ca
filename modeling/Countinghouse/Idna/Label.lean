import Countinghouse.Unicode.Direction
import Countinghouse.Unicode.Joining
import Countinghouse.Unicode.Composition

/-!
# Which labels may stand in a domain name

A label does not begin with a mark. Characters that make letters join or keep them apart
stand only where that makes a difference. In a name with text that runs from right to left,
each label has one direction.
-/

namespace Countinghouse.Idna

open Countinghouse.Unicode

/-- The character that keeps letters from joining. -/
def nonJoiner : Char := '\u200C'

/-- The character that makes letters join. -/
def joiner : Char := '\u200D'

/-- The place of the marks that silence the vowel of a letter. -/
def silencingClass : Nat := 9

/-- Whether the first letter that is not transparent joins as asked. -/
def firstJoins (asked : Joining → Bool) (text : List Char) : Bool :=
  ((text.map Joining.ofChar).find? (· != .transparent)).any asked

/-- Whether a joiner or a non-joiner may stand where it does. -/
def mayJoin (before : List Char) (character : Char) (after : List Char) : Bool :=
  match before.getLast? with
  | none => false
  | some last =>
    combiningClass last = silencingClass
      || (character == nonJoiner && firstJoins Joining.joinsNext before.reverse
        && firstJoins Joining.joinsPrevious after)

/-- Whether all joiners and non-joiners may stand where they do. -/
def joinersFit (label : List Char) : Bool :=
  label.zipIdx.all fun (character, index) =>
    (character != nonJoiner && character != joiner)
      || mayJoin (label.take index) character (label.drop (index + 1))

/-- Whether the characters of a label may stand as they do. -/
def isSound (label : List Char) : Bool := !label.head?.any isMark && joinersFit label

/-! ## Direction -/

/-- Whether a name is one to which the rules on direction apply. -/
def hasRightToLeft (name : List Char) : Bool :=
  name.any fun character =>
    [Direction.rightToLeft, .arabicLetter, .arabicNumber].contains (Direction.ofChar character)

/-- What may stand in a label of either direction. -/
def neutral : List Direction :=
  [.europeanNumber, .europeanSeparator, .commonSeparator, .europeanTerminator, .otherNeutral,
    .boundaryNeutral, .nonspacingMark]

/-- Whether a label from left to right keeps its direction. -/
def isLeftToRight (between : List Direction) (last : Direction) : Bool :=
  [Direction.leftToRight, .europeanNumber].contains last
    && between.all (Direction.leftToRight :: neutral).contains

/-- Whether a label from right to left keeps its direction. It has numbers of one kind. -/
def isRightToLeft (between : List Direction) (last : Direction) : Bool :=
  [Direction.rightToLeft, .arabicLetter, .europeanNumber, .arabicNumber].contains last
    && between.all (Direction.rightToLeft :: .arabicLetter :: .arabicNumber :: neutral).contains
    && !((last :: between).contains .europeanNumber && (last :: between).contains .arabicNumber)

/-- Whether a label has one direction. Marks at its end do not count. -/
def hasOneDirection (label : List Char) : Bool :=
  match label.map Direction.ofChar with
  | [] => true
  | first :: rest =>
    let trimmed := rest.reverse.dropWhile (· == .nonspacingMark)
    match first, trimmed with
    | .leftToRight, [] | .rightToLeft, [] | .arabicLetter, [] => true
    | .leftToRight, last :: between => isLeftToRight between last
    | .rightToLeft, last :: between | .arabicLetter, last :: between =>
      isRightToLeft between last
    | _, _ => false

end Countinghouse.Idna
