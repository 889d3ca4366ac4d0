import LineShell.Pattern.Tree
import LineShell.Text.CodePoints

/-!
# Sets of characters

The characters that a class stands for, made from ranges by the operations on sets.
-/

namespace LineShell.Pattern

/-- A set of characters. -/
inductive CharSet
  /-- The characters in ranges of code points. -/
  | ranges (codes : Text.CodePoints)
  /-- The characters that are not in a set. -/
  | complement (set : CharSet)
  /-- The characters in at least one of two sets. -/
  | union (first second : CharSet)
  /-- The characters that two sets and an operator make. -/
  | operation (operator : ClassOperator) (left right : CharSet)
  /-- The characters in a set and the letters of ASCII that differ from them in case. -/
  | caseless (set : CharSet)
  deriving DecidableEq, Repr

namespace CharSet

/-- The set of a single character. -/
def single (c : Char) : CharSet :=
  .ranges [(c.toNat, c.toNat)]

/-- No characters. -/
def none : CharSet :=
  .ranges []

/-- A letter of ASCII in the other case. -/
def otherCase (c : Char) : Char :=
  if c.isUpper then c.toLower else c.toUpper

/-- Whether a character is in a set. -/
def has : CharSet → Char → Bool
  | ranges codes, c => codes.has c
  | complement set, c => !set.has c
  | union first second, c => first.has c || second.has c
  | operation .intersection left right, c => left.has c && right.has c
  | operation .difference left right, c => left.has c && !right.has c
  | operation .symmetricDifference left right, c => left.has c != right.has c
  | caseless set, c => set.has c || set.has (otherCase c)

/-- Whether a set is known to hold characters of ASCII only. -/
def isAscii : CharSet → Bool
  | ranges codes => codes.all fun (_, high) => high < 0x80
  | complement _ => false
  | union first second => first.isAscii && second.isAscii
  | operation .intersection left right => left.isAscii || right.isAscii
  | operation .difference left _ => left.isAscii
  | operation .symmetricDifference left right => left.isAscii && right.isAscii
  | caseless set => set.isAscii

/-- How many ranges a set is made from. -/
def rangeCount : CharSet → Nat
  | ranges codes => codes.length
  | complement set => set.rangeCount + 1
  | union first second => first.rangeCount + second.rangeCount
  | operation _ left right => left.rangeCount + right.rangeCount
  | caseless set => 2 * set.rangeCount

end CharSet

/-- The characters of a named class. -/
def NamedClass.codes : NamedClass → Text.CodePoints
  | alnum => [(0x30, 0x39), (0x41, 0x5A), (0x61, 0x7A)]
  | alpha => [(0x41, 0x5A), (0x61, 0x7A)]
  | ascii => [(0x00, 0x7F)]
  | blank => [(0x09, 0x09), (0x20, 0x20)]
  | cntrl => [(0x00, 0x1F), (0x7F, 0x7F)]
  | digit => [(0x30, 0x39)]
  | graph => [(0x21, 0x7E)]
  | lower => [(0x61, 0x7A)]
  | print => [(0x20, 0x7E)]
  | punct => [(0x21, 0x2F), (0x3A, 0x40), (0x5B, 0x60), (0x7B, 0x7E)]
  | space => [(0x09, 0x0D), (0x20, 0x20)]
  | upper => [(0x41, 0x5A)]
  | word => [(0x30, 0x39), (0x41, 0x5A), (0x5F, 0x5F), (0x61, 0x7A)]
  | xdigit => [(0x30, 0x39), (0x41, 0x46), (0x61, 0x66)]

/-- The characters of ASCII of a class with a short name. -/
def Shorthand.codes : Shorthand → Text.CodePoints
  | digit => NamedClass.digit.codes
  | space => NamedClass.space.codes
  | word => NamedClass.word.codes

end LineShell.Pattern
