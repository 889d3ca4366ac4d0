/-!
# Sets of characters

A property of the Unicode standard is the set of the characters that have it, given by ranges of
code points.
-/

namespace LineShell.Text

/-- A set of code points, as inclusive ranges. -/
abbrev CodePoints := List (Nat × Nat)

/-- Whether a character is in a set. -/
def CodePoints.has (set : CodePoints) (c : Char) : Bool :=
  set.any fun (low, high) => low ≤ c.toNat && c.toNat ≤ high

end LineShell.Text
