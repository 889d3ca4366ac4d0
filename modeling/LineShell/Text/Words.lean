import LineShell.Text.Blank

/-!
# Words of a line

A line is a sequence of runs: maximal stretches that are blank throughout or hold no blank at all.
Its words are the runs without blanks. Everything that looks at words, be it reading a command,
completing or colouring one, is defined on these runs.

Positions in a line count bytes of its UTF-8 form.
-/

namespace LineShell.Text

/-- The maximal runs of blanks and of other characters, in order; nothing is lost. -/
def runs (line : List Char) : List (List Char) :=
  line.splitBy fun a b => isBlank a == isBlank b

/-- Whether a run is one of blanks; the runs of a line are never empty. -/
def isBlankRun (run : List Char) : Bool :=
  run.any isBlank

/-- The maximal stretches without blanks, in order. -/
def words (line : String) : List String :=
  ((runs line.toList).filter fun run => !isBlankRun run).map String.ofList

/-- A list of characters without the blanks in front. -/
def dropBlanks (text : List Char) : List Char :=
  text.dropWhile isBlank

/-- A list of characters without the blanks at either end. -/
def trim (text : List Char) : List Char :=
  (dropBlanks (dropBlanks text).reverse).reverse

/-- The longest beginning of a text that takes at most `size` bytes. -/
def takeBytes : Nat → List Char → List Char
  | _, [] => []
  | size, c :: rest => if c.utf8Size ≤ size then c :: takeBytes (size - c.utf8Size) rest else []

/-- The number of bytes that a text takes. -/
def byteLength : List Char → Nat
  | [] => 0
  | c :: rest => c.utf8Size + byteLength rest

/-- What stands before the word that a text ends in, and that word, which may be empty. -/
def splitLastWord (text : List Char) : List Char × List Char :=
  ((text.reverse.dropWhile fun c => !isBlank c).reverse,
    (text.reverse.takeWhile fun c => !isBlank c).reverse)

/-- Whether a text occurs in another. -/
def occursIn (part : List Char) : List Char → Bool
  | [] => part.isEmpty
  | c :: rest => part.isPrefixOf (c :: rest) || occursIn part rest

end LineShell.Text
