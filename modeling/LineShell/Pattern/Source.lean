import LineShell.Text.Blank

/-!
# The source of a pattern

A pattern is read from the left to the right. Places in it are counted in lines and columns, since
complaints point at them. In free spacing blanks and comments in a pattern mean nothing.
-/

namespace LineShell.Pattern

/-- A place between two characters of a pattern. -/
structure Place where
  /-- The number of the line, the first being 1. -/
  line : Nat
  /-- The number of the character after the place within the line, the first being 1. -/
  column : Nat
  deriving DecidableEq, Repr

namespace Place

/-- The place before the first character. -/
def start : Place :=
  ⟨1, 1⟩

/-- The place after a character that stands at a given one. -/
def after (place : Place) (c : Char) : Place :=
  if c = '\n' then ⟨place.line + 1, 1⟩ else ⟨place.line, place.column + 1⟩

/-- Whether a place is not after another. -/
def isUpTo (place other : Place) : Bool :=
  place.line < other.line || (place.line = other.line && place.column ≤ other.column)

end Place

/-- A stretch of a pattern. -/
structure Span where
  /-- The place that it begins at. -/
  first : Place
  /-- The place that it ends at. -/
  last : Place
  deriving DecidableEq, Repr

/-- A pattern that is being read. -/
structure Cursor where
  /-- The place that the reading has come to. -/
  place : Place
  /-- What has not been read. -/
  rest : List Char
  /-- Whether blanks and comments mean nothing. -/
  free : Bool

namespace Cursor

/-- The beginning of a pattern. -/
def start (source : List Char) : Cursor :=
  ⟨.start, source, false⟩

/-- Whether everything has been read. -/
def atEnd (cursor : Cursor) : Bool :=
  cursor.rest.isEmpty

/-- The cursor after the next character. -/
def next (cursor : Cursor) : Cursor :=
  match cursor.rest with
  | [] => cursor
  | c :: rest => { cursor with place := cursor.place.after c, rest }

/-- The stretch from a place to that of the cursor. -/
def since (cursor : Cursor) (first : Place) : Span :=
  ⟨first, cursor.place⟩

/-- The empty stretch at the cursor. -/
def here (cursor : Cursor) : Span :=
  cursor.since cursor.place

/-- The stretch of the next character. -/
def nextSpan (cursor : Cursor) : Span :=
  cursor.next.since cursor.place

/-- What follows blanks and comments, and its place; `inComment` says whether a comment goes on. -/
def skipFrom (inComment : Bool) (place : Place) : List Char → Place × List Char
  | [] => (place, [])
  | c :: rest =>
    if inComment then skipFrom (c ≠ '\n') (place.after c) rest
    else if Text.isBlank c then skipFrom false (place.after c) rest
    else if c = '#' then skipFrom true (place.after c) rest
    else (place, c :: rest)

/-- The cursor after blanks and comments, if they mean nothing. -/
def skip (cursor : Cursor) : Cursor :=
  if cursor.free then
    let (place, rest) := skipFrom false cursor.place cursor.rest
    { cursor with place, rest }
  else cursor

/-- The cursor after the next character and what means nothing after it. -/
def advance (cursor : Cursor) : Cursor :=
  cursor.next.skip

/-- The cursor after a given text, if that comes next. -/
def after? (cursor : Cursor) (text : String) : Option Cursor :=
  if text.toList.isPrefixOf cursor.rest then
    some (text.toList.foldl (fun reached _ => reached.next) cursor)
  else none

/-- The next characters that pass a test, and the cursor after them. -/
def take (test : Char → Bool) (cursor : Cursor) : List Char × Cursor :=
  let taken := cursor.rest.takeWhile test
  (taken, taken.foldl (fun reached _ => reached.next) cursor)

/-- The next characters that pass a test, at most so many, and the cursor after them; what means
nothing is skipped after each. -/
def takeSpacedUpTo (test : Char → Bool) : Nat → Cursor → List Char × Cursor
  | 0, cursor => ([], cursor)
  | count + 1, cursor =>
    match cursor.rest with
    | [] => ([], cursor)
    | c :: _ =>
      if test c then
        let (taken, reached) := takeSpacedUpTo test count cursor.advance
        (c :: taken, reached)
      else ([], cursor)

/-- The next characters that pass a test, and the cursor after them; what means nothing is skipped
after each. -/
def takeSpaced (test : Char → Bool) (cursor : Cursor) : List Char × Cursor :=
  takeSpacedUpTo test cursor.rest.length cursor

/-- What follows blanks and at most one sign of a comment, if anything does. -/
def peekFrom (seenComment : Bool) : List Char → Option Char
  | [] => none
  | c :: rest =>
    if Text.isBlank c then peekFrom seenComment rest
    else if c = '#' ∧ !seenComment then peekFrom true rest
    else some c

/-- The character after the next one. In free spacing it is looked for behind blanks. -/
def peek (cursor : Cursor) : Option Char :=
  let later := cursor.rest.tail
  if cursor.free then (peekFrom false later).or later.head? else later.head?

end Cursor

end LineShell.Pattern
