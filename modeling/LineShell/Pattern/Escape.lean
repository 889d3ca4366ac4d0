import LineShell.Pattern.Defect
import LineShell.Pattern.Tree

/-!
# Reading escapes

What follows a backslash: a character that would mean something else by itself, a control, a code
point in hexadecimal digits, a class or a question about a place.
-/

namespace LineShell.Pattern

/-- What reading a part of a pattern comes to: the part and what follows it, or a defect. -/
abbrev Reading (α : Type) := Except Defect (α × Cursor)

/-- Whether a character stands for itself after a backslash: all signs of ASCII do, except the two
that stand for boundaries of words. -/
def isEscapable (c : Char) : Bool :=
  c.toNat < 0x80 && !c.isAlphanum && c ≠ '<' && c ≠ '>'

/-- The control that a letter stands for after a backslash. -/
def control? : Char → Option Char
  | 'a' => some '\x07'
  | 'f' => some '\x0C'
  | 't' => some '\t'
  | 'n' => some '\n'
  | 'r' => some '\r'
  | 'v' => some '\x0B'
  | _ => none

/-- The question about a place that a character stands for after a backslash. -/
def anchor? : Char → Option Anchor
  | 'A' => some .textStart
  | 'z' => some .textEnd
  | 'B' => some .noWordEdge
  | '<' => some .wordStart
  | '>' => some .wordEnd
  | _ => none

/-- The class that a letter stands for after a backslash, and whether it is negated. -/
def shorthand? : Char → Option (Shorthand × Bool)
  | 'd' => some (.digit, false)
  | 's' => some (.space, false)
  | 'w' => some (.word, false)
  | 'D' => some (.digit, true)
  | 'S' => some (.space, true)
  | 'W' => some (.word, true)
  | _ => none

/-- The boundary of words that a name between braces stands for. -/
def namedBoundary? (name : List Char) : Option Anchor :=
  match String.ofList name with
  | "start" => some .wordStart
  | "end" => some .wordEnd
  | "start-half" => some .noWordBefore
  | "end-half" => some .noWordAfter
  | _ => none

/-- How many hexadecimal digits follow a letter, if they are not between braces. -/
def hexWidth? : Char → Option Nat
  | 'x' => some 2
  | 'u' => some 4
  | 'U' => some 8
  | _ => none

/-- The value of a hexadecimal digit. -/
def hexDigit? (c : Char) : Option Nat :=
  if c.isDigit then some (c.toNat - '0'.toNat)
  else if 'a' ≤ c ∧ c ≤ 'f' then some (c.toNat - 'a'.toNat + 10)
  else if 'A' ≤ c ∧ c ≤ 'F' then some (c.toNat - 'A'.toNat + 10)
  else none

/-- The character of a code point in hexadecimal digits, if there is one. -/
def hexChar? (digits : List Char) : Option Char :=
  let value := (digits.filterMap hexDigit?).foldl (fun value digit => 16 * value + digit) 0
  if value.isValidChar then some (Char.ofNat value) else none

/-- Reads a fixed number of hexadecimal digits. -/
def readHexDigits (width : Nat) (cursor : Cursor) : Reading Char :=
  let (digits, reached) := cursor.takeSpacedUpTo (fun c => (hexDigit? c).isSome) width
  if digits.length < width then
    if reached.atEnd then refuse .escapeUnfinished reached.here
    else refuse .hexDigit reached.nextSpan
  else
    match hexChar? digits with
    | some c => .ok (c, reached)
    | none => refuse .hexValue (reached.since cursor.place)

/-- Reads hexadecimal digits between braces. -/
def readHexBraces (cursor : Cursor) : Reading Char :=
  let (digits, reached) := cursor.advance.takeSpaced fun c => (hexDigit? c).isSome
  if reached.atEnd then refuse .escapeUnfinished (reached.since cursor.place)
  else if reached.rest.head? ≠ some '}' then refuse .hexDigit reached.nextSpan
  else if digits = [] then refuse .hexEmpty (reached.advance.since cursor.place)
  else
    match hexChar? digits with
    | some c => .ok (c, reached.advance)
    | none => refuse .hexValue (reached.since cursor.next.place)

/-- Reads a code point, of which the given letter has been read. Only two digits without braces
could be meant for a byte. -/
def readHex (start : Place) (width : Nat) (cursor : Cursor) : Except Defect (Atom × Cursor) := do
  if cursor.atEnd then refuse .escapeUnfinished cursor.here
  else
    let braces := cursor.rest.head? = some '{'
    let digits := if braces then readHexBraces cursor else readHexDigits width cursor
    let (c, reached) ← digits
    pure (.literal ⟨reached.since start, c, width = 2 && !braces⟩, reached)

/-- Reads the name of a property of characters after its letter. -/
def readProperty (start : Place) (cursor : Cursor) : Reading Atom :=
  match cursor.rest with
  | [] => refuse .escapeUnfinished cursor.here
  | '{' :: _ =>
    let (name, reached) := cursor.advance.takeSpaced (· ≠ '}')
    if reached.atEnd then refuse .escapeUnfinished reached.here
    else
      let isPlain := !name.contains '=' && !name.contains ':'
      .ok (.property (reached.next.since start) (if isPlain then some name else none), reached.next)
  | c :: _ =>
    if c = '\\' then refuse .propertyInvalid cursor.nextSpan
    else .ok (.property (cursor.advance.since start) (some [c]), cursor.advance)

/-- Reads what may follow a sign for the edge of words: the name of a certain edge between braces.
Braces that begin with something else are left alone, they belong to a repetition. -/
def readBoundary (start : Place) (cursor : Cursor) : Reading Atom :=
  let edge : Reading Atom := .ok (.anchor (cursor.since start) .wordEdge, cursor)
  let inName (c : Char) : Bool := c.isAlpha || c = '-'
  if cursor.rest.head? ≠ some '{' then edge
  else
    let inside := cursor.advance
    match inside.rest with
    | [] => refuse .boundaryUnfinished (inside.since start)
    | c :: _ =>
      if !inName c then edge
      else
        let (name, reached) := inside.takeSpaced inName
        if reached.rest.head? ≠ some '}' then
          refuse .boundaryUnclosed (reached.since cursor.place)
        else
          match namedBoundary? name with
          | some boundary => .ok (.anchor (reached.next.since start) boundary, reached.next)
          | none => refuse .boundaryUnknown (reached.since inside.place)

/-- Reads an escape, of which the backslash comes next. -/
def readEscape (cursor : Cursor) : Reading Atom :=
  let start := cursor.place
  let letter := cursor.next
  match letter.rest with
  | [] => refuse .escapeUnfinished (letter.since start)
  | c :: _ =>
    let reached := letter.next
    let span := reached.since start
    if c.isDigit then refuse .backreference span
    else if c = 'p' ∨ c = 'P' then readProperty start letter.advance
    else if c = 'b' then readBoundary start reached
    else if isEscapable c then .ok (.literal ⟨span, c, false⟩, reached)
    else
      match hexWidth? c, shorthand? c, control? c, anchor? c with
      | some width, _, _, _ => readHex start width letter.advance
      | _, some (kind, negated), _, _ => .ok (.shorthand span kind negated, reached)
      | _, _, some char, _ => .ok (.literal ⟨span, char, false⟩, reached)
      | _, _, _, some anchor => .ok (.anchor span anchor, reached)
      | none, none, none, none => refuse .escapeUnknown span

end LineShell.Pattern
