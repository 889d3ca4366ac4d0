import LineShell.Pattern.Escape

/-!
# Reading classes

What stands between brackets. Within them most characters stand for themselves; ranges, classes of
several kinds and operators between classes are the exception.
-/

namespace LineShell.Pattern

/-- A part of a class that an atom makes; those that ask about a place make none. -/
def Atom.toItem : Atom → Except Defect ClassTree
  | .literal char => .ok (.literal char)
  | .shorthand span kind negated => .ok (.shorthand span kind negated)
  | .property span name => .ok (.property span name)
  | .dot span | .anchor span _ => refuse .classEscape span

/-- The character that an atom stands for at either end of a range. -/
def Atom.toBound : Atom → Except Defect Literal
  | .literal char => .ok char
  | other => refuse .classBoundary other.span

/-- A class of which the closing bracket has not been read. -/
structure OpenClass where
  /-- The stretch of the opening bracket and of what only has a meaning right after it. -/
  opening : Span
  /-- Whether all other characters are meant. -/
  negated : Bool
  /-- What stands before the last operator, and the operator. -/
  left : Option (ClassTree × ClassOperator)
  /-- The stretch of the items after that. -/
  span : Span
  /-- The items after that, the last one first. -/
  items : List ClassTree

namespace OpenClass

/-- A class with one more item. -/
def push (part : OpenClass) (item : ClassTree) : OpenClass :=
  let first := if part.items.isEmpty then item.span.first else part.span.first
  { part with span := ⟨first, item.span.last⟩, items := item :: part.items }

/-- The items after the last operator. -/
def right (part : OpenClass) : ClassTree :=
  match part.items with
  | [] => .empty part.span
  | [item] => item
  | items => .union part.span items.reverse

/-- What has been read of a class. Operators bind to the left. -/
def body (part : OpenClass) : ClassTree :=
  match part.left with
  | none => part.right
  | some (left, operator) =>
    .operation ⟨left.span.first, part.right.span.last⟩ operator left part.right

/-- A class after an operator. -/
def operate (part : OpenClass) (operator : ClassOperator) (reached : Cursor) : OpenClass :=
  { part with left := some (part.body, operator), span := reached.here, items := [] }

/-- A class with the characters that only right after its opening bracket stand for themselves:
minuses, or else a closing bracket. -/
def pushLeading (part : OpenClass) (start : Place) :
    Nat → Cursor → Except Defect (OpenClass × Cursor)
  | 0, cursor => .ok (part, cursor)
  | count + 1, cursor =>
    match cursor.rest with
    | '-' :: _ =>
      if cursor.advance.atEnd then refuse .classUnclosed ⟨start, start⟩
      else
        let more := part.push (.literal ⟨cursor.nextSpan, '-', false⟩)
        more.pushLeading start count cursor.advance
    | ']' :: _ =>
      if !part.items.isEmpty then .ok (part, cursor)
      else if cursor.advance.atEnd then refuse .classUnclosed (cursor.advance.since start)
      else .ok (part.push (.literal ⟨cursor.nextSpan, ']', false⟩), cursor.advance)
    | _ => .ok (part, cursor)

end OpenClass

/-- Opens a class, of which the bracket comes next. -/
def readOpening (cursor : Cursor) : Except Defect (OpenClass × Cursor) := do
  let start := cursor.place
  let inside := cursor.advance
  let negated := inside.rest.head? = some '^'
  let content := if negated then inside.advance else inside
  if content.atEnd then refuse .classUnclosed (content.since start)
  else
    let opened : OpenClass := ⟨content.here, negated, none, content.here, []⟩
    let (part, reached) ← opened.pushLeading start content.rest.length content
    pure ({ part with opening := reached.since start }, reached)

/-- A named class and the cursor behind it, if one comes next. -/
def namedClass? (cursor : Cursor) : Option (ClassTree × Cursor) := do
  let inside ← cursor.after? "[:"
  let negated := inside.rest.head? = some '^'
  let (name, reached) := (if negated then inside.next else inside).take (· ≠ ':')
  let behind ← reached.after? ":]"
  let named ← NamedClass.ofName? name
  some (.named (behind.since cursor.place) named negated, behind)

/-- Reads a character or an escape within a class. -/
def readItem (cursor : Cursor) : Reading Atom :=
  match cursor.rest with
  | [] => refuse .classUnclosed cursor.here
  | '\\' :: _ => readEscape cursor
  | c :: _ => .ok (.literal ⟨cursor.nextSpan, c, false⟩, cursor.next)

/-- Reads a range or a single item of a class, given the stretch of the opening of the class. -/
def readRange (opening : Span) (cursor : Cursor) : Except Defect (ClassTree × Cursor) := do
  let (first, reached) ← readItem cursor
  let reached := reached.skip
  if reached.atEnd then refuse .classUnclosed opening
  else if reached.rest.head? ≠ some '-' ∨ reached.peek = some ']' ∨ reached.peek = some '-' then
    pure (← first.toItem, reached)
  else if reached.advance.atEnd then refuse .classUnclosed opening
  else
    let (last, behind) ← readItem reached.advance
    let span : Span := ⟨first.span.first, last.span.last⟩
    let low ← first.toBound
    let high ← last.toBound
    if low.char ≤ high.char then pure (.range span low high, behind)
    else refuse .classRange span

/-- The operator that comes next in a class, and the cursor behind it. -/
def classOperator? (cursor : Cursor) : Option (ClassOperator × Cursor) :=
  match cursor.rest with
  | '&' :: '&' :: _ => some (.intersection, cursor.next.next)
  | '-' :: '-' :: _ => some (.difference, cursor.next.next)
  | '~' :: '~' :: _ => some (.symmetricDifference, cursor.next.next)
  | _ => none

/-- Reads the rest of a class and of those around it, the innermost of these first. Every step reads
at least one character, so that many steps are enough. -/
def readClass : Nat → OpenClass → List OpenClass → Cursor → Except Defect (Tree × Cursor)
  | 0, part, _, _ => refuse .classUnclosed part.opening
  | steps + 1, part, around, cursor => do
    let cursor := cursor.skip
    match cursor.rest, classOperator? cursor with
    | [], _ => refuse .classUnclosed part.opening
    | ']' :: _, _ =>
      let span : Span := ⟨part.opening.first, cursor.next.place⟩
      match around with
      | [] => pure (.bracketed span part.negated part.body, cursor.next)
      | parent :: around =>
        let closed := parent.push (.bracketed span part.negated part.body)
        readClass steps closed around cursor.next
    | '[' :: _, _ =>
      match namedClass? cursor with
      | some (item, reached) => readClass steps (part.push item) around reached
      | none =>
        let (inner, reached) ← readOpening cursor
        readClass steps inner (part :: around) reached
    | _, some (operator, reached) => readClass steps (part.operate operator reached) around reached
    | _, none =>
      let (item, reached) ← readRange part.opening cursor
      readClass steps (part.push item) around reached

/-- Reads a class, of which the bracket comes next. -/
def readBracket (cursor : Cursor) : Except Defect (Tree × Cursor) := do
  let (part, reached) ← readOpening cursor
  readClass (reached.rest.length + 1) part [] reached

end LineShell.Pattern
