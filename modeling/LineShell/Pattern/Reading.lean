import LineShell.Pattern.Bracket
import LineShell.Text.Letter

/-!
# Reading patterns

A pattern is read from the left to the right, with the groups around the place that the reading has
come to on a stack. Main definition: `Tree.read`, the tree of a pattern or what is wrong with it.
-/

namespace LineShell.Pattern

/-! ### Repetitions -/

/-- The greatest number that a pattern can hold. -/
def greatestNumber : Nat := 0xFFFFFFFF

/-- Reads a decimal number with blanks around it. The cursor moves on even if there is none. -/
def readNumber (cursor : Cursor) : Except Defect Nat × Cursor :=
  let start := (cursor.take Text.isBlank).2
  let (digits, reached) := start.takeSpaced Char.isDigit
  let behind := (reached.take Text.isBlank).2
  let span := reached.since start.place
  let value := digits.foldl (fun value digit => 10 * value + (digit.toNat - '0'.toNat)) 0
  if digits.isEmpty then (refuse .countEmpty span, behind)
  else if greatestNumber < value then (refuse .number span, behind)
  else (.ok value, behind)

/-- Reads how often something is repeated, of which the opening brace comes next. -/
def readCounts (cursor : Cursor) : Except Defect ((Nat × Option Nat) × Cursor) := do
  let start := cursor.place
  let unclosed {α : Type} (reached : Cursor) : Except Defect α :=
    refuse .countUnclosed (reached.since start)
  if cursor.advance.atEnd then unclosed cursor.advance
  else
    let (least, reached) := readNumber cursor.advance
    let (counts, behind) ← match reached.rest with
      | [] => unclosed reached
      | ',' :: _ =>
        if reached.advance.atEnd then unclosed reached.advance
        else if reached.advance.rest.head? = some '}' then
          pure ((← least, none), reached.advance)
        else
          let least ← least
          let (most, behind) := readNumber reached.advance
          pure ((least, some (← most)), behind)
      | _ =>
        let count ← least
        pure ((count, some count), reached)
    if behind.rest.head? ≠ some '}' then unclosed behind
    else pure (counts, behind.advance)

/-- The cursor behind a sign that makes a repetition short, if one comes next. -/
def skipLazy (cursor : Cursor) : Cursor :=
  if cursor.rest.head? = some '?' then cursor.next else cursor

/-! ### Groups -/

/-- Reads settings up to the sign that ends them; what has been read of them is given, the last one
first, with its stretch, a minus being none. -/
def readSettings (read : List (Option Switch × Span)) :
    Nat → Cursor → Except Defect (List (Option Switch × Span) × Cursor)
  | 0, cursor => refuse .settingUnfinished cursor.here
  | steps + 1, cursor => do
    match cursor.rest with
    | [] => refuse .settingUnfinished cursor.here
    | c :: _ =>
      if c = ':' ∨ c = ')' then
        match read with
        | (none, span) :: _ => refuse .settingDangling span
        | _ => pure (read.reverse, cursor)
      else
        let item ←
          if c = '-' then pure none
          else match Switch.ofLetter? c with
            | some switch => pure (some switch)
            | none => refuse .settingUnknown cursor.nextSpan
        match read.find? fun earlier => earlier.1 = item with
        | some (_, earlier) =>
          let complaint := if c = '-' then Complaint.minusTwice else .settingTwice
          .error ⟨complaint, cursor.nextSpan, some earlier⟩
        | none =>
          let reached := cursor.next
          if reached.atEnd then refuse .settingUnfinished reached.here
          else readSettings ((item, cursor.nextSpan) :: read) steps reached

/-- The settings that were read. Those after a minus are turned off. -/
def settingsOf (read : List (Option Switch × Span)) : Settings :=
  let switches := read.map Prod.fst
  ((switches.takeWhile Option.isSome).filterMap fun switch => switch.map fun it => (it, true)) ++
    (switches.dropWhile Option.isSome).filterMap fun switch => switch.map fun it => (it, false)

/-- Whether a character can stand in the name of a group. -/
def isNameChar (isFirst : Bool) (c : Char) : Bool :=
  c = '_' || Text.isLetter c || (!isFirst && (c = '.' || c = '[' || c = ']' || Text.isNumeral c))

/-- Reads the name of a group and the bracket that closes it. -/
def readName (cursor : Cursor) : Except Defect ((List Char × Span) × Cursor) :=
  let begins := cursor.rest.head?.any (isNameChar true)
  let (name, reached) := if begins then cursor.take (isNameChar false) else ([], cursor)
  match reached.rest with
  | [] => refuse .nameUnclosed reached.here
  | '>' :: _ =>
    if name.isEmpty then refuse .nameEmpty cursor.here
    else .ok ((name, reached.since cursor.place), reached.next)
  | _ => refuse .nameChar reached.nextSpan

/-- How a group begins. -/
structure Opening where
  /-- The stretch of its parenthesis. -/
  span : Span
  /-- Its settings. -/
  settings : Settings
  /-- Whether it is captured. -/
  captured : Bool
  /-- Whether blanks mean nothing around it. -/
  freeAround : Bool

/-- A sequence that has not been ended, and the branches before it. -/
structure OpenPart where
  /-- The place that the sequence begins at. -/
  start : Place
  /-- Its parts, the last one first. -/
  parts : List Tree
  /-- The place that the first branch begins at, and the branches before it, the last one first. -/
  branches : Option (Place × List Tree)

namespace OpenPart

/-- A part that begins at a cursor. -/
def begin (cursor : Cursor) : OpenPart :=
  ⟨cursor.place, [], none⟩

/-- A part with one more tree at its end. -/
def push (part : OpenPart) (tree : Tree) : OpenPart :=
  { part with parts := tree :: part.parts }

/-- The sequence that has been read. -/
def sequence (part : OpenPart) (last : Place) : Tree :=
  match part.parts with
  | [] => .empty ⟨part.start, last⟩
  | [tree] => tree
  | parts => .sequence ⟨part.start, last⟩ parts.reverse

/-- A part after the sign between branches, which comes next. -/
def branch (part : OpenPart) (cursor : Cursor) : OpenPart :=
  let (first, earlier) := part.branches.getD (part.start, [])
  ⟨cursor.next.place, [], some (first, part.sequence cursor.place :: earlier)⟩

/-- All that has been read of a part. -/
def close (part : OpenPart) (last : Place) : Tree :=
  match part.branches with
  | none => part.sequence last
  | some (first, earlier) =>
    .alternation ⟨first, last⟩ (part.sequence last :: earlier).reverse

end OpenPart

/-- How far a pattern has been read. -/
structure Progress where
  /-- What has not been read. -/
  cursor : Cursor
  /-- The part that is being read. -/
  part : OpenPart
  /-- The groups around it and what stands before them, the innermost first. -/
  around : List (Opening × OpenPart)
  /-- The names of groups, with their stretches. -/
  names : List (List Char × Span)

namespace Progress

/-- Goes on behind a tree. -/
def push (progress : Progress) (tree : Tree) (reached : Cursor) : Progress :=
  { progress with cursor := reached, part := progress.part.push tree }

/-- Goes into a group. -/
def enter (progress : Progress) (opening : Opening) (inside : Cursor) : Progress :=
  let free := (opening.settings.lookup .free).getD opening.freeAround
  { progress with
    cursor := { inside with free }
    part := OpenPart.begin inside
    around := (opening, progress.part) :: progress.around }

/-- Opens a group, or changes the settings for what follows. -/
def openGroup (progress : Progress) : Except Defect Progress := do
  let cursor := progress.cursor
  let opening := cursor.nextSpan
  let inside := cursor.advance
  let lookAround := ["?=", "?!", "?<=", "?<!"].findSome? inside.after?
  match lookAround, (inside.after? "?P<").or (inside.after? "?<"), inside.after? "?" with
  | some reached, _, _ => refuse .lookAround (reached.since cursor.place)
  | _, some named, _ =>
    let ((name, span), reached) ← readName named
    match progress.names.find? fun known => known.1 = name with
    | some (_, earlier) => .error ⟨.nameTwice, span, some earlier⟩
    | none =>
      let known := { progress with names := (name, span) :: progress.names }
      pure (known.enter ⟨opening, [], true, cursor.free⟩ reached)
  | _, _, some listed =>
    if listed.atEnd then refuse .groupUnclosed opening
    else
      let (items, reached) ← readSettings [] (listed.rest.length + 1) listed
      let settings := settingsOf items
      if reached.rest.head? = some ':' then
        pure (progress.enter ⟨opening, settings, false, cursor.free⟩ reached.next)
      else if items.isEmpty then refuse .repetitionMissing inside.here
      else
        let free := (settings.lookup .free).getD cursor.free
        let span := reached.next.since cursor.place
        pure (progress.push (.settings span settings) { reached.next with free })
  | none, none, none => pure (progress.enter ⟨opening, [], true, cursor.free⟩ inside)

/-- Closes the innermost group. -/
def closeGroup (progress : Progress) : Except Defect Progress :=
  let cursor := progress.cursor
  match progress.around with
  | [] => refuse .groupUnopened cursor.nextSpan
  | (opening, part) :: around =>
    let span := cursor.next.since opening.span.first
    let body := progress.part.close cursor.place
    let group := Tree.group span opening.settings opening.captured body
    .ok { progress with
      cursor := { cursor.next with free := opening.freeAround }
      part := part.push group
      around := around }

/-- The last tree that was read, if it can be repeated, and those before it. -/
def repeatable (progress : Progress) : Except Defect (Tree × List Tree) :=
  match progress.part.parts with
  | [] | .empty _ :: _ | .settings _ _ :: _ => refuse .repetitionMissing progress.cursor.here
  | tree :: earlier => .ok (tree, earlier)

/-- Repeats the last tree that was read, given how often and the cursor behind the sign. -/
def repeatLast (progress : Progress) (least : Nat) (most : Option Nat) (reached : Cursor) :
    Except Defect Progress := do
  let (tree, earlier) ← progress.repeatable
  let repeated := Tree.repetition (reached.since tree.span.first) least most tree
  let part := { progress.part with parts := repeated :: earlier }
  pure { progress with cursor := reached, part := part }

/-- Repeats the last tree that was read as often as the braces that come next say. -/
def repeatCounted (progress : Progress) : Except Defect Progress := do
  let cursor := progress.cursor
  let _ ← progress.repeatable
  let ((least, most), reached) ← readCounts cursor
  let behind := skipLazy reached
  if most.any (· < least) then refuse .countOrder (behind.since cursor.place)
  else progress.repeatLast least most behind

/-- Reads one more tree, sign or end of a group. -/
def step (progress : Progress) : Except Defect Progress := do
  let cursor := progress.cursor
  match cursor.rest with
  | [] => pure progress
  | '(' :: _ => progress.openGroup
  | ')' :: _ => progress.closeGroup
  | '|' :: _ => pure { progress with cursor := cursor.next, part := progress.part.branch cursor }
  | '[' :: _ =>
    let (tree, reached) ← readBracket cursor
    pure (progress.push tree reached)
  | '?' :: _ => progress.repeatLast 0 (some 1) (skipLazy cursor.next)
  | '*' :: _ => progress.repeatLast 0 none (skipLazy cursor.next)
  | '+' :: _ => progress.repeatLast 1 none (skipLazy cursor.next)
  | '{' :: _ => progress.repeatCounted
  | '\\' :: _ =>
    let (atom, reached) ← readEscape cursor
    pure (progress.push (.atom atom) reached)
  | c :: _ =>
    let span := cursor.nextSpan
    let atom : Atom := match c with
      | '.' => .dot span
      | '^' => .anchor span .lineStart
      | '$' => .anchor span .lineEnd
      | _ => .literal ⟨span, c, false⟩
    pure (progress.push (.atom atom) cursor.next)

/-- The whole tree at the end of a pattern. -/
def finish (progress : Progress) : Except Defect Tree :=
  match progress.around with
  | [] => .ok (progress.part.close progress.cursor.place)
  | (opening, _) :: _ => refuse .groupUnclosed opening.span

/-- Reads what is left of a pattern. Every step reads at least one character, so that as many steps
as there are characters are enough. -/
def complete : Nat → Progress → Except Defect Tree
  | 0, progress => finish { progress with cursor := progress.cursor.skip }
  | steps + 1, progress => do
    let progress := { progress with cursor := progress.cursor.skip }
    if progress.cursor.atEnd then progress.finish
    else complete steps (← progress.step)

end Progress

/-! ### Depth -/

mutual

/-- Refuses what lies too deep within a class that lies in so many groups and classes. -/
def ClassTree.checkDepth (limit : Nat) : Nat → ClassTree → Except Defect Unit
  | depth, .bracketed span _ body => do
    if limit ≤ depth then refuse (.tooDeep limit) span
    else body.checkDepth limit (depth + 1)
  | depth, .union span items => do
    if limit ≤ depth then refuse (.tooDeep limit) span
    else ClassTree.checkDepths limit (depth + 1) items
  | depth, .operation span _ left right => do
    if limit ≤ depth then refuse (.tooDeep limit) span
    else
      left.checkDepth limit (depth + 1)
      right.checkDepth limit (depth + 1)
  | _, _ => pure ()

/-- Refuses what lies too deep within parts of a class. -/
def ClassTree.checkDepths (limit : Nat) : Nat → List ClassTree → Except Defect Unit
  | _, [] => pure ()
  | depth, item :: items => do
    item.checkDepth limit depth
    ClassTree.checkDepths limit depth items

end

mutual

/-- Refuses what lies too deep within a tree that lies in so many others. -/
def Tree.checkDepth (limit : Nat) : Nat → Tree → Except Defect Unit
  | depth, .bracketed span _ body => do
    if limit ≤ depth then refuse (.tooDeep limit) span
    else body.checkDepth limit (depth + 1)
  | depth, .repetition span _ _ body => do
    if limit ≤ depth then refuse (.tooDeep limit) span
    else body.checkDepth limit (depth + 1)
  | depth, .group span _ _ body => do
    if limit ≤ depth then refuse (.tooDeep limit) span
    else body.checkDepth limit (depth + 1)
  | depth, .alternation span branches => do
    if limit ≤ depth then refuse (.tooDeep limit) span
    else Tree.checkDepths limit (depth + 1) branches
  | depth, .sequence span parts => do
    if limit ≤ depth then refuse (.tooDeep limit) span
    else Tree.checkDepths limit (depth + 1) parts
  | _, _ => pure ()

/-- Refuses what lies too deep within trees. -/
def Tree.checkDepths (limit : Nat) : Nat → List Tree → Except Defect Unit
  | _, [] => pure ()
  | depth, tree :: trees => do
    tree.checkDepth limit depth
    Tree.checkDepths limit depth trees

end

/-- How deep groups and classes may lie within each other. -/
def depthLimit : Nat := 250

/-- The tree of a pattern, unless something is wrong with it. -/
def Tree.read (source : List Char) : Except Defect Tree := do
  let cursor := Cursor.start source
  let tree ← Progress.complete source.length ⟨cursor, OpenPart.begin cursor, [], []⟩
  tree.checkDepth depthLimit 0
  pure tree

end LineShell.Pattern
