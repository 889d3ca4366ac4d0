import LineShell.Pattern.Expression

/-!
# Matching

Where matches of an expression can end, given where they may begin. Both are sets of places in a
text, one of which is before each character and one behind the last. An expression takes the one set
to the other, and it matches somewhere in a text if it takes the set of all places to one that is
not empty.
-/

namespace LineShell.Pattern

/-- A set of places in a text: whether each of them belongs to it, in order. -/
abbrev Places := List Bool

/-- The characters on both sides of a place. -/
structure Gap where
  /-- The character before the place. -/
  before : Option Char
  /-- The character behind the place. -/
  behind : Option Char

/-- The places of a text, given the character before it. -/
def gapsAfter (before : Option Char) : List Char → List Gap
  | [] => [⟨before, none⟩]
  | c :: rest => ⟨before, some c⟩ :: gapsAfter (some c) rest

/-- The places of a text. -/
def gaps (text : List Char) : List Gap :=
  gapsAfter none text

/-- Whether a character of ASCII is part of a word. -/
def inWord (c : Char) : Bool :=
  Shorthand.word.codes.has c

/-- Whether it is true what is asked about words at a place. -/
def Anchor.holds (anchor : Anchor) (gap : Gap) : Bool :=
  let before := gap.before.any inWord
  let behind := gap.behind.any inWord
  match anchor with
  | wordEdge => before != behind
  | noWordEdge => before == behind
  | wordStart => !before && behind
  | wordEnd => before && !behind
  | noWordBefore => !before
  | noWordAfter => !behind
  | lineStart | textStart => gap.before.isNone
  | lineEnd | textEnd => gap.behind.isNone

/-- Whether it is true what is asked about a place. A carriage return and the line feed behind it
are not torn apart. -/
def Look.holds (look : Look) (gap : Gap) : Bool :=
  match look with
  | textStart => gap.before.isNone
  | textEnd => gap.behind.isNone
  | lineStart false => gap.before.all (· = '\n')
  | lineEnd false => gap.behind.all (· = '\n')
  | lineStart true =>
    gap.before.all fun c => c = '\n' || (c = '\r' && gap.behind ≠ some '\n')
  | lineEnd true =>
    gap.behind.all fun c => c = '\r' || (c = '\n' && gap.before ≠ some '\r')
  | word anchor _ => anchor.holds gap

namespace Places

/-- All places of a text. -/
def all (text : List Char) : Places :=
  true :: text.map fun _ => true

/-- The places in either of two sets. -/
def union (first second : Places) : Places :=
  List.zipWith (· || ·) first second

/-- The places that a step leads to when it is taken so many times. -/
def stepTimes (step : Places → Places) : Nat → Places → Places
  | 0, places => places
  | count + 1, places =>
    let reached := step places
    if reached = places then places else stepTimes step count reached

/-- The places that a step leads to when it is taken at most so many times. -/
def stepUpTo (step : Places → Places) : Nat → Places → Places
  | 0, places => places
  | count + 1, places =>
    let reached := places.union (step places)
    if reached = places then places else stepUpTo step count reached

end Places

namespace Expression

/-- The places at which matches end that begin at given places. A step through a text with as many
places as it has leads no further when it is taken more often. -/
def advance (text : List Char) : Expression → Places → Places
  | empty, places => places
  | one set, places => false :: List.zipWith (fun here c => here && set.has c) places text
  | look asked, places => List.zipWith (fun here gap => here && asked.holds gap) places (gaps text)
  | captured body, places => body.advance text places
  | sequence first second, places => second.advance text (first.advance text places)
  | choice first second, places =>
    (first.advance text places).union (second.advance text places)
  | repetition least most body, places =>
    let bound := text.length + 1
    let required := Places.stepTimes (body.advance text) (min least bound) places
    let optional := most.elim bound fun most => min (most - least) bound
    Places.stepUpTo (body.advance text) optional required

/-- Whether an expression matches somewhere in a text. -/
def occursIn (expression : Expression) (text : List Char) : Bool :=
  (expression.advance text (Places.all text)).any id

end Expression

end LineShell.Pattern
