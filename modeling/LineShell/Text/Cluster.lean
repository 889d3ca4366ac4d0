import LineShell.Text.Joining

/-!
# Clusters

What a reader takes for one character may be several of them. A text is a sequence of such clusters,
and nothing is lost when it is cut between them. Whether a character goes on with a cluster depends
on the one before it and on a little of what precedes that one, which `Ending` holds.
-/

namespace LineShell.Text

/-- How far a text has come with pictographs that a joiner binds. -/
inductive Binding
  /-- It ends in no pictograph. -/
  | loose
  /-- It ends in a pictograph and marks on it. -/
  | pictograph
  /-- It ends in a pictograph, marks on it and a joiner. -/
  | joined
  deriving DecidableEq, Repr

/-- How far a text has come with consonants that a sign binds. -/
inductive Conjunct
  /-- It ends in no consonant. -/
  | loose
  /-- It ends in a consonant and marks on it. -/
  | consonant
  /-- It ends in a consonant and marks on it, one of which binds it to the next. -/
  | linked
  deriving DecidableEq, Repr

/-- What the ending of a text says about the character after it. -/
structure Ending where
  /-- The class of the last character, if there is one. -/
  last : Option Joining
  /-- Whether it ends in an odd number of halves of flags. -/
  halfFlag : Bool
  /-- Whether a joiner waits for a pictograph. -/
  binding : Binding
  /-- Whether a consonant waits for another. -/
  conjunct : Conjunct

namespace Ending

/-- The ending of the empty text. -/
def start : Ending :=
  ⟨none, false, .loose, .loose⟩

/-- The ending of a text with one more character. -/
def push (ending : Ending) (next : Joining) : Ending where
  last := some next
  halfFlag := next = .flagHalf && !ending.halfFlag
  binding :=
    if next = .pictograph then .pictograph
    else if ending.binding ≠ .pictograph then .loose
    else if next.isMark then .pictograph
    else if next = .joiner then .joined
    else .loose
  conjunct :=
    if next = .consonant then .consonant
    else if ending.conjunct = .loose then .loose
    else if next = .linker then .linked
    else if next = .mark ∨ next = .joiner then ending.conjunct
    else .loose

/-- Whether a character of a class goes on with the cluster that a text ends in. -/
def continues (ending : Ending) (next : Joining) : Bool :=
  match ending.last, next with
  | none, _ => false
  | some .ret, .feed => true
  | some last, next =>
    if last.isControl || next.isControl then false
    else if next.isMark || next = .joiner || next = .spacing || last = .prepended then true
    else match last, next with
      | .leading, .leading | .leading, .vowel | .leading, .openSyllable
      | .leading, .closedSyllable => true
      | .openSyllable, .vowel | .openSyllable, .trailing | .vowel, .vowel
      | .vowel, .trailing => true
      | .closedSyllable, .trailing | .trailing, .trailing => true
      | _, .consonant => ending.conjunct = .linked
      | _, .pictograph => ending.binding = .joined
      | _, .flagHalf => ending.halfFlag
      | _, _ => false

end Ending

/-- Puts a character before clusters, into the first of them or as one of its own. -/
def attach (c : Char) (joins : Bool) : List (List Char) → List (List Char)
  | cluster :: later => if joins then (c :: cluster) :: later else [c] :: cluster :: later
  | [] => [[c]]

/-- The clusters of what follows a text with a given ending. The first of them may go on with the
cluster before it, which is for `continues` to say. -/
def clustersAfter (ending : Ending) : List Char → List (List Char)
  | [] => []
  | c :: rest =>
    let reached := ending.push (Joining.ofChar c)
    let joins := rest.head?.any fun next => reached.continues (Joining.ofChar next)
    attach c joins (clustersAfter reached rest)

/-- The clusters of a text, in order. -/
def clusters (text : List Char) : List (List Char) :=
  clustersAfter .start text

/-- A character put before clusters comes before their text. -/
theorem flatten_attach (c : Char) (joins : Bool) (later : List (List Char)) :
    (attach c joins later).flatten = c :: later.flatten := by
  cases later with
  | nil => rfl
  | cons => cases joins <;> rfl

/-- Cutting a text into clusters loses nothing. -/
theorem flatten_clustersAfter (ending : Ending) (text : List Char) :
    (clustersAfter ending text).flatten = text := by
  induction text generalizing ending with
  | nil => rfl
  | cons c rest ih => rw [clustersAfter, flatten_attach, ih]

/-- The clusters of a text make up the text. -/
theorem flatten_clusters (text : List Char) : (clusters text).flatten = text :=
  flatten_clustersAfter _ text

end LineShell.Text
