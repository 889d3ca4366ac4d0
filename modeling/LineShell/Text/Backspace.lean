import LineShell.Text.Cluster
import LineShell.Text.Words

/-!
# Backspaces

In a line that is not typed into an editor a backspace takes back the cluster before it. A backspace
with nothing before it does nothing.

How many bytes a cluster takes is remembered in a single byte. Of a cluster that is longer only as
much is taken back as that byte says, and where this would cut a character in two the line cannot be
read.
-/

namespace LineShell.Text

/-- The character that takes back the cluster before it. -/
def backspace : Char := '\x08'

/-- A line while its backspaces are carried out. -/
structure Draft where
  /-- Its characters, the last one first. -/
  reversed : List Char
  /-- How many bytes each backspace would take back, the next one first. -/
  sizes : List Nat

namespace Draft

/-- The empty line. -/
def empty : Draft :=
  ⟨[], []⟩

/-- A line with one more cluster. -/
def append (draft : Draft) (cluster : List Char) : Draft :=
  ⟨cluster.reverse ++ draft.reversed, byteLength cluster % 256 :: draft.sizes⟩

/-- Takes so many bytes of characters away, unless one would be cut in two. -/
def dropBytes? : Nat → List Char → Option (List Char)
  | 0, text => some text
  | _, [] => none
  | size + 1, c :: rest =>
    if c.utf8Size ≤ size + 1 then dropBytes? (size + 1 - c.utf8Size) rest else none

/-- A line after a backspace, unless a character would be cut in two. -/
def takeBack? (draft : Draft) : Option Draft :=
  match draft.sizes with
  | [] => some draft
  | size :: sizes => (dropBytes? size draft.reversed).map fun reversed => ⟨reversed, sizes⟩

/-- A line after one more cluster, which may be a backspace. -/
def push? (draft : Draft) (cluster : List Char) : Option Draft :=
  if cluster = [backspace] then draft.takeBack? else some (draft.append cluster)

end Draft

/-- The text that is left when backspaces have been carried out, unless a character would be cut in
two. -/
def applyBackspaces? (text : String) : Option String :=
  ((clusters text.toList).foldlM Draft.push? Draft.empty).map fun draft =>
    String.ofList draft.reversed.reverse

end LineShell.Text
