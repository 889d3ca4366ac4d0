import LineShell.Text.Utf8

/-!
# Paths

A path is written as bytes, with slashes between its steps. A step goes down to a name, goes up, or
stays; the empty steps of doubled and trailing slashes are kept apart from the written `.`, since a
path that ends in a slash asks for a directory.

Both readings of a path, the lexical one that makes paths normal and the walk through a tree of
files, are defined on these steps.
-/

namespace LineShell

/-- The name of a directory's entry. -/
abbrev Name := Bytes

/-- A path as it is written. -/
structure Path where
  /-- The bytes of the path. -/
  bytes : Bytes
  deriving DecidableEq, Inhabited, Repr

namespace Path

/-- The byte that separates the steps of a path. -/
def slash : UInt8 := 0x2F

/-- The byte that `.` and `..` are made of. -/
def dot : UInt8 := 0x2E

/-- What stands between two slashes of a path. -/
inductive Step
  /-- Nothing: slashes that follow each other, or one at an end of the path. -/
  | empty
  /-- `.`, the directory itself. -/
  | here
  /-- `..`, the directory above. -/
  | up
  /-- An entry of the directory. -/
  | down (name : Name)
  deriving DecidableEq, Repr

/-- The step that is written as the given bytes. -/
def Step.ofBytes (written : Bytes) : Step :=
  if written = [] then .empty
  else if written = [dot] then .here
  else if written = [dot, dot] then .up
  else .down written

/-- How a step is written. -/
def Step.toBytes : Step → Bytes
  | .empty => []
  | .here => [dot]
  | .up => [dot, dot]
  | .down name => name

/-- Whether a step leads away from where it starts. -/
def Step.moves : Step → Bool
  | .empty | .here => false
  | .up | .down _ => true

/-- The path that is written as the given text. -/
def ofString (text : String) : Path :=
  ⟨Text.encode text⟩

/-- The path as text, with replacement characters for what is not. -/
def shown (path : Path) : String :=
  Text.decodeShown path.bytes

/-- Whether the path starts at the root. -/
def isAbsolute (path : Path) : Bool :=
  path.bytes.head? = some slash

/-- The steps of the path. -/
def steps (path : Path) : List Step :=
  (path.bytes.splitOn slash).map Step.ofBytes

/-- The path that continues one path by another. An absolute one starts over. -/
def join (path next : Path) : Path :=
  if next.isAbsolute then next
  else if path.bytes = [] ∨ path.bytes.getLast? = some slash then ⟨path.bytes ++ next.bytes⟩
  else ⟨path.bytes ++ slash :: next.bytes⟩

/-- The path to an entry of the directory at a path. -/
def entry (path : Path) (name : Name) : Path :=
  path.join ⟨name⟩

/-- Whether a path begins with all steps of another, from the same start. It compares what is
written and asks no file system. -/
def startsWith (path other : Path) : Bool :=
  path.isAbsolute == other.isAbsolute &&
    (other.steps.filter Step.moves).isPrefixOf (path.steps.filter Step.moves)

end Path

end LineShell
