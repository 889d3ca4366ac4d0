import LineShell.Text.Words

/-!
# History

The lines that a session has accepted, in order. Entries are only ever added; one that is blank
throughout is not worth keeping.
-/

namespace LineShell

/-- The accepted lines of a session, the oldest first. -/
structure History where
  /-- The lines. -/
  entries : List String := []
  deriving DecidableEq, Repr, Inhabited

namespace History

/-- Adds a line unless it is blank. -/
def record (history : History) (entry : String) : History :=
  if Text.trim entry.toList = [] then history else ⟨history.entries ++ [entry]⟩

/-- The latest line. -/
def last? (history : History) : Option String :=
  history.entries.getLast?

/-- The lines with their numbers, which start at one. -/
def numbered (history : History) : List (Nat × String) :=
  history.entries.zipIdx.map fun (entry, index) => (index + 1, entry)

end History

end LineShell
