import LineShell.Command.Builtin
import LineShell.FileSystem.Operations
import LineShell.Palette

/-!
# Help for a line editor

While a line is typed, an editor can ask how the word before the cursor may go on, how the command
that has been typed is used, and how the line is coloured. The first word goes on as the name of a
command, any other as a path below the working directory. Completions only add to what is typed.
-/

namespace LineShell

/-- A way to go on. -/
structure Candidate where
  /-- How it is offered. -/
  display : String
  /-- What takes the place of the word. -/
  replacement : String
  deriving DecidableEq, Repr

/-- The ways to go on, and the position in the line where the word begins that they replace. -/
structure Completion where
  /-- The position of the word, in bytes. -/
  start : Nat
  /-- The candidates, in ascending order. -/
  candidates : List Candidate
  deriving DecidableEq, Repr

namespace Completion

/-- The commands whose names begin with a word. -/
def commands (word : List Char) : List Candidate :=
  (Builtin.all.filter fun command => word.isPrefixOf command.name.toList).map fun command =>
    ⟨command.name, command.name ++ " "⟩

/-- Splits a path after its last slash: the directory as typed, and the beginning of a name. -/
def splitDirectory (word : List Char) : List Char × List Char :=
  ((word.reverse.dropWhile (· ≠ '/')).reverse, (word.reverse.takeWhile (· ≠ '/')).reverse)

/-- Whether a name is offered for its beginning: hidden names only when the dot has been typed. -/
def offers (beginning name : List Char) : Bool :=
  beginning.isPrefixOf name && (name.head? != some '.' || beginning.head? == some '.')

/-- The candidate for an entry of the directory as typed. A directory can be gone into, anything
else ends the word. -/
def candidate (directory name : String) (isDirectory : Bool) : Candidate :=
  if isDirectory then ⟨name ++ "/", directory ++ name ++ "/"⟩
  else ⟨name, directory ++ name ++ " "⟩

/-- Candidates in ascending order of how they are offered. -/
def sorted (candidates : List Candidate) : List Candidate :=
  let byDisplay := candidates.map fun candidate => (candidate.display, candidate)
  (Std.ExtTreeMap.ofList byDisplay compare).toList.map Prod.snd

/-- The entries whose paths begin with a word, from the given directory on. Names that are not text
cannot be typed and are not offered. -/
def paths (fs : FileSystem) (current : Path) (word : List Char) : List Candidate :=
  let (typed, beginning) := splitDirectory word
  let directory := if typed = [] then current else current.join ⟨Text.encodeChars typed⟩
  match fs.list directory with
  | .error _ => []
  | .ok names =>
    sorted (names.filterMap fun name => do
      let text ← Text.decode? name
      if offers beginning text.toList then
        some (candidate (String.ofList typed) text (fs.isDirectory (directory.entry name)))
      else none)

/-- How a line may go on at a position, in bytes, when the session is in the given directory. -/
def complete (fs : FileSystem) (current : Path) (line : String) (position : Nat) : Completion :=
  let (before, word) := Text.splitLastWord (Text.takeBytes position line.toList)
  let candidates := if Text.trim before = [] then commands word else paths fs current word
  ⟨Text.byteLength before, candidates⟩

/-- What is still to be typed of the synopsis once the name of a command has been. There is a hint
only at the end of a line. -/
def hint (line : String) (position : Nat) : Option String :=
  if position < Text.byteLength line.toList then none
  else do
    let command ← Builtin.find? (String.ofList (Text.dropBlanks line.toList))
    if command.operands = "" then none else some command.operands

/-- How a line is shown while it is typed. -/
def shown (palette : Palette) (line : String) : String :=
  palette.line (fun word => (Builtin.find? word).isSome) line

end Completion

end LineShell
