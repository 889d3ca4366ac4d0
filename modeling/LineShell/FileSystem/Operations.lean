import LineShell.FileSystem.Lookup

/-!
# Operations on files

What a program does with files by path. Each operation gives its result or a fault, and where it
gives a fault it has changed nothing. An operation that names an entry, to make or remove it, does
not follow a link there; one that reads or writes contents does.
-/

namespace LineShell.FileSystem

/-- The names of the entries of the directory at a path, in ascending order of their bytes. -/
def list (fs : FileSystem) (path : Path) : Except Fault (List Name) := do
  match ← fs.find path .follow with
  | (loc, .directory) => .ok (fs.names loc)
  | _ => .error (.refused .notADirectory)

/-- Whether the directory at a path is empty. -/
def isEmptyDirectory (fs : FileSystem) (path : Path) : Except Fault Bool :=
  (fs.list path).map List.isEmpty

/-- The contents of the file at a path; a relative path starts at `start`. -/
def readFrom (fs : FileSystem) (start : Location) (path : Path) : Except Fault Bytes := do
  match ← fs.findFrom start path .follow with
  | (_, .file id) => .ok (fs.file id).data
  | (_, .directory) => .error (.refused .isADirectory)
  | _ => .ok []

/-- The contents of the file at a path. -/
def read (fs : FileSystem) (path : Path) : Except Fault Bytes :=
  fs.readFrom [] path

/-- Makes a directory. Trailing slashes of the path do not matter. -/
def makeDirectory (fs : FileSystem) (path : Path) : Except Fault FileSystem := do
  checkPath path
  let steps := (path.steps.reverse.dropWhile (· = .empty)).reverse
  let loc ← fs.walkLinks .keep maxLinks [] steps
  match loc, fs.entry? loc with
  | name :: parent, none => .ok (fs.add parent name .directory)
  | _, _ => .error (.refused .alreadyExists)

/-- Makes an empty file where no entry stands. -/
def createFile (fs : FileSystem) (path : Path) : Except Fault FileSystem := do
  let loc ← fs.locate path .keep
  match loc, fs.entry? loc with
  | name :: parent, none => .ok (fs.addFile parent name ⟨[], false⟩)
  | _, _ => .error (.refused .alreadyExists)

/-- Removes an entry that is not a directory. -/
def removeFile (fs : FileSystem) (path : Path) : Except Fault FileSystem := do
  match ← fs.find path .keep with
  | (_, .directory) => .error (.refused .isADirectory)
  | (loc, _) => .ok (fs.erase loc)

/-- Removes an empty directory. -/
def removeDirectory (fs : FileSystem) (path : Path) : Except Fault FileSystem := do
  match ← fs.find path .keep with
  | ([], _) => .error (.refused .busy)
  | (loc, .directory) =>
    if fs.names loc = [] then .ok (fs.erase loc) else .error (.refused .directoryNotEmpty)
  | _ => .error (.refused .notADirectory)

end LineShell.FileSystem
