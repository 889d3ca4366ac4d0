import LineShell.FileSystem.Operations

/-!
# Planting trees of files

Trees of files are put up entry by entry, and taken down again, from outside of a session.
Directories on the way to an entry are made as needed.
-/

namespace LineShell

/-- What is put at a path. -/
inductive Planting
  /-- A directory. -/
  | directory
  /-- A file. -/
  | file (file : File)
  /-- A link that holds a path. -/
  | link (target : Path)
  /-- One more entry for the file at a path. -/
  | hardLink (other : Path)
  deriving DecidableEq, Repr

namespace FileSystem

/-- Makes the directory at a path unless it is there. -/
def ensureDirectory (fs : FileSystem) (path : Path) : Except Fault FileSystem :=
  if fs.isDirectory path then .ok fs else fs.makeDirectory path

/-- Makes the directories along the steps of a path, from the one at a given path on. -/
def ensureSteps : FileSystem → Path → List Path.Step → Except Fault FileSystem
  | fs, _, [] => .ok fs
  | fs, path, step :: rest => do
    let next := path.join ⟨step.toBytes⟩
    let made ← fs.ensureDirectory next
    made.ensureSteps next rest

/-- Makes the directories that are missing along a path. -/
def ensureDirectories (fs : FileSystem) (path : Path) : Except Fault FileSystem :=
  fs.ensureSteps ⟨[Path.slash]⟩ (path.steps.filter (· ≠ .empty))

/-- Puts a file at a path, in place of what the file there holds. -/
def writeFile (fs : FileSystem) (path : Path) (file : File) : Except Fault FileSystem := do
  let loc ← fs.locate path .write
  match loc, fs.entry? loc with
  | name :: parent, none => .ok (fs.addFile parent name file)
  | _, some (.file id) => .ok (fs.setFile id file)
  | _, some .nullDevice => .ok fs
  | _, _ => .error (.refused .isADirectory)

/-- Adds an entry at a path where nothing stands. -/
def addEntry (fs : FileSystem) (path : Path) (added : Entry) : Except Fault FileSystem := do
  let loc ← fs.locate path .keep
  match loc, fs.entry? loc with
  | name :: parent, none => .ok (fs.add parent name added)
  | _, _ => .error (.refused .alreadyExists)

/-- Puts something at an absolute path, with the directories on the way to it. -/
def plant (fs : FileSystem) (path : Path) (planting : Planting) : Except Fault FileSystem := do
  let steps := path.steps.filter (· ≠ .empty)
  let ready ← fs.ensureSteps ⟨[Path.slash]⟩ steps.dropLast
  match planting with
  | .directory => ready.ensureDirectories path
  | .file file => ready.writeFile path file
  | .link target => ready.addEntry path (.link target)
  | .hardLink other =>
    let (_, found) ← ready.find other .keep
    match found with
    | .directory => .error (.refused .isADirectory)
    | shared => ready.addEntry path shared

/-- A tree with the device that reads as empty, and with directories at paths as far as they can be
made. -/
def withDirectories (paths : List Path) : FileSystem :=
  let devices := Text.encode "dev"
  let start := (empty.add [] devices .directory).add [devices] (Text.encode "null") .nullDevice
  paths.foldl (fun fs path => (fs.ensureDirectories path).toOption.getD fs) start

/-- Takes out what stands at a path, with all that is below it. -/
def uproot (fs : FileSystem) (path : Path) : Except Fault FileSystem := do
  let (loc, _) ← fs.find path .keep
  .ok (fs.prune loc)

end FileSystem

end LineShell
