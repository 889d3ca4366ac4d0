import LineShell.Command.Work
import LineShell.FileSystem.Copy

/-!
# What commands do

A command looks at the session, and what it does is a list of effects and a result. What is done to
one target is work, which ends with the first step that fails. A command with several targets, and
the removal of every empty directory, goes on after a target that fails and reports it in the output.
-/

namespace LineShell

/-- What follows a command. -/
inductive Flow
  /-- The next line is read. -/
  | next
  /-- The session is over. -/
  | exit
  deriving DecidableEq, Repr

/-- What a command does. -/
structure Run where
  /-- Its effects, in order. -/
  effects : List Effect
  /-- What follows it, or why it failed. -/
  result : Except Failure Flow

namespace Run

/-- A command that does its work. -/
def done (effects : List Effect) : Run :=
  ⟨effects, .ok .next⟩

/-- A command that fails and has done nothing. -/
def fail (failure : Failure) : Run :=
  ⟨[], .error failure⟩

/-- A command that does its work or fails and has done nothing. -/
def ofExcept : Except Failure (List Effect) → Run
  | .ok effects => done effects
  | .error failure => fail failure

/-- A command that does work among the given files. What the work has done is done, also if it
fails. -/
def ofWork (work : Work Unit) (fs : FileSystem) : Run :=
  match work.run ⟨fs, []⟩ with
  | .ok _ now => done now.effects
  | .error failure now => ⟨now.effects, .error failure⟩

end Run

/-- The line of the log that a command leaves about its work. -/
def Builtin.note (command : Builtin) (level : Level) (text : String) : Effect :=
  .note ⟨level, .command command, text⟩

/-- The report of one target that failed. -/
def Failure.reported (failure : Failure) : Effect :=
  .write (.report (.failed failure))

namespace Command

open Work

/-- Does work to several targets, one after the other, and reports those with which it fails. -/
def forEach {α : Type} (work : α → Work Unit) : FileSystem → List α → List Effect
  | _, [] => []
  | fs, target :: rest =>
    match (work target).run ⟨fs, []⟩ with
    | .ok _ now => now.effects ++ forEach work now.files rest
    | .error failure now => now.effects ++ failure.reported :: forEach work now.files rest

/-- The path that is asked to be entered: that of an operand or, without one, the home directory. -/
def enteredPath? (dir : WorkingDirectory) : Option String → Option Path
  | some operand => some (dir.resolve operand)
  | none => dir.home

/-- Enters a directory or the home directory. -/
def enterDirectory (dir : WorkingDirectory) (directory : Option String) : Work Unit := do
  let refused := directory.elim Failure.enterHome Failure.enter
  let target ← known (enteredPath? dir directory) refused
  let entered ← require (.look (dir.enter · target)) fun _ => refused
  perform (.enter entered)
  perform (Builtin.cd.note .debug s!"cd: now in {entered.current.shown}")

/-- Lists the working directory. -/
def listDirectory (session : Session) (reversed : Bool) : Except Failure (List Effect) :=
  let current := session.dir.current
  match session.files.list current with
  | .ok names =>
    let shown := names.map Text.decodeShown
    .ok ((if reversed then shown.reverse else shown).map fun name => .write (.line name))
  | .error _ => .error (.list .ls current)

/-- Makes one directory. -/
def makeDirectory (dir : WorkingDirectory) (operand : String) : Work Unit := do
  let path := dir.resolve operand
  let refuse (why : Reason) : Failure := .makeDirectory operand why
  -- Why nothing is found does not matter here; the call that makes the directory tells.
  let found ← attempt (.look (·.find path .keep))
  ensure (!found.isOk) (refuse .alreadyExists)
  require (.update (·.makeDirectory path)) fun fault => refuse (.ofMakingDirectory fault)
  perform (Builtin.mkdir.note .debug s!"mkdir: created {path.shown}")

/-- Makes directories one after the other and reports those that cannot be made. -/
def makeDirectories (dir : WorkingDirectory) : FileSystem → List String → List Effect :=
  forEach (makeDirectory dir)

/-- Removes the directory at a path if it is empty and the working directory is not below it. It is
called `shown` in the report. -/
def removeDirectory (dir : WorkingDirectory) (path : Path) (shown : String) : Work Unit := do
  let refuse (why : Reason) : Failure := .removeDirectory shown why
  let (_, found) ← require (.look (·.find path .keep)) fun fault => refuse (.ofFault fault)
  ensure (found = .directory) (refuse .notADirectory)
  -- The paths are compared as they are written, whatever they lead to.
  ensure (!dir.current.startsWith path) (refuse .invalidArgument)
  let empty ← require (.look (·.isEmptyDirectory path)) fun fault => refuse (.ofFault fault)
  ensure empty (refuse .directoryNotEmpty)
  require (.update (·.removeDirectory path)) fun fault => refuse (.ofFault fault)
  perform (Builtin.rmdir.note .debug s!"rmdir: removed {path.shown}")

/-- Removes those of the named entries of the working directory that are empty directories, and
reports the others. -/
def removeDirectories (dir : WorkingDirectory) : FileSystem → List Name → List Effect :=
  forEach fun name => removeDirectory dir (dir.current.entry name) (Text.decodeShown name)

/-- The names in a directory of the entries that are directories themselves. -/
def subdirectories (fs : FileSystem) (path : Path) : Except Fault (List Name) := do
  match ← fs.find path .follow with
  | (loc, .directory) =>
    .ok ((fs.names loc).filter fun name => fs.entry? (name :: loc) = some .directory)
  | _ => .error (.refused .notADirectory)

/-- Removes every empty directory in the working directory. -/
def removeEveryDirectory (session : Session) : Except Failure (List Effect) :=
  match subdirectories session.files session.dir.current with
  | .ok names => .ok (removeDirectories session.dir session.files names)
  | .error _ => .error (.list .rmdir session.dir.current)

/-- Makes an empty file unless something is there. -/
def createFile (dir : WorkingDirectory) (operand : String) : Work Unit := do
  let path := dir.resolve operand
  match ← attempt (.update (·.createFile path)) with
  | .ok _ => perform (Builtin.touch.note .debug s!"touch: created {path.shown}")
  | .error fault =>
    if fault.kind = .alreadyExists then
      perform (Builtin.touch.note .trace s!"touch: {path.shown} already exists")
    else throw (.createFile operand (.ofCreatingFile fault))

/-- Removes the entry of a file. -/
def removeFile (dir : WorkingDirectory) (operand : String) : Work Unit := do
  let path := dir.resolve operand
  let refuse (why : Reason) : Failure := .removeFile operand why
  let (_, found) ← require (.look (·.find path .follow)) fun fault => refuse (.ofFault fault)
  ensure found.file?.isSome (refuse .notARegularFile)
  require (.update (·.removeFile path)) fun fault => refuse (.ofFault fault)
  perform (Builtin.rm.note .debug s!"rm: removed {path.shown}")

/-- Prints one file, or reports that it cannot be read. -/
def printFile (session : Session) (operand : String) : List Effect :=
  match session.files.read (session.dir.resolve operand) with
  | .ok contents => [.write (.plain contents), .write (.plain (Text.encode "\n"))]
  | .error fault => [(Failure.read operand (.ofReading fault)).reported]

/-- Copies one file to a place that is no directory and not the file itself. -/
def copyFile (dir : WorkingDirectory) (source destination : String) : Work Unit := do
  let sourcePath := dir.resolve source
  let destinationPath := dir.resolve destination
  let refuse (why : Reason) : Failure := .copy source why
  let (_, found) ← require (.look (·.find sourcePath .follow)) fun fault => refuse (.ofFault fault)
  ensure (found ≠ .directory) (refuse .needsRecursive)
  -- The answer to these two questions is no where the lookup fails.
  let taken ← ask (·.isDirectory destinationPath)
  ensure (!taken) (refuse (.takenByDirectory destination))
  let same ← ask (·.sameFile sourcePath destinationPath)
  ensure (!same) (.sameFile source destination)
  let size ← require (.copyFile sourcePath destinationPath) fun fault => refuse (.ofFault fault)
  perform (Builtin.cp.note .debug
    s!"cp: {sourcePath.shown} -> {destinationPath.shown} ({size} bytes)")

/-- Copies a tree to a place that is not below it as far as the paths tell. What has been copied
before a failure stays. -/
def copyDirectory (session : Session) (source destination : String) : Run :=
  let fs := session.files
  let sourcePath := session.dir.resolve source
  let destinationPath := session.dir.resolve destination
  match fs.find sourcePath .follow with
  | .error fault => .fail (.copy source (.ofFault fault))
  | .ok (_, .directory) =>
    if destinationPath.startsWith sourcePath then .fail (.copyIntoItself source destination)
    else
      let copied := fs.copyTree sourcePath destinationPath
      let effects := copied.log.map Effect.note ++ [.store copied.files]
      match copied.result with
      | .error fault => ⟨effects, .error (.copy source (.ofFault fault))⟩
      | .ok count =>
        .done (effects ++ [Builtin.cp.note .debug
          s!"cp -r: {sourcePath.shown} -> {destinationPath.shown} ({count} files)"])
  | .ok _ => .fail (.copy source .notADirectory)

/-- The line of the help about a command. -/
def helpLine (command : Builtin) : String :=
  let usage := command.usage
  let filling := String.ofList (List.replicate (32 - usage.length) ' ')
  s!"{usage}{filling} {command.description}"

/-- The lines that show a history. -/
def historyLines (history : History) : List String :=
  if history.entries = [] then ["No commands in history"]
  else history.numbered.map fun (number, entry) => s!"{number} {entry}"

/-- What a command does in a session. -/
def run (session : Session) : Command → Run
  | cat files => .done (files.flatMap (printFile session))
  | cd directory => .ofWork (enterDirectory session.dir directory) session.files
  | cp false source destination =>
    .ofWork (copyFile session.dir source destination) session.files
  | cp true source destination => copyDirectory session source destination
  | echo words => .done [.write (.line (" ".intercalate words))]
  | exit => ⟨[], .ok .exit⟩
  | help => .done (Builtin.all.map fun command => .write (.line (helpLine command)))
  | history => .done ((historyLines session.history).map fun text => .write (.line text))
  | ls reversed => .ofExcept (listDirectory session reversed)
  | mkdir directories => .done (makeDirectories session.dir session.files directories)
  | pwd => .done [.write (.line session.dir.current.shown)]
  | rm file => .ofWork (removeFile session.dir file) session.files
  | rmdir directory =>
    .ofWork (removeDirectory session.dir (session.dir.resolve directory) directory) session.files
  | rmdirAll => .ofExcept (removeEveryDirectory session)
  | touch file => .ofWork (createFile session.dir file) session.files

end Command

end LineShell
