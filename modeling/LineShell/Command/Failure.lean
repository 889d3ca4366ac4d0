import LineShell.Command.Basic
import LineShell.FileSystem.Fault
import LineShell.Path.Basic

/-!
# Failures of commands

What can go wrong between reading a command and its end: the command is not known, its operands do
not fit, the files do not allow what it asks for, or its output cannot be written. Each failure
names its cause; the words for it are in one place.
-/

namespace LineShell

/-- Why something cannot be done to a file or directory. -/
inductive Reason
  | noSuchEntry
  | entryExists
  | isADirectory
  | notADirectory
  | permissionDenied
  /-- Something stands where a directory is to be made. -/
  | alreadyExists
  /-- No entry can be made at the path. -/
  | invalidPath
  /-- Only a regular file can be removed as one. -/
  | notARegularFile
  /-- The working directory and those above it cannot be removed. -/
  | invalidArgument
  | directoryNotEmpty
  /-- A directory is copied as a tree only. -/
  | needsRecursive
  /-- A directory stands at the destination of a file. -/
  | takenByDirectory (destination : String)
  /-- The contents of a file cannot be read. -/
  | unreadable
  deriving DecidableEq, Repr

namespace Reason

/-- How a reason is worded. -/
def message : Reason → String
  | noSuchEntry => "No such file or directory"
  | entryExists => "File exists"
  | isADirectory => "Is a directory"
  | notADirectory => "Not a directory"
  | permissionDenied => "Permission denied"
  | alreadyExists => "Already exists"
  | invalidPath => "Invalid path"
  | notARegularFile => "Not a regular file"
  | invalidArgument => "Invalid argument"
  | directoryNotEmpty => "Directory not empty"
  | needsRecursive => "Is a directory (use -r)"
  | takenByDirectory destination => s!"'{destination}' already exists as a directory"
  | unreadable => "Error reading the file"

/-- The reason that a fault is reported as where nothing more is known. -/
def ofFault (fault : Fault) : Reason :=
  match fault.kind with
  | .notFound => noSuchEntry
  | .alreadyExists => entryExists
  | .isADirectory => isADirectory
  | .notADirectory => notADirectory
  | _ => permissionDenied

/-- The reason that a fault is reported as when a directory is made. -/
def ofMakingDirectory (fault : Fault) : Reason :=
  match fault.kind with
  | .alreadyExists => alreadyExists
  | .notFound => noSuchEntry
  | .permissionDenied => permissionDenied
  | _ => invalidPath

/-- The reason that a fault is reported as when a file is made. -/
def ofCreatingFile (fault : Fault) : Reason :=
  match fault.kind with
  | .notFound | .notADirectory | .invalidInput => invalidPath
  | _ => permissionDenied

/-- The reason that a fault is reported as when a file is printed. -/
def ofReading (fault : Fault) : Reason :=
  match fault.kind with
  | .notFound => noSuchEntry
  | _ => unreadable

end Reason

/-- What a command could not do, with the operands as they were given. -/
inductive Failure
  /-- There is no directory to enter. -/
  | enter (directory : String)
  /-- There is no home directory to enter. -/
  | enterHome
  /-- The working directory cannot be listed. -/
  | list (command : Builtin) (directory : Path)
  /-- A directory cannot be made. -/
  | makeDirectory (directory : String) (why : Reason)
  /-- A directory cannot be removed. -/
  | removeDirectory (directory : String) (why : Reason)
  /-- A file cannot be made. -/
  | createFile (file : String) (why : Reason)
  /-- A file cannot be removed. -/
  | removeFile (file : String) (why : Reason)
  /-- A file cannot be printed. -/
  | read (file : String) (why : Reason)
  /-- A file or tree cannot be copied. -/
  | copy (source : String) (why : Reason)
  /-- A file cannot be copied to itself. -/
  | sameFile (source destination : String)
  /-- A tree cannot be copied to a place below it. -/
  | copyIntoItself (source destination : String)
  deriving DecidableEq, Repr

/-- How a failure is reported. -/
def Failure.message : Failure → String
  | enter directory => s!"cd: cannot change directory '{directory}': No such directory"
  | enterHome => "cd: cannot change directory to home directory: No such directory"
  | list command directory =>
    s!"{command.name}: failed to list contents of '{directory.shown}': Permission denied"
  | makeDirectory directory why => s!"mkdir: cannot create directory '{directory}': {why.message}"
  | removeDirectory directory why => s!"rmdir: failed to remove '{directory}': {why.message}"
  | createFile file why => s!"touch: cannot create file '{file}': {why.message}"
  | removeFile file why => s!"rm: cannot remove '{file}': {why.message}"
  | read file why => s!"cat: {file}: {why.message}"
  | copy source why => s!"cp: failed to copy '{source}': {why.message}"
  | sameFile source destination => s!"cp: '{source}' and '{destination}' are the same file"
  | copyIntoItself source destination =>
    s!"cp: cannot copy a directory, '{source}', into itself, '{destination}'"

/-- Why a line is not carried out, or not to its end. -/
inductive CommandError
  /-- No command has the name. -/
  | unknown (word : String)
  /-- The operands do not fit the command. -/
  | usage (error : UsageError)
  /-- The command fails. -/
  | failed (failure : Failure)
  /-- The output cannot be written. -/
  | output (fault : Fault)
  deriving DecidableEq, Repr

/-- How an error is reported. -/
def CommandError.message : CommandError → String
  | unknown word => s!"{word}: command not found"
  | usage error => error.message
  | failed failure => failure.message
  | output fault => s!"IO error: {fault.message}"

end LineShell
