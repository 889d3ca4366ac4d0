import LineShell.FileSystem.Calls
import LineShell.Log

/-!
# Copying trees

A directory is copied entry by entry, in ascending order of names, each directory before what it
holds. Files are overwritten, directories that are there already are filled, and what has no
counterpart in the source stays. The first entry that cannot be copied ends the copy; what has been
copied by then remains.

A copy can meet what it has just made, when a link leads from the destination into the source. It
ends all the same: every level of nesting makes the path of the destination longer, and a path that
is too long can be neither found nor made.
-/

namespace LineShell

/-- What happens in the course of a copy. -/
inductive CopyEvent
  /-- A directory is made. -/
  | made (directory : Path)
  /-- A file is copied. -/
  | copied (source target : Path)
  /-- A file cannot be copied. -/
  | failed (source : Path) (fault : Fault)
  /-- Something other than a directory stands where a directory is to be filled. -/
  | metFile (target : Path)
  /-- A directory stands where a file is to be copied to. -/
  | metDirectory (source target : Path)
  deriving DecidableEq, Repr

namespace CopyEvent

/-- How serious an event is. -/
def level : CopyEvent → Level
  | made _ | copied _ _ => .trace
  | failed _ _ | metFile _ | metDirectory _ _ => .warn

/-- How an event is told. -/
def text : CopyEvent → String
  | made directory => s!"created directory {directory.shown}"
  | copied source target => s!"copied {source.shown} -> {target.shown}"
  | failed source fault => s!"failed to copy {source.shown}: {fault.message}"
  | metFile target => s!"cannot copy a directory over file {target.shown}"
  | metDirectory source target =>
    s!"cannot overwrite directory {target.shown} with file {source.shown}"

/-- The line of the log about an event. -/
def logLine (event : CopyEvent) : LogLine :=
  ⟨event.level, .tree, event.text⟩

end CopyEvent

/-- What a copy leaves behind. -/
structure Copied where
  /-- The files. -/
  files : FileSystem
  /-- What happened, in order. -/
  events : List CopyEvent
  /-- The number of files copied, or why the copy ended early. -/
  result : Except Fault Nat

namespace Copied

/-- What a copy says on the way. -/
def log (copied : Copied) : List LogLine :=
  copied.events.map CopyEvent.logLine

/-- One copy and, if it succeeds, another one after it. -/
def andThen (first : Copied) (next : FileSystem → Copied) : Copied :=
  match first.result with
  | .error fault => { first with result := .error fault }
  | .ok count =>
    let second := next first.files
    ⟨second.files, first.events ++ second.events, second.result.map (count + ·)⟩

end Copied

namespace FileSystem

/-- Copies one file into a directory under a path that is no directory's. -/
def copyInto (fs : FileSystem) (source target : Path) : Copied :=
  match (Calls.copyFile source target).run ⟨fs, false⟩ with
  | .ok _ disk => ⟨disk.files, [.copied source target], .ok 1⟩
  | .error fault disk => ⟨disk.files, [.failed source fault], .error fault⟩

/-- Copies an entry that is no directory, unless a directory stands at the target. -/
def copyOver (fs : FileSystem) (source target : Path) : Copied :=
  if fs.isDirectory target then
    ⟨fs, [.metDirectory source target],
      .error (.described .isADirectory s!"{target.shown} is a directory")⟩
  else fs.copyInto source target

/-- Makes the directory that a tree is copied to, unless it is there. -/
def makeTarget (fs : FileSystem) (target : Path) : Copied :=
  if !fs.isPresent target then
    match fs.makeDirectory target with
    | .ok made => ⟨made, [.made target], .ok 0⟩
    | .error fault => ⟨fs, [], .error fault⟩
  else if !fs.isDirectory target then
    ⟨fs, [.metFile target],
      .error (.described .alreadyExists s!"{target.shown} exists and is not a directory")⟩
  else ⟨fs, [], .ok 0⟩

/-- Copies the named entries of one directory to another. Directories, also those that links lead
to, are copied by `descend`. -/
def copyEntries (descend : FileSystem → Path → Path → Copied) (source destination : Path) :
    List Name → FileSystem → Copied
  | [], fs => ⟨fs, [], .ok 0⟩
  | name :: rest, fs =>
    let item := source.entry name
    let target := destination.entry name
    let first := if fs.isDirectory item then descend fs item target else fs.copyOver item target
    first.andThen (copyEntries descend source destination rest)

/-- Copies the entries of one directory to another that is there. -/
def fill (descend : FileSystem → Path → Path → Copied) (source destination : Path)
    (fs : FileSystem) : Copied :=
  match fs.list source with
  | .ok names => copyEntries descend source destination names fs
  | .error fault => ⟨fs, [], .error fault⟩

/-- Copies one level of a tree: makes the destination if nothing is there, and copies the entries
of the source. -/
def copyLevel (descend : FileSystem → Path → Path → Copied) (fs : FileSystem)
    (source destination : Path) : Copied :=
  (fs.makeTarget destination).andThen (fill descend source destination)

/-- Copies a tree at most so many levels deep below the top one. -/
def copyLevels : Nat → FileSystem → Path → Path → Copied
  | 0 => copyLevel fun fs _ _ => ⟨fs, [], .error (.refused .nameTooLong)⟩
  | depth + 1 => copyLevel (copyLevels depth)

/-- Copies the tree at one path to another. The depth is no limit of its own: a level adds at least
one byte to the path of the destination, so a deeper one would be refused for its length. -/
def copyTree (fs : FileSystem) (source destination : Path) : Copied :=
  copyLevels (maxPathLength - destination.bytes.length) fs source destination

end FileSystem

end LineShell
