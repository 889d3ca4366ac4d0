import LineShell.FileSystem.Basic

/-!
# Listing a tree

What can be seen of a tree of files without following links: for each entry below a location its
path from there, what it is, and what it holds. Which entries share a file cannot be seen.
-/

namespace LineShell

/-- What can be seen of an entry. -/
inductive Sight
  /-- A directory. -/
  | directory
  /-- A file. -/
  | file (file : File)
  /-- A link and what it holds. -/
  | link (target : Path)
  /-- The device that reads as empty. -/
  | nullDevice
  deriving DecidableEq, Repr

namespace FileSystem

/-- What can be seen of an entry. -/
def sight (fs : FileSystem) : Entry → Sight
  | .directory => .directory
  | .file id => .file (fs.file id)
  | .link target => .link target
  | .nullDevice => .nullDevice

/-- What can be seen at a location. -/
def sight? (fs : FileSystem) (loc : Location) : Option Sight :=
  (fs.entry? loc).map fs.sight

/-- How the way from a location up to one above it is written as a path down. -/
def writeDown (names : List Name) : Bytes :=
  [Path.slash].intercalate names.reverse

/-- The entries below a location with their paths from there, in ascending order of these. -/
def listing (fs : FileSystem) (loc : Location) : List (Bytes × Sight) :=
  let rows := fs.toList.filterMap fun (other, found) =>
    if loc.isSuffixOf other then
      match other.take (other.length - loc.length) with
      | [] => none
      | names => some (writeDown names, fs.sight found)
    else none
  (Std.ExtTreeMap.ofList rows compare).toList

end FileSystem

end LineShell
