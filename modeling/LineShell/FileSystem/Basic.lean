import Std.Data.ExtTreeMap
import LineShell.Path.Basic

/-!
# Trees of files

A file system maps locations to entries. A location is the list of names from an entry up to the
root, so that the directory which holds an entry is the tail of its location. Directories form a
tree; files are kept beside it and named by number, so that several entries can share one file.

The invariant says that the map is a tree: only directories hold entries, names are fit to stand
between slashes, and each file that an entry names is there. Every operation keeps it.

Left out are owners and permissions, but for the one to run a file; pipes, sockets and all devices
but one; times; and the limits on space and on open files. No operation fails, waits or stops halfway
because of any of these.
-/

namespace LineShell

/-- The names from an entry up to the root. -/
abbrev Location := List Name

/-- Names a file of a file system. -/
abbrev FileId := Nat

/-- What a file holds. -/
structure File where
  /-- The contents. -/
  data : Bytes
  /-- Whether its owner may run it. -/
  executable : Bool
  deriving DecidableEq, Inhabited, Repr

/-- What stands at a location. -/
inductive Entry
  /-- A directory; its entries are the locations one name longer. -/
  | directory
  /-- A file, which other entries may share. -/
  | file (id : FileId)
  /-- A symbolic link and the path that it holds. -/
  | link (target : Path)
  /-- The device that reads as empty and drops what is written to it. -/
  | nullDevice
  deriving DecidableEq, Repr

/-- The file that an entry names, if it names one. -/
def Entry.file? : Entry → Option FileId
  | .file id => some id
  | _ => none

/-- The longest name that a directory takes. -/
def maxNameLength : Nat := 255

/-- Whether a name can be that of an entry. -/
def Name.isValid (name : Name) : Bool :=
  name ≠ [] && name ≠ [Path.dot] && name ≠ [Path.dot, Path.dot] && !name.contains Path.slash &&
    !name.contains 0 && name.length ≤ maxNameLength

/-- Entries by location. -/
abbrev Entries := Std.ExtTreeMap Location Entry compare

/-- What stands at a location: the root is always a directory. -/
def Entries.entry? (entries : Entries) : Location → Option Entry
  | [] => some .directory
  | name :: parent => entries[name :: parent]?

/-- The invariant of a file system with the given number of files. -/
structure Entries.IsTree (entries : Entries) (fileCount : Nat) : Prop where
  /-- The root is not listed as an entry. -/
  root_not_mem : [] ∉ entries
  /-- What holds an entry is a directory. -/
  parent_eq : ∀ name parent, name :: parent ∈ entries → entries.entry? parent = some .directory
  /-- Names are valid. -/
  name_valid : ∀ name parent, name :: parent ∈ entries → Name.isValid name = true
  /-- The files that entries name are there. -/
  file_lt : ∀ (loc : Location) (id : FileId), entries[loc]? = some (.file id) → id < fileCount

namespace Entries

variable {entries : Entries}

/-- Adding an entry changes what stands at its location only. -/
theorem entry?_insert {loc : Location} (added : Entry) (h : loc ≠ []) (other : Location) :
    Entries.entry? (entries.insert loc added) other =
      if other = loc then some added else Entries.entry? entries other := by
  cases other with
  | nil => simp [Entries.entry?, h.symm]
  | cons name parent =>
    simp only [Entries.entry?, Std.ExtTreeMap.getElem?_insert, Std.LawfulEqCmp.compare_eq_iff_eq]
    simp only [eq_comm]

/-- Removing an entry changes nothing at any other location. -/
theorem entry?_erase {loc other : Location} (h : other ≠ loc) :
    Entries.entry? (entries.erase loc) other = Entries.entry? entries other := by
  cases other with
  | nil => rfl
  | cons name parent =>
    simp only [Entries.entry?, Std.ExtTreeMap.getElem?_erase, Std.LawfulEqCmp.compare_eq_iff_eq,
      if_neg h.symm]

/-- A tree stays one when a directory gets a new entry with a valid name. -/
theorem IsTree.insert {fileCount : Nat} (tree : entries.IsTree fileCount) {name : Name}
    {parent : Location} {added : Entry} (valid : Name.isValid name = true)
    (inDirectory : entries.entry? parent = some .directory)
    (vacant : entries.entry? (name :: parent) = none)
    (inFiles : ∀ id, added = .file id → id < fileCount) :
    IsTree (Std.ExtTreeMap.insert entries (name :: parent) added) fileCount where
  root_not_mem := by simpa using tree.root_not_mem
  parent_eq n p h := by
    have old : entries.entry? p = some .directory := by
      rcases Std.ExtTreeMap.mem_insert.1 h with h | h
      · rw [Std.LawfulEqCmp.compare_eq_iff_eq] at h
        cases h
        exact inDirectory
      · exact tree.parent_eq n p h
    have other : p ≠ name :: parent := by
      rintro rfl
      simp [vacant] at old
    rw [entry?_insert added (by simp), if_neg other, old]
  name_valid n p h := by
    rcases Std.ExtTreeMap.mem_insert.1 h with h | h
    · rw [Std.LawfulEqCmp.compare_eq_iff_eq] at h
      cases h
      exact valid
    · exact tree.name_valid n p h
  file_lt loc id h := by
    rw [Std.ExtTreeMap.getElem?_insert] at h
    split at h
    · exact inFiles id (Option.some.inj h)
    · exact tree.file_lt loc id h

/-- A tree stays one when an entry that holds no others is removed. -/
theorem IsTree.erase {fileCount : Nat} (tree : entries.IsTree fileCount) {loc : Location}
    (holdsNone : ∀ name, name :: loc ∉ entries) :
    IsTree (Std.ExtTreeMap.erase entries loc) fileCount where
  root_not_mem h := tree.root_not_mem (Std.ExtTreeMap.mem_of_mem_erase h)
  parent_eq n p h := by
    have mem := Std.ExtTreeMap.mem_of_mem_erase h
    have other : p ≠ loc := by
      rintro rfl
      exact holdsNone n mem
    rw [entry?_erase other, tree.parent_eq n p mem]
  name_valid n p h := tree.name_valid n p (Std.ExtTreeMap.mem_of_mem_erase h)
  file_lt loc id h := by
    rw [Std.ExtTreeMap.getElem?_erase] at h
    split at h
    · simp at h
    · exact tree.file_lt loc id h

/-- A tree stays one when a location is taken out together with all below it. -/
theorem IsTree.prune {fileCount : Nat} (tree : entries.IsTree fileCount) (loc : Location) :
    IsTree (Std.ExtTreeMap.filter (fun other _ => !loc.isSuffixOf other) entries) fileCount where
  root_not_mem h := tree.root_not_mem (Std.ExtTreeMap.mem_of_mem_filter h)
  parent_eq n p h := by
    have old := tree.parent_eq n p (Std.ExtTreeMap.mem_of_mem_filter h)
    cases p with
    | nil => rfl
    | cons name parent =>
      simp only [Entries.entry?] at old ⊢
      obtain ⟨_, kept⟩ := Std.ExtTreeMap.mem_filter.1 h
      simp only [Std.ExtTreeMap.getKey_eq, Bool.not_eq_true', ← Bool.not_eq_true,
        List.isSuffixOf_iff_suffix] at kept
      rw [Std.ExtTreeMap.getElem?_filter', old, Option.filter_eq_some_iff]
      refine ⟨rfl, ?_⟩
      simp only [Bool.not_eq_true', ← Bool.not_eq_true, List.isSuffixOf_iff_suffix]
      exact fun below => kept (below.trans (List.suffix_cons n _))
  name_valid n p h := tree.name_valid n p (Std.ExtTreeMap.mem_of_mem_filter h)
  file_lt other id h := by
    rw [Std.ExtTreeMap.getElem?_filter', Option.filter_eq_some_iff] at h
    exact tree.file_lt other id h.1

/-- A tree stays one when files are added beside it. -/
theorem IsTree.mono {fileCount more : Nat} (tree : entries.IsTree fileCount)
    (le : fileCount ≤ more) : entries.IsTree more where
  root_not_mem := tree.root_not_mem
  parent_eq := tree.parent_eq
  name_valid := tree.name_valid
  file_lt loc id h := Nat.lt_of_lt_of_le (tree.file_lt loc id h) le

end Entries

/-- A tree of directories, links and files. -/
structure FileSystem where
  /-- The entries. -/
  entries : Entries
  /-- The files that the entries name. A file that no entry names any more is out of reach. -/
  files : Array File
  /-- The entries are a tree. -/
  isTree : entries.IsTree files.size

namespace FileSystem

/-- The file system with an empty root. -/
def empty : FileSystem where
  entries := ∅
  files := #[]
  isTree := ⟨by simp, by simp, by simp, by simp⟩

instance : Inhabited FileSystem := ⟨empty⟩

/-- What stands at a location. -/
def entry? (fs : FileSystem) (loc : Location) : Option Entry :=
  fs.entries.entry? loc

/-- The file of the given number. -/
def file (fs : FileSystem) (id : FileId) : File :=
  fs.files.getD id default

/-- All entries with their locations. -/
def toList (fs : FileSystem) : List (Location × Entry) :=
  fs.entries.toList

/-- The names of the entries that a location holds, in ascending order of their bytes. -/
def names (fs : FileSystem) (loc : Location) : List Name :=
  fs.entries.keys.filterMap fun
    | [] => none
    | name :: parent => if parent = loc then some name else none

/-- A location holds a name when there is an entry at the location that the name leads to. -/
theorem mem_names {fs : FileSystem} {loc : Location} {name : Name} :
    name ∈ fs.names loc ↔ name :: loc ∈ fs.entries := by
  simp only [names, List.mem_filterMap]
  constructor
  · rintro ⟨_ | ⟨first, parent⟩, mem, found⟩
    · simp at found
    · simp only [Option.ite_none_right_eq_some, Option.some.injEq] at found
      obtain ⟨rfl, rfl⟩ := found
      exact Std.ExtTreeMap.mem_keys.1 mem
  · intro mem
    exact ⟨name :: loc, Std.ExtTreeMap.mem_keys.2 mem, by simp⟩

/-- The file system with one more entry, a directory, a link or a file that is there. A request
that would not leave a tree changes nothing. -/
def add (fs : FileSystem) (parent : Location) (name : Name) (added : Entry) : FileSystem :=
  if h : Name.isValid name = true ∧ fs.entry? parent = some .directory ∧
      fs.entry? (name :: parent) = none ∧ ∀ id ∈ added.file?, id < fs.files.size then
    { fs with
      entries := fs.entries.insert (name :: parent) added
      isTree := fs.isTree.insert h.1 h.2.1 h.2.2.1 fun id same =>
        h.2.2.2 id (by simp [same, Entry.file?]) }
  else fs

/-- The file system with one more file, which no entry names yet. -/
def allot (fs : FileSystem) (file : File) : FileSystem where
  entries := fs.entries
  files := fs.files.push file
  isTree := fs.isTree.mono (by simp)

/-- The file system with a new file at a new entry. -/
def addFile (fs : FileSystem) (parent : Location) (name : Name) (file : File) : FileSystem :=
  (fs.allot file).add parent name (.file fs.files.size)

/-- The file system in which a file is as given. -/
def setFile (fs : FileSystem) (id : FileId) (file : File) : FileSystem where
  entries := fs.entries
  files := fs.files.setIfInBounds id file
  isTree := by simpa using fs.isTree

/-- The file system without the entry at a location. Where the entry holds others, nothing
changes. -/
def erase (fs : FileSystem) (loc : Location) : FileSystem :=
  if h : fs.names loc = [] then
    { fs with
      entries := fs.entries.erase loc
      isTree := fs.isTree.erase fun name mem => by simpa [h] using mem_names.2 mem }
  else fs

/-- The file system without what stands at a location and below it. -/
def prune (fs : FileSystem) (loc : Location) : FileSystem :=
  { fs with
    entries := fs.entries.filter fun other _ => !loc.isSuffixOf other
    isTree := fs.isTree.prune loc }

end FileSystem

end LineShell
