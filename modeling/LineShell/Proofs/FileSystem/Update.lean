import Mathlib.Data.List.Basic
import LineShell.FileSystem.Listing
import LineShell.FileSystem.Operations

/-!
# What a change leaves as it was

Each change of a file system is described by what stands at every location afterwards and by what
every file then holds. Two notions are shared by all that follows:

- a *place* is a location where an entry stands or can be made (`IsPlace`);
- one file system *extends* another when it keeps every entry of it (`Extends`); contents of files
  may differ.

Making a directory or a file extends a file system.
-/

namespace LineShell.FileSystem

variable {fs later : FileSystem} {loc parent : Location} {name : Name} {id : FileId}
  {found added : Entry} {file : File}

/-! ## Places -/

/-- A location where an entry stands, or where one can be made. -/
def IsPlace (fs : FileSystem) : Location → Prop
  | [] => True
  | name :: parent => name.isValid = true ∧ fs.entry? parent = some .directory

@[simp]
theorem entry?_nil (fs : FileSystem) : fs.entry? [] = some .directory :=
  rfl

theorem mem_entries_iff :
    name :: parent ∈ fs.entries ↔ ∃ found, fs.entry? (name :: parent) = some found := by
  rw [Std.ExtTreeMap.mem_iff_isSome_getElem?, Option.isSome_iff_exists]
  rfl

theorem mem_names_iff : name ∈ fs.names loc ↔ fs.entry? (name :: loc) ≠ none := by
  rw [mem_names, mem_entries_iff, Option.ne_none_iff_exists']

/-- What holds an entry is a directory, and the entry's name is valid. -/
theorem isPlace_of_entry (h : fs.entry? loc = some found) : fs.IsPlace loc := by
  cases loc with
  | nil => trivial
  | cons name parent =>
    have mem : name :: parent ∈ fs.entries := mem_entries_iff.2 ⟨found, h⟩
    exact ⟨fs.isTree.name_valid name parent mem, fs.isTree.parent_eq name parent mem⟩

/-- What holds an entry is a directory. -/
theorem entry?_parent (h : fs.entry? (name :: parent) = some found) :
    fs.entry? parent = some .directory :=
  (isPlace_of_entry h).2

/-- A directory at the end of a way down from an entry means that the entry is a directory too. -/
theorem entry?_of_suffix {below : Location} (h : fs.entry? (below ++ loc) = some found)
    (notHere : below ≠ []) : fs.entry? loc = some .directory := by
  -- From the end of the way up, what holds an entry is a directory.
  induction below generalizing found with
  | nil => exact absurd rfl notHere
  | cons name rest ih =>
    have parentDir : fs.entry? (rest ++ loc) = some .directory := entry?_parent h
    by_cases last : rest = []
    · rwa [last, List.nil_append] at parentDir
    · exact ih parentDir last

/-- The names on the way to an entry are valid. -/
theorem isValid_of_entry (h : fs.entry? loc = some found) :
    ∀ name ∈ loc, Name.isValid name = true := by
  induction loc generalizing found with
  | nil => simp
  | cons first parent ih =>
    obtain ⟨valid, parentDir⟩ := isPlace_of_entry h
    intro name mem
    rcases List.mem_cons.1 mem with rfl | mem
    · exact valid
    · exact ih parentDir name mem

/-- The file that an entry names is there. -/
theorem lt_size_of_entry (h : fs.entry? loc = some (.file id)) : id < fs.files.size := by
  cases loc with
  | nil => simp at h
  | cons name parent => exact fs.isTree.file_lt (name :: parent) id h

/-- The list of all entries has each of them but the root. -/
theorem mem_toList_iff :
    (loc, found) ∈ fs.toList ↔ loc ≠ [] ∧ fs.entry? loc = some found := by
  rw [toList, Std.ExtTreeMap.mem_toList_iff_getElem?_eq_some]
  cases loc with
  | nil =>
    have root : fs.entries[([] : Location)]? = none :=
      Std.ExtTreeMap.getElem?_eq_none fs.isTree.root_not_mem
    simp [root]
  | cons name parent =>
    rw [and_iff_right (List.cons_ne_nil name parent)]
    rfl

/-- A file system is its files and what stands at each location. -/
theorem eq_of_entry? (files : later.files = fs.files)
    (entries : ∀ loc, later.entry? loc = fs.entry? loc) : later = fs := by
  have same : later.entries = fs.entries := by
    refine Std.ExtTreeMap.ext_getElem? fun loc => ?_
    cases loc with
    | nil =>
      rw [Std.ExtTreeMap.getElem?_eq_none later.isTree.root_not_mem,
        Std.ExtTreeMap.getElem?_eq_none fs.isTree.root_not_mem]
    | cons name parent => exact entries (name :: parent)
  obtain ⟨_, _, _⟩ := later
  obtain ⟨_, _, _⟩ := fs
  cases same
  cases files
  rfl

/-! ## One more entry -/

@[simp]
theorem files_add : (fs.add parent name added).files = fs.files := by
  unfold add
  split <;> rfl

@[simp]
theorem file_add : (fs.add parent name added).file id = fs.file id := by
  rw [FileSystem.file, files_add, FileSystem.file]

/-- A new entry stands at its location, and all others are as they were. -/
theorem entry?_add (place : fs.IsPlace (name :: parent))
    (vacant : fs.entry? (name :: parent) = none) (added : Entry)
    (inFiles : ∀ id ∈ added.file?, id < fs.files.size) (loc : Location) :
    entry? (fs.add parent name added) loc =
      if loc = name :: parent then some added else fs.entry? loc := by
  rw [add, dif_pos ⟨place.1, place.2, vacant, inFiles⟩]
  exact Entries.entry?_insert added (by simp) loc

/-- Whatever is added, an entry that stands already stays. -/
theorem entry?_add_of_some (h : fs.entry? loc = some found) :
    entry? (fs.add parent name added) loc = some found := by
  unfold add
  split
  · rename_i fits
    have other : loc ≠ name :: parent := by
      rintro rfl
      rw [fits.2.2.1] at h
      simp at h
    exact (Entries.entry?_insert added (by simp) loc).trans ((if_neg other).trans h)
  · exact h

/-! ## One more file -/

/-- A new file stands at its location, and all other entries are as they were. -/
theorem entry?_addFile (place : fs.IsPlace (name :: parent))
    (vacant : fs.entry? (name :: parent) = none) (file : File) (loc : Location) :
    entry? (fs.addFile parent name file) loc =
      if loc = name :: parent then some (.file fs.files.size) else fs.entry? loc := by
  have allotted : (fs.allot file).IsPlace (name :: parent) := place
  exact entry?_add allotted vacant _ (by simp [Entry.file?, allot]) loc

@[simp]
theorem size_addFile : (fs.addFile parent name file).files.size = fs.files.size + 1 := by
  simp [addFile, allot]

/-- A new file holds what it is given. -/
@[simp]
theorem file_addFile_self : (fs.addFile parent name file).file fs.files.size = file := by
  simp [addFile, allot, FileSystem.file]

/-- A new file leaves the files that are there as they were. -/
theorem file_addFile (h : id < fs.files.size) :
    (fs.addFile parent name file).file id = fs.file id := by
  simp [addFile, allot, FileSystem.file, Array.getD_eq_getD_getElem?, Array.getElem?_push,
    Nat.ne_of_lt h]

/-! ## Other contents -/

@[simp]
theorem entry?_setFile : entry? (fs.setFile id file) loc = fs.entry? loc :=
  rfl

@[simp]
theorem size_setFile : (fs.setFile id file).files.size = fs.files.size := by
  simp [setFile]

theorem file_setFile (h : id < fs.files.size) (other : FileId) :
    (fs.setFile id file).file other = if other = id then file else fs.file other := by
  by_cases same : other = id
  · subst same
    simp [setFile, FileSystem.file, Array.getD_eq_getD_getElem?, h]
  · simp [setFile, FileSystem.file, Array.getD_eq_getD_getElem?, same, Ne.symm same]

/-! ## Extension -/

/-- The later file system keeps every entry of the earlier one. -/
structure Extends (fs later : FileSystem) : Prop where
  /-- An entry stays where it is. -/
  entry : ∀ {loc : Location} {found : Entry},
    fs.entry? loc = some found → later.entry? loc = some found
  /-- No file goes away. -/
  size_le : fs.files.size ≤ later.files.size

theorem Extends.refl (fs : FileSystem) : fs.Extends fs :=
  ⟨fun h => h, Nat.le_refl _⟩

theorem Extends.trans {last : FileSystem} (first : fs.Extends later) (second : later.Extends last) :
    fs.Extends last :=
  ⟨fun h => second.entry (first.entry h), Nat.le_trans first.size_le second.size_le⟩

theorem extends_add : fs.Extends (fs.add parent name added) :=
  ⟨entry?_add_of_some, by simp⟩

theorem extends_addFile : fs.Extends (fs.addFile parent name file) where
  entry {loc found} h := by
    have allotted : entry? (fs.allot file) loc = some found := h
    exact entry?_add_of_some allotted
  size_le := by simp

end LineShell.FileSystem
