import LineShell.Proofs.FileSystem.Growth
import LineShell.Proofs.FileSystem.Plain
import LineShell.Proofs.FileSystem.Trail

/-!
# Making an entry and removing it

The path under which an entry has been made leads to that entry, whatever links it goes through
(`find_of_createFile`, `find_of_makeDirectory`). So a removal under the same path finds the new entry,
which holds no others, and takes it away again: after a directory the file system is the one before
(`removeDirectory_of_makeDirectory`), and after a file it is, but for the file that no entry names any
more (`removeFile_of_createFile`).

A path that leads to a new entry has led to nothing before (`find_ne_ok_of_made`). In particular nothing
has been made under a path that the path of a directory begins with (`isDirectory_of_startsWith`).
-/

namespace LineShell.FileSystem

open LineShell.Path (Step)

variable {fs made : FileSystem} {last : LastStep} {links : Nat} {loc dest parent : Location}
  {front rest steps : List Step} {name : Name} {path current : Path} {found : Entry}

/-! ## The way to a new entry -/

/-- A walk that ended at nothing goes on when an entry has been made there, unless that is a link. -/
theorem Leads.through_made (ext : fs.Extends made) (h : fs.Leads .keep links loc front dest)
    (missing : fs.entry? dest = none) (stands : made.entry? dest = some found)
    (notLink : ∀ target, found ≠ .link target) (reads : last ≠ .write)
    (onward : ∀ links, made.Leads last links dest rest dest) :
    made.Leads last links loc (front ++ rest) dest := by
  have allowed : ∀ rest, ¬ IsSlashRefused last rest := fun _ refused => reads refused.1
  -- All steps are taken again as they were, but for the last one, which finds the new entry.
  induction h with
  | done => exact onward _
  | stay dir still _ ih => exact .stay (ext.entry dir) still (ih missing stands onward)
  | up dir _ ih => exact .up (ext.entry dir) (ih missing stands onward)
  | vacant dir _ _ => exact .down (ext.entry dir) (allowed _) stands notLink (onward _)
  | keep _ link _ => cases missing.symm.trans link
  | follow dir _ link followed _ ih =>
    -- A link that was followed was not the end of the walk, so that it is followed again.
    refine .follow (ext.entry dir) (allowed _) (ext.entry link) ?_ ?_
    · rintro ⟨atEnd, -⟩
      exact followed ⟨(List.append_eq_nil_iff.1 atEnd).1, rfl⟩
    · rw [List.append_eq, ← List.append_assoc]
      exact ih missing stands onward
  | down dir _ there other _ ih =>
    exact .down (ext.entry dir) (allowed _) (ext.entry there) other (ih missing stands onward)

/-- The path under which a file has been made leads to it. -/
theorem find_of_createFile (h : fs.createFile path = .ok made) :
    ∃ name parent, fs.IsPlace (name :: parent) ∧ fs.entry? (name :: parent) = none ∧
      made = fs.addFile parent name ⟨[], false⟩ ∧
      ∀ last, last ≠ .write → made.find path last = .ok (name :: parent, .file fs.files.size) := by
  obtain ⟨name, parent, located, vacant, rfl⟩ := createFile_eq_ok_iff.1 h
  obtain ⟨checked, leads⟩ := locate_eq_ok_iff.1 located
  have place := isPlace_of_locate located
  have stands : entry? (fs.addFile parent name ⟨[], false⟩) (name :: parent) =
      some (.file fs.files.size) := by
    rw [entry?_addFile place vacant, if_pos rfl]
  refine ⟨name, parent, place, vacant, rfl, fun last reads => ?_⟩
  have again := leads.through_made extends_addFile vacant stands (by simp) reads fun _ => .done
  rw [List.append_nil] at again
  exact find_eq_ok_iff.2 ⟨locate_eq_ok_iff.2 ⟨checked, again⟩, stands⟩

/-- The path under which a directory has been made leads to it, whatever slashes are at its end. -/
theorem find_of_makeDirectory (h : fs.makeDirectory path = .ok made) :
    ∃ name parent, fs.IsPlace (name :: parent) ∧ fs.entry? (name :: parent) = none ∧
      made = fs.add parent name .directory ∧
      ∀ last, last ≠ .write → made.find path last = .ok (name :: parent, .directory) := by
  obtain ⟨name, parent, checked, leads, vacant, rfl⟩ := makeDirectory_eq_ok_iff.1 h
  have place := leads.isPlace trivial
  have stands : entry? (fs.add parent name .directory) (name :: parent) = some .directory := by
    rw [entry?_add place vacant _ (by simp [Entry.file?]), if_pos rfl]
  -- The steps that were not walked are the slashes at the end; they stay in the new directory.
  have slashes : ∀ step ∈ path.steps.rtakeWhile (· = .empty), step.moves = false := by
    intro step mem
    have empty : step = .empty := by simpa using List.mem_rtakeWhile_imp mem
    rw [empty]
    rfl
  refine ⟨name, parent, place, vacant, rfl, fun last reads => ?_⟩
  have again : (fs.add parent name .directory).Leads last maxLinks []
      (path.steps.rdropWhile (· = .empty) ++ path.steps.rtakeWhile (· = .empty))
      (name :: parent) := by
    refine leads.through_made extends_add vacant stands (by simp) reads fun _ => ?_
    simpa using Leads.stay_all stands slashes .done
  rw [List.rdropWhile_append_rtakeWhile] at again
  exact find_eq_ok_iff.2 ⟨locate_eq_ok_iff.2 ⟨checked, again⟩, stands⟩

/-! ## Taking it away again -/

/-- A new entry holds no others, as nothing has been there for them to be in. -/
theorem names_of_added (vacant : fs.entry? (name :: parent) = none)
    (added : ∀ other, made.entry? other =
      if other = name :: parent then some found else fs.entry? other) :
    made.names (name :: parent) = [] := by
  rw [names_eq_nil_iff]
  intro inner
  rw [added, if_neg (List.cons_ne_self inner _)]
  by_contra held
  obtain ⟨other, inside⟩ := Option.ne_none_iff_exists'.1 held
  cases vacant.symm.trans (entry?_parent inside)

/-- Without the new entry everything stands as before. -/
theorem entry?_erase_of_added (vacant : fs.entry? (name :: parent) = none)
    (added : ∀ other, made.entry? other =
      if other = name :: parent then some found else fs.entry? other) (loc : Location) :
    entry? (made.erase (name :: parent)) loc = fs.entry? loc := by
  rw [entry?_erase (names_of_added vacant added) (List.cons_ne_nil name parent), added]
  by_cases here : loc = name :: parent
  · rw [if_pos here, here, vacant]
  · rw [if_neg here, if_neg here]

/-- A file that has been made is taken away by a removal under the same path. What is left of it is a
file that no entry names. -/
theorem removeFile_of_createFile (h : fs.createFile path = .ok made) :
    made.removeFile path = .ok (fs.allot ⟨[], false⟩) := by
  obtain ⟨name, parent, place, vacant, rfl, there⟩ := find_of_createFile h
  have left : erase (fs.addFile parent name ⟨[], false⟩) (name :: parent) =
      fs.allot ⟨[], false⟩ := by
    refine eq_of_entry? ?_ (entry?_erase_of_added vacant (entry?_addFile place vacant _))
    rw [files_erase, addFile, files_add]
  simp only [removeFile, there .keep (by simp), bind, Except.bind, left]

/-- A directory that has been made is empty, and a removal under the same path takes it away. -/
theorem removeDirectory_of_makeDirectory (h : fs.makeDirectory path = .ok made) :
    made.isEmptyDirectory path = .ok true ∧ made.removeDirectory path = .ok fs := by
  obtain ⟨name, parent, place, vacant, rfl, there⟩ := find_of_makeDirectory h
  have added := entry?_add place vacant .directory (by simp [Entry.file?])
  have holdsNone := names_of_added vacant added
  have left : erase (fs.add parent name .directory) (name :: parent) = fs := by
    refine eq_of_entry? ?_ (entry?_erase_of_added vacant added)
    rw [files_erase, files_add]
  constructor
  · rw [isEmptyDirectory, list_eq_ok_iff.2 ⟨_, there .follow (by simp), holdsNone⟩]
    rfl
  · simp only [removeDirectory, there .keep (by simp), bind, Except.bind, if_pos holdsNone, left]

/-! ## Where nothing can be made -/

/-- A path that leads to what has not been there before has led to nothing. -/
theorem find_ne_ok_of_made (ext : fs.Extends made)
    (there : made.find path last = .ok (loc, found)) (vacant : fs.entry? loc = none)
    (result : Location × Entry) : fs.find path last ≠ .ok result := by
  rintro before
  cases there.symm.trans (ext.find before)
  cases vacant.symm.trans (find_eq_ok_iff.1 before).2

/-- Where a directory has been made, none has been before. -/
theorem isDirectory_of_makeDirectory (h : fs.makeDirectory path = .ok made) :
    fs.isDirectory path = false := by
  obtain ⟨name, parent, -, vacant, -, there⟩ := find_of_makeDirectory h
  by_contra dir
  obtain ⟨loc, before⟩ := isDirectory_eq_true_iff.1 (eq_true_of_ne_false dir)
  exact find_ne_ok_of_made (extends_makeDirectory h) (there .follow (by simp)) vacant _ before

/-- If the path of a directory begins with the steps of another one, this leads to a directory too. -/
theorem isDirectory_of_startsWith (dir : fs.isDirectory current = true)
    (begins : current.startsWith path = true) (checked : checkPath path = .ok ()) :
    fs.isDirectory path = true := by
  obtain ⟨-, dest, leads, there⟩ := isDirectory_eq_true_iff_leads.1 dir
  obtain ⟨-, isPrefix⟩ := Bool.and_eq_true_iff.1 begins
  obtain ⟨more, moves⟩ := List.isPrefixOf_iff_prefix.1 isPrefix
  -- The way to the directory goes along the path and then along the moves that are left.
  have moving : more.filter Step.moves = more := by
    rw [List.filter_eq_self]
    intro step mem
    have isMove : step ∈ current.steps.filter Step.moves := moves ▸ List.mem_append_right _ mem
    exact (List.mem_filter.1 isMove).2
  have along : fs.Leads .follow maxLinks [] (path.steps ++ more) dest := by
    refine leads.of_moves_eq there ?_
    rw [List.filter_append, moving, moves]
  obtain ⟨mid, used, left, shared, begun, onward⟩ := along.split
  refine isDirectory_eq_true_iff_leads.2 ⟨checked, mid, begun.mono (Nat.le.intro shared), ?_⟩
  cases more with
  | nil =>
    cases onward
    exact there
  | cons step more => exact onward.directory_of_cons

/-! ## The same tree -/

/-- The same stands everywhere in both file systems, and the same can be seen of it. -/
structure SameTree (fs later : FileSystem) : Prop where
  /-- The same stands at every location. -/
  entry : ∀ loc, later.entry? loc = fs.entry? loc
  /-- The same is seen at every location, contents and permissions of files included. -/
  sight : ∀ loc, later.sight? loc = fs.sight? loc

theorem SameTree.refl (fs : FileSystem) : fs.SameTree fs :=
  ⟨fun _ => rfl, fun _ => rfl⟩

/-- A file that no entry names makes no difference. -/
theorem sameTree_allot (fs : FileSystem) (file : File) : fs.SameTree (fs.allot file) where
  entry _ := rfl
  sight loc := by
    refine sight?_congr rfl fun id stands => ?_
    have other : id ≠ fs.files.size := Nat.ne_of_lt (lt_size_of_entry stands)
    simp [FileSystem.file, allot, Array.getD_eq_getD_getElem?, Array.getElem?_push, other]

end LineShell.FileSystem
