import LineShell.Proofs.FileSystem.Replay

/-!
# What additions leave as it was

An operation that makes an entry keeps all that was there, contents of files included (`Adds`), and
a copy keeps all entries, though not the contents of files (`extends_copyTree`). Neither of them makes
a link: every link that is found afterwards was there before (`KeepsLinks`).
-/

namespace LineShell.FileSystem

variable {fs mid later : FileSystem} {loc parent : Location} {name : Name} {added : Entry}
  {file : File} {path source target destination : Path} {size : Nat}

/-! ## Nothing but more -/

/-- The later file system keeps every entry of the earlier one and what every file holds. -/
structure Adds (fs later : FileSystem) : Prop extends Extends fs later where
  /-- A file holds what it held. -/
  file : ∀ id, id < fs.files.size → later.file id = fs.file id

theorem Adds.refl (fs : FileSystem) : fs.Adds fs :=
  ⟨.refl fs, fun _ _ => rfl⟩

theorem Adds.trans (first : fs.Adds mid) (second : mid.Adds later) : fs.Adds later where
  toExtends := first.toExtends.trans second.toExtends
  file id inFiles := by
    rw [second.file id (Nat.lt_of_lt_of_le inFiles first.size_le), first.file id inFiles]

theorem adds_makeDirectory (h : fs.makeDirectory path = .ok later) : fs.Adds later := by
  obtain ⟨name, parent, -, -, rfl⟩ := exists_of_makeDirectory h
  exact ⟨extends_add, fun _ _ => file_add⟩

theorem adds_createFile (h : fs.createFile path = .ok later) : fs.Adds later := by
  obtain ⟨name, parent, -, -, rfl⟩ := createFile_eq_ok_iff.1 h
  exact ⟨extends_addFile, fun _ inFiles => file_addFile inFiles⟩

/-! ## No more links -/

/-- Every link of the later file system is one of the earlier one. -/
def KeepsLinks (fs later : FileSystem) : Prop :=
  ∀ loc target, later.entry? loc = some (.link target) → fs.entry? loc = some (.link target)

theorem KeepsLinks.refl (fs : FileSystem) : fs.KeepsLinks fs :=
  fun _ _ h => h

theorem KeepsLinks.trans (first : fs.KeepsLinks mid) (second : mid.KeepsLinks later) :
    fs.KeepsLinks later :=
  fun loc target h => first loc target (second loc target h)

/-- A part of a file system has no other links. -/
theorem keepsLinks_of_extends (part : later.Extends fs) : fs.KeepsLinks later :=
  fun _ _ h => part.entry h

theorem keepsLinks_add (notLink : ∀ target, added ≠ .link target) :
    fs.KeepsLinks (fs.add parent name added) := by
  intro loc target link
  unfold add at link
  split at link
  · have inserted := (Entries.entry?_insert added (List.cons_ne_nil name parent) loc).symm.trans link
    split_ifs at inserted
    · exact absurd (Option.some.inj inserted) (notLink target)
    · exact inserted
  · exact link

theorem keepsLinks_addFile : fs.KeepsLinks (fs.addFile parent name file) := by
  have added : (fs.allot file).KeepsLinks (fs.addFile parent name file) :=
    keepsLinks_add (by simp)
  exact added

theorem keepsLinks_makeDirectory (h : fs.makeDirectory path = .ok later) : fs.KeepsLinks later := by
  obtain ⟨name, parent, -, -, rfl⟩ := exists_of_makeDirectory h
  exact keepsLinks_add (by simp)

theorem keepsLinks_createFile (h : fs.createFile path = .ok later) : fs.KeepsLinks later := by
  obtain ⟨name, parent, -, -, rfl⟩ := createFile_eq_ok_iff.1 h
  exact keepsLinks_addFile

theorem keepsLinks_copyFile (h : fs.copyFile source target = .ok (later, size)) :
    fs.KeepsLinks later := by
  obtain ⟨_, id, dest, -, -, ⟨name, parent, -, -, rfl⟩ | ⟨other, -, rfl⟩ | ⟨-, rfl⟩⟩ :=
    exists_of_copyFile h
  · exact keepsLinks_addFile
  · exact fun _ _ link => link
  · exact .refl _

/-! ## Copies of trees -/

theorem extends_copyTree : fs.Extends (fs.copyTree source destination).files := by
  rw [files_copyTree]
  exact CopyEvent.extends_replay fs _

theorem keepsLinks_apply (fs : FileSystem) (event : CopyEvent) : fs.KeepsLinks (event.apply fs) := by
  cases event with
  | made directory =>
    rw [CopyEvent.apply]
    cases done : fs.makeDirectory directory with
    | error fault => exact .refl fs
    | ok later => exact keepsLinks_makeDirectory done
  | copied source target =>
    rw [CopyEvent.apply]
    cases done : fs.copyFile source target with
    | error fault => exact .refl fs
    | ok result => exact keepsLinks_copyFile done
  | failed source fault => exact .refl fs
  | metFile target => exact .refl fs
  | metDirectory source target => exact .refl fs

theorem keepsLinks_copyTree : fs.KeepsLinks (fs.copyTree source destination).files := by
  rw [files_copyTree]
  generalize (fs.copyTree source destination).events = events
  -- One event after the other, each from the files that those before it have left.
  induction events generalizing fs with
  | nil => exact .refl fs
  | cons event rest ih => exact (keepsLinks_apply fs event).trans ih

end LineShell.FileSystem
