import LineShell.FileSystem.Calls
import LineShell.Proofs.FileSystem.Operations

/-!
# Copying a file

A file is copied by several calls, and each of them could be refused. All the same the copy is like
one call (`Calls.copyFile_eq_change`): it is carried out as a whole, as `FileSystem.copyFile` says, or
the files stay as they are. This rests on the order of the calls. Those that can be refused open the
source and the destination, and the source is opened before the destination is touched; once both are
open, neither the permission nor the bytes are refused (`run_fill`).

What the copy can have done is read off in `exists_of_copyFile`, and `copyFile_vacant`,
`copyFile_file` and `copyFile_nullDevice` say what it does where the path of the destination spells a
location.
-/

namespace LineShell

namespace FileSystem

open LineShell.Path (ofLocation)

variable {fs later : FileSystem} {loc dest parent : Location} {name : Name} {source target : Path}
  {id : FileId} {size : Nat}

/-! ## Overwriting a file -/

/-- Gives a file the contents and the permission of another, and counts the bytes copied. The
contents of the destination are dropped before those of the source are read: a file that is copied
to itself ends up empty. -/
def overwrite (fs : FileSystem) (source destination : FileId) : FileSystem × Nat :=
  let executable := (fs.file source).executable
  let cleared := fs.setFile destination ⟨[], executable⟩
  let data := (cleared.file source).data
  (cleared.setFile destination ⟨data, executable⟩, data.length)

@[simp]
theorem entry?_overwrite {source destination : FileId} :
    entry? (fs.overwrite source destination).1 loc = fs.entry? loc :=
  rfl

@[simp]
theorem size_overwrite {source destination : FileId} :
    (fs.overwrite source destination).1.files.size = fs.files.size := by
  simp [overwrite]

/-- The bytes that a copy of one file over another puts there: nothing if they are one file, for
then they are dropped before they are read. -/
def overwritingBytes (fs : FileSystem) (source destination : FileId) : Bytes :=
  if source = destination then [] else (fs.file source).data

/-- What a file holds once the destination has been cleared. -/
theorem data_cleared {destination : FileId} (h : destination < fs.files.size) (source : FileId)
    (executable : Bool) :
    ((fs.setFile destination ⟨[], executable⟩).file source).data =
      fs.overwritingBytes source destination := by
  rw [file_setFile h, overwritingBytes]
  split <;> rfl

theorem setFile_setFile {first second : File} :
    (fs.setFile id first).setFile id second = fs.setFile id second := by
  simp [setFile]

/-- Overwriting a file is one write. -/
theorem overwrite_eq {destination : FileId} (h : destination < fs.files.size) (source : FileId) :
    fs.overwrite source destination =
      (fs.setFile destination
        ⟨fs.overwritingBytes source destination, (fs.file source).executable⟩,
        (fs.overwritingBytes source destination).length) := by
  simp only [overwrite, data_cleared h, setFile_setFile]

/-- Overwriting a file changes no other file. -/
theorem file_overwrite {destination : FileId} (h : destination < fs.files.size)
    (source other : FileId) :
    (fs.overwrite source destination).1.file other =
      if other = destination then
        ⟨fs.overwritingBytes source destination, (fs.file source).executable⟩
      else fs.file other := by
  rw [overwrite_eq h]
  exact file_setFile h other

theorem extends_overwrite {source destination : FileId} :
    fs.Extends (fs.overwrite source destination).1 :=
  ⟨fun h => h, by simp⟩

/-! ## The copy as one step -/

/-- Copies a file, contents and permission, and counts the bytes. What the destination leads to is
overwritten; where nothing stands a file is made. -/
def copyFile (fs : FileSystem) (source destination : Path) : Except Fault (FileSystem × Nat) := do
  match ← fs.find source .follow with
  | (_, .file id) =>
    let loc ← fs.locate destination .write
    match loc, fs.entry? loc with
    | name :: parent, none =>
      .ok (fs.addFile parent name (fs.file id), (fs.file id).data.length)
    | _, some (.file other) => .ok (fs.overwrite id other)
    | _, some .nullDevice => .ok (fs, (fs.file id).data.length)
    | _, _ => .error (.refused .isADirectory)
  | _ => .error .notAFile

/-- A file that has been copied comes from a file that the source leads to. Where the target leads,
a file has been made, or one has been overwritten, or the device has dropped the bytes. -/
theorem exists_of_copyFile (h : fs.copyFile source target = .ok (later, size)) :
    ∃ sourceLoc id dest, fs.find source .follow = .ok (sourceLoc, .file id) ∧
      fs.locate target .write = .ok dest ∧
      ((∃ name parent, dest = name :: parent ∧ fs.entry? dest = none ∧
          later = fs.addFile parent name (fs.file id)) ∨
        (∃ other, fs.entry? dest = some (.file other) ∧ later = (fs.overwrite id other).1) ∨
        (fs.entry? dest = some .nullDevice ∧ later = fs)) := by
  rw [copyFile] at h
  obtain ⟨⟨sourceLoc, entry⟩, found, goesOn⟩ := bind_eq_ok_iff.1 h
  cases entry with
  | directory => cases goesOn
  | link _ => cases goesOn
  | nullDevice => cases goesOn
  | file id =>
    obtain ⟨dest, located, copied⟩ := bind_eq_ok_iff.1 goesOn
    refine ⟨sourceLoc, id, dest, found, located, ?_⟩
    -- What stands at the destination decides what the copy does.
    split at copied
    · rename_i name parent vacant
      exact .inl ⟨name, parent, rfl, vacant, (congrArg Prod.fst (Except.ok.inj copied)).symm⟩
    · rename_i other stands
      exact .inr (.inl ⟨other, stands, (congrArg Prod.fst (Except.ok.inj copied)).symm⟩)
    · rename_i stands
      exact .inr (.inr ⟨stands, (congrArg Prod.fst (Except.ok.inj copied)).symm⟩)
    · cases copied

theorem extends_copyFile (h : fs.copyFile source target = .ok (later, size)) :
    fs.Extends later := by
  obtain ⟨_, id, dest, -, -, ⟨name, parent, -, -, rfl⟩ | ⟨other, -, rfl⟩ | ⟨-, rfl⟩⟩ :=
    exists_of_copyFile h
  · exact extends_addFile
  · exact extends_overwrite
  · exact .refl _

section CopyFile

variable (read : fs.find source .follow = .ok (dest, .file id))

include read

theorem copyFile_vacant (place : fs.IsPlace (name :: parent))
    (checked : checkPath (ofLocation (name :: parent)) = .ok ())
    (vacant : fs.entry? (name :: parent) = none) :
    fs.copyFile source (ofLocation (name :: parent)) =
      .ok (fs.addFile parent name (fs.file id), (fs.file id).data.length) := by
  have located := locate_ofLocation .write place checked (.inr (by simp [vacant]))
  simp only [copyFile, read, located, bind, Except.bind, vacant]

theorem copyFile_file {other : FileId} (checked : checkPath (ofLocation loc) = .ok ())
    (stands : fs.entry? loc = some (.file other)) :
    fs.copyFile source (ofLocation loc) = .ok (fs.overwrite id other) := by
  have located := locate_ofLocation .write (isPlace_of_entry stands) checked
    (.inr (by simp [stands]))
  simp only [copyFile, read, located, bind, Except.bind, stands]

theorem copyFile_nullDevice (checked : checkPath (ofLocation loc) = .ok ())
    (stands : fs.entry? loc = some .nullDevice) :
    fs.copyFile source (ofLocation loc) = .ok (fs, (fs.file id).data.length) := by
  have located := locate_ofLocation .write (isPlace_of_entry stands) checked
    (.inr (by simp [stands]))
  simp only [copyFile, read, located, bind, Except.bind, stands]

end CopyFile

/-! ## The calls of a copy -/

theorem setFile_add {added : Entry} {file : File} :
    (fs.add parent name added).setFile id file = (fs.setFile id file).add parent name added := by
  unfold add
  simp only [entry?_setFile, size_setFile]
  split
  · rfl
  · rfl

/-- A file that has just been made holds what it is given next. -/
theorem setFile_addFile {first second : File} :
    (fs.addFile parent name first).setFile fs.files.size second = fs.addFile parent name second := by
  have last : (fs.allot first).setFile fs.files.size second = fs.allot second := by
    simp [setFile, allot, Array.setIfInBounds, Array.set_push]
  rw [addFile, setFile_add, last, addFile]

end FileSystem

namespace Calls

variable {fs : FileSystem} {disk : Disk} {id source destination : FileId} {executable : Bool}

theorem ok_bind {α β : Type} (a : α) (next : α → Except Fault β) : Except.ok a >>= next = next a :=
  rfl

theorem opened_of_lt (h : id < fs.files.size) : opened fs id = .ok (fs.file id) := by
  simp [opened, FileSystem.file, h]

theorem run_look {α : Type} (ask : FileSystem → Except Fault α) :
    (look ask).run disk =
      match ask disk.files with
      | .ok answer => .ok answer disk
      | .error fault => .error fault disk :=
  rfl

theorem run_change {α : Type} (request : FileSystem → Except Fault (FileSystem × α)) :
    (change request).run disk =
      match request disk.files with
      | .ok (later, answer) => .ok answer ⟨later, true⟩
      | .error fault => .error fault disk :=
  rfl

/-- A file is opened where the path leads, and nothing else is. -/
theorem run_openSource (disk : Disk) (path : Path) :
    (openSource path).run disk =
      match disk.files.find path .follow with
      | .ok (_, .file id) => .ok (id, (disk.files.file id).executable) disk
      | .ok _ => .error .notAFile disk
      | .error fault => .error fault disk := by
  rw [openSource, run_look]
  cases found : disk.files.find path .follow with
  | error fault => rfl
  | ok result =>
    obtain ⟨loc, entry⟩ := result
    cases entry with
    | file id =>
      have there := FileSystem.lt_size_of_entry (FileSystem.find_eq_ok_iff.1 found).2
      simp only [ok_bind, opened_of_lt there]
    | _ => rfl

/-- A file that is opened to be written has no contents. -/
theorem run_openDestination (disk : Disk) (path : Path) (executable : Bool) :
    (openDestination path executable).run disk =
      match disk.files.locate path .write with
      | .error fault => .error fault disk
      | .ok loc =>
        match loc, disk.files.entry? loc with
        | name :: parent, none =>
          .ok (.file disk.files.files.size)
            ⟨disk.files.addFile parent name ⟨[], executable⟩, true⟩
        | _, some (.file id) =>
          .ok (.file id) ⟨disk.files.setFile id ⟨[], (disk.files.file id).executable⟩, true⟩
        | _, some .nullDevice => .ok .nullDevice ⟨disk.files, true⟩
        | _, _ => .error (.refused .isADirectory) disk := by
  rw [openDestination, run_change]
  cases located : disk.files.locate path .write with
  | error fault => rfl
  | ok loc =>
    simp only [ok_bind]
    cases stands : disk.files.entry? loc with
    | none => cases loc <;> rfl
    | some entry =>
      cases entry with
      | file id =>
        have there := FileSystem.lt_size_of_entry stands
        cases loc <;> simp only [opened_of_lt there, ok_bind]
      | _ => cases loc <;> rfl

/-- Once two files are open and one is empty, neither the permission nor the bytes of the other are
refused. -/
theorem run_fill (read : source < disk.files.files.size)
    (written : destination < disk.files.files.size)
    (cleared : (disk.files.file destination).data = []) :
    (do
        setExecutable executable (.file destination)
        transfer source (.file destination)).run disk =
      .ok (disk.files.file source).data.length ⟨disk.files.setFile destination
        ⟨(disk.files.file source).data, executable⟩, true⟩ := by
  -- Also where both are one file, the new permission leaves the contents as they are.
  have same : ((disk.files.setFile destination ⟨[], executable⟩).file source).data =
      (disk.files.file source).data := by
    rw [FileSystem.data_cleared written, FileSystem.overwritingBytes]
    split
    · rename_i own
      rw [own, cleared]
    · rfl
  have itself : (disk.files.setFile destination ⟨[], executable⟩).file destination =
      ⟨[], executable⟩ := by
    rw [FileSystem.file_setFile written, if_pos rfl]
  rw [EStateM.run_bind, setExecutable, update, run_change]
  simp only [opened_of_lt written, cleared, ok_bind, Except.map]
  rw [transfer, run_change]
  simp [opened_of_lt, read, written, same, itself, FileSystem.setFile_setFile, ok_bind]

/-- The copy of a file is like one call: it is carried out as a whole or not at all. -/
theorem copyFile_eq_change (source destination : Path) :
    copyFile source destination = change (·.copyFile source destination) := by
  funext disk
  change (copyFile source destination).run disk = (change _).run disk
  rw [copyFile, EStateM.run_bind, run_openSource, run_change, FileSystem.copyFile]
  cases read : disk.files.find source .follow with
  | error fault => rfl
  | ok found =>
    obtain ⟨loc, entry⟩ := found
    cases entry with
    | file id =>
      have there : id < disk.files.files.size :=
        FileSystem.lt_size_of_entry (FileSystem.find_eq_ok_iff.1 read).2
      simp only [ok_bind]
      rw [EStateM.run_bind, run_openDestination]
      cases located : disk.files.locate destination .write with
      | error fault => rfl
      | ok dest =>
        simp only [ok_bind]
        -- From here on the destination is open, and what is left is not refused.
        cases stands : disk.files.entry? dest with
        | none =>
          cases dest with
          | nil => rfl
          | cons name parent =>
            simp only
            rw [run_fill]
            · simp [FileSystem.setFile_addFile, FileSystem.file_addFile there]
            · simpa using Nat.lt_succ_of_lt there
            · simp
            · simp
        | some entry =>
          cases entry with
          | file other =>
            have taken := FileSystem.lt_size_of_entry stands
            simp only
            rw [run_fill]
            · simp only [FileSystem.data_cleared taken, FileSystem.setFile_setFile,
                FileSystem.overwrite_eq taken]
            · simpa using there
            · simpa using taken
            · simp [FileSystem.file_setFile taken]
          | nullDevice =>
            simp only [setExecutable, EStateM.run_bind, EStateM.run_pure, transfer, run_change,
              opened_of_lt there, ok_bind]
          | _ => cases dest <;> rfl
    | _ => rfl

end Calls

end LineShell
