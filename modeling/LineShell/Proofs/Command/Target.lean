import LineShell.Command.Run
import LineShell.Proofs.Command.Work
import LineShell.Proofs.FileSystem.Plain
import LineShell.Proofs.FileSystem.Removal

/-!
# One target

What a command does to one target. For each of them there is one lemma about the work that is done,
which says what has been asked before and what is left, and one about its order: the questions and
guards come first, then the one call that changes the files, and after it nothing can fail
(`allOrNothing_makeDirectory` and the like). So a target that fails is a target to which nothing has
been done, whether the command ends with it (`ofWork_cases`) or goes on to the next one
(`makeDirectories_cases`, `removeDirectories_cases`).
-/

namespace LineShell

namespace Command

open Work

variable {dir : WorkingDirectory} {path : Path} {operand source destination shown : String}
  {now later : Progress}

/-! ## Work that is done -/

theorem run_makeDirectory_eq_ok_iff :
    (makeDirectory dir operand).run now = .ok () later ↔
      ∃ made, (now.files.find (dir.resolve operand) .keep).isOk = false ∧
        now.files.makeDirectory (dir.resolve operand) = .ok made ∧
        later = (now.after (.store made)).after
          (Builtin.mkdir.note .debug s!"mkdir: created {(dir.resolve operand).shown}") := by
  simp [-EStateM.run_bind, makeDirectory, run_bind_eq_ok_iff, run_attempt_look,
    run_ensure_eq_ok_iff, run_require_update_eq_ok_iff, run_perform_eq_ok_iff]

theorem run_removeDirectory_eq_ok_iff :
    (removeDirectory dir path shown).run now = .ok () later ↔
      ∃ loc left, now.files.find path .keep = .ok (loc, .directory) ∧
        dir.current.startsWith path = false ∧ now.files.isEmptyDirectory path = .ok true ∧
        now.files.removeDirectory path = .ok left ∧
        later = (now.after (.store left)).after
          (Builtin.rmdir.note .debug s!"rmdir: removed {path.shown}") := by
  simp [-EStateM.run_bind, removeDirectory, run_bind_eq_ok_iff, run_ensure_eq_ok_iff,
    run_require_look_eq_ok_iff, run_require_update_eq_ok_iff, run_perform_eq_ok_iff]

theorem run_removeFile_eq_ok_iff :
    (removeFile dir operand).run now = .ok () later ↔
      ∃ loc id left, now.files.find (dir.resolve operand) .follow = .ok (loc, .file id) ∧
        now.files.removeFile (dir.resolve operand) = .ok left ∧
        later = (now.after (.store left)).after
          (Builtin.rm.note .debug s!"rm: removed {(dir.resolve operand).shown}") := by
  simp [-EStateM.run_bind, removeFile, run_bind_eq_ok_iff, run_ensure_eq_ok_iff,
    run_require_look_eq_ok_iff, run_require_update_eq_ok_iff, run_perform_eq_ok_iff,
    Option.isSome_iff_exists, Entry.file?_eq_some_iff]

theorem run_copyFile_eq_ok_iff :
    (copyFile dir source destination).run now = .ok () later ↔
      ∃ loc found size left, now.files.find (dir.resolve source) .follow = .ok (loc, found) ∧
        found ≠ .directory ∧ now.files.isDirectory (dir.resolve destination) = false ∧
        now.files.sameFile (dir.resolve source) (dir.resolve destination) = false ∧
        now.files.copyFile (dir.resolve source) (dir.resolve destination) = .ok (left, size) ∧
        later = (now.after (.store left)).after (Builtin.cp.note .debug
          s!"cp: {(dir.resolve source).shown} -> {(dir.resolve destination).shown} ({size} bytes)")
        := by
  simp [-EStateM.run_bind, copyFile, run_bind_eq_ok_iff, run_ensure_eq_ok_iff, run_ask,
    run_require_look_eq_ok_iff, Calls.copyFile_eq_change, run_require_change_eq_ok_iff,
    run_perform_eq_ok_iff]

theorem run_createFile (dir : WorkingDirectory) (operand : String) (now : Progress) :
    (createFile dir operand).run now =
      match now.files.createFile (dir.resolve operand) with
      | .ok made => .ok () ((now.after (.store made)).after
          (Builtin.touch.note .debug s!"touch: created {(dir.resolve operand).shown}"))
      | .error fault =>
        if fault.kind = .alreadyExists then
          .ok () (now.after
            (Builtin.touch.note .trace s!"touch: {(dir.resolve operand).shown} already exists"))
        else .error (.createFile operand (.ofCreatingFile fault)) now := by
  rw [createFile, EStateM.run_bind, Calls.update, run_attempt_change]
  cases now.files.createFile (dir.resolve operand) with
  | ok made => rfl
  | error fault =>
    simp only [Except.map]
    split <;> rfl

theorem run_enterDirectory (dir : WorkingDirectory) (directory : Option String) (now : Progress) :
    (enterDirectory dir directory).run now =
      let refused := directory.elim Failure.enterHome Failure.enter
      match enteredPath? dir directory with
      | none => .error refused now
      | some target =>
        match dir.enter now.files target with
        | .ok entered => .ok () ((now.after (.enter entered)).after
            (Builtin.cd.note .debug s!"cd: now in {entered.current.shown}"))
        | .error _ => .error refused now := by
  rw [enterDirectory, EStateM.run_bind, run_known]
  cases enteredPath? dir directory with
  | none => rfl
  | some target =>
    simp only [EStateM.run_bind, run_require_look]
    cases dir.enter now.files target <;> rfl

/-! ## The order of the steps -/

theorem allOrNothing_makeDirectory (dir : WorkingDirectory) (operand : String) :
    AllOrNothing (makeDirectory dir operand) :=
  (keepsProgress_attempt_look _).bind fun _ =>
  (keepsProgress_ensure _ _).bind fun _ =>
  (allOrNothing_require_update _ _).bind fun _ =>
  neverFails_perform _

theorem allOrNothing_removeDirectory (dir : WorkingDirectory) (path : Path) (shown : String) :
    AllOrNothing (removeDirectory dir path shown) :=
  (keepsProgress_require_look _ _).bind fun _ =>
  (keepsProgress_ensure _ _).bind fun _ =>
  (keepsProgress_ensure _ _).bind fun _ =>
  (keepsProgress_require_look _ _).bind fun _ =>
  (keepsProgress_ensure _ _).bind fun _ =>
  (allOrNothing_require_update _ _).bind fun _ =>
  neverFails_perform _

theorem allOrNothing_removeFile (dir : WorkingDirectory) (operand : String) :
    AllOrNothing (removeFile dir operand) :=
  (keepsProgress_require_look _ _).bind fun _ =>
  (keepsProgress_ensure _ _).bind fun _ =>
  (allOrNothing_require_update _ _).bind fun _ =>
  neverFails_perform _

theorem allOrNothing_copyFile (dir : WorkingDirectory) (source destination : String) :
    AllOrNothing (copyFile dir source destination) :=
  -- Six steps ask and refuse; the copy itself is the first to change anything.
  (keepsProgress_require_look _ _).bind fun _ =>
  (keepsProgress_ensure _ _).bind fun _ =>
  (keepsProgress_ask _).bind fun _ =>
  (keepsProgress_ensure _ _).bind fun _ =>
  (keepsProgress_ask _).bind fun _ =>
  (keepsProgress_ensure _ _).bind fun _ =>
  (allOrNothing_require_copyFile _ _ _).bind fun _ =>
  neverFails_perform _

/-- Whether the fault is taken for success or not, a file that is not made changes nothing. -/
theorem allOrNothing_createFile (dir : WorkingDirectory) (operand : String) :
    AllOrNothing (createFile dir operand) := by
  intro now failure later failed
  -- The step after the call may fail, so the rules for the order do not apply. It fails only where
  -- the call has been refused.
  rw [run_createFile] at failed
  cases made : now.files.createFile (dir.resolve operand) with
  | ok files => simp [made] at failed
  | error fault =>
    simp only [made] at failed
    split at failed
    · cases failed
    · cases failed
      rfl

theorem allOrNothing_enterDirectory (dir : WorkingDirectory) (directory : Option String) :
    AllOrNothing (enterDirectory dir directory) :=
  (keepsProgress_known _ _).bind fun _ =>
  (keepsProgress_require_look _ _).bind fun _ =>
  ((neverFails_perform _).bind fun _ => neverFails_perform _).allOrNothing

/-! ## Failures -/

theorem failsWith_makeDirectory (dir : WorkingDirectory) (operand : String) :
    FailsWith (∃ why, · = .makeDirectory operand why) (makeDirectory dir operand) :=
  (neverFails_attempt _).failsWith.bind fun _ =>
  (failsWith_ensure ⟨_, rfl⟩).bind fun _ =>
  (failsWith_require_update fun _ => ⟨_, rfl⟩).bind fun _ =>
  (neverFails_perform _).failsWith

theorem failsWith_removeDirectory (dir : WorkingDirectory) (path : Path) (shown : String) :
    FailsWith (∃ why, · = .removeDirectory shown why) (removeDirectory dir path shown) :=
  (failsWith_require_look fun _ => ⟨_, rfl⟩).bind fun _ =>
  (failsWith_ensure ⟨_, rfl⟩).bind fun _ =>
  (failsWith_ensure ⟨_, rfl⟩).bind fun _ =>
  (failsWith_require_look fun _ => ⟨_, rfl⟩).bind fun _ =>
  (failsWith_ensure ⟨_, rfl⟩).bind fun _ =>
  (failsWith_require_update fun _ => ⟨_, rfl⟩).bind fun _ =>
  (neverFails_perform _).failsWith

/-! ## Targets that fail -/

theorem ofWork_of_ok {work : Work Unit} {fs : FileSystem}
    (ran : work.run ⟨fs, []⟩ = .ok () later) : Run.ofWork work fs = .done later.effects := by
  rw [Run.ofWork, ran]

/-- A command that does work to one target has done all of it, or it fails with nothing done. -/
theorem ofWork_cases {work : Work Unit} (all : AllOrNothing work) (fs : FileSystem) :
    (∃ later, work.run ⟨fs, []⟩ = .ok () later ∧ Run.ofWork work fs = .done later.effects) ∨
      ∃ failure, work.run ⟨fs, []⟩ = .error failure ⟨fs, []⟩ ∧
        Run.ofWork work fs = .fail failure := by
  cases ran : work.run ⟨fs, []⟩ with
  | ok _ later => exact .inl ⟨later, rfl, ofWork_of_ok ran⟩
  | error failure later =>
    obtain rfl := all _ _ _ ran
    exact .inr ⟨failure, rfl, by rw [Run.ofWork, ran]; rfl⟩

/-- Among several targets, one that fails leaves the files to the next one as they are. -/
theorem forEach_cases {α : Type} {work : α → Work Unit} (all : ∀ target, AllOrNothing (work target))
    (fs : FileSystem) (target : α) :
    (∃ later, (work target).run ⟨fs, []⟩ = .ok () later ∧
      ∀ rest, forEach work fs (target :: rest) = later.effects ++ forEach work later.files rest) ∨
      ∃ failure, (work target).run ⟨fs, []⟩ = .error failure ⟨fs, []⟩ ∧
        ∀ rest, forEach work fs (target :: rest) = failure.reported :: forEach work fs rest := by
  cases ran : (work target).run ⟨fs, []⟩ with
  | ok _ later => exact .inl ⟨later, rfl, fun rest => by rw [forEach, ran]⟩
  | error failure later =>
    -- Nothing has been done to the target, so the next one finds the files as this one did.
    obtain rfl := all target _ _ _ ran
    exact .inr ⟨failure, rfl, fun rest => by rw [forEach, ran]; rfl⟩

theorem makeDirectories_cases (dir : WorkingDirectory) (fs : FileSystem) (operand : String) :
    (∃ made line, fs.makeDirectory (dir.resolve operand) = .ok made ∧
      ∀ rest, makeDirectories dir fs (operand :: rest) =
        .store made :: .note line :: makeDirectories dir made rest) ∨
      ∃ why, ∀ rest, makeDirectories dir fs (operand :: rest) =
        (Failure.makeDirectory operand why).reported :: makeDirectories dir fs rest := by
  obtain ⟨later, ran, onward⟩ | ⟨failure, ran, onward⟩ :=
    forEach_cases (allOrNothing_makeDirectory dir) fs operand
  · obtain ⟨made, -, done, rfl⟩ := run_makeDirectory_eq_ok_iff.1 ran
    exact .inl ⟨made, _, done, onward⟩
  · obtain ⟨why, rfl⟩ := failsWith_makeDirectory dir operand _ _ _ ran
    exact .inr ⟨why, onward⟩

theorem removeDirectories_cases (dir : WorkingDirectory) (fs : FileSystem) (name : Name) :
    (∃ loc line, fs.find (dir.current.entry name) .keep = .ok (loc, .directory) ∧ loc ≠ [] ∧
      fs.names loc = [] ∧ ∀ rest, removeDirectories dir fs (name :: rest) =
        .store (fs.erase loc) :: .note line :: removeDirectories dir (fs.erase loc) rest) ∨
      ∃ why, ∀ rest, removeDirectories dir fs (name :: rest) =
        (Failure.removeDirectory (Text.decodeShown name) why).reported ::
          removeDirectories dir fs rest := by
  obtain ⟨later, ran, onward⟩ | ⟨failure, ran, onward⟩ :=
    forEach_cases (fun name => allOrNothing_removeDirectory dir (dir.current.entry name)
      (Text.decodeShown name)) fs name
  · obtain ⟨_, left, -, -, -, done, rfl⟩ := run_removeDirectory_eq_ok_iff.1 ran
    obtain ⟨loc, named, below, holdsNone, rfl⟩ := FileSystem.exists_of_removeDirectory done
    exact .inl ⟨loc, _, named, below, holdsNone, onward⟩
  · obtain ⟨why, rfl⟩ := failsWith_removeDirectory dir _ _ _ _ _ ran
    exact .inr ⟨why, onward⟩

end Command

end LineShell
