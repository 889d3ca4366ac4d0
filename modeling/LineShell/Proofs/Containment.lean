import LineShell.Proofs.Line

/-!
# How far commands reach

Bounds on what can have changed, whatever the files are, whether the command fails or not and
however much of its output is taken:

- `contained_afterLine`: a line changes the working directory only by `cd`, and the files only by
  commands on files, each within bounds of its own (`Command.MayLeave`);
- `call_all_or_nothing`: a command with one target does its work without a word, or fails and leaves
  everything as it was.
-/

namespace LineShell

namespace Command

/-- What a command may leave of the files, in the given directory. -/
def MayLeave (dir : WorkingDirectory) (before after : FileSystem) : Command → Prop
  -- Everything that was there is still there, and the files hold what they held.
  | mkdir _ | touch _ => before.Adds after
  -- Nothing is missing but an empty directory: the one that is named, ...
  | rmdir directory =>
    before.Sheds (fun loc => before.find (dir.resolve directory) .keep = .ok (loc, .directory)) after
  -- ... or some in the working directory.
  | rmdirAll =>
    before.Sheds (fun loc => ∃ name here,
      before.find dir.current .follow = .ok (here, .directory) ∧ loc = name :: here) after
  -- The named entry may be missing, if it is none of a directory, and nothing else is.
  | rm file =>
    after = before ∨ ∃ loc found,
      before.find (dir.resolve file) .keep = .ok (loc, found) ∧ found ≠ .directory ∧
        after.files = before.files ∧
        ∀ other, after.entry? other = if other = loc then none else before.entry? other
  -- All entries are as they were; contents may have changed.
  | cp _ _ _ => before.Extends after
  | cat _ | cd _ | echo _ | exit | help | history | ls _ | pwd => after = before

variable {command : Command} {fs later : FileSystem} {dir : WorkingDirectory}

theorem mayLeave_refl (command : Command) (dir : WorkingDirectory) (fs : FileSystem) :
    command.MayLeave dir fs fs := by
  cases command with
  | mkdir directories => exact .refl fs
  | touch file => exact .refl fs
  | rmdir directory => exact .refl _ fs
  | rmdirAll => exact .refl _ fs
  | rm file => exact .inl rfl
  | cp recursive source destination => exact .refl fs
  | _ => exact rfl

theorem Does.mayLeave (h : command.Does fs dir (.store later)) : command.MayLeave dir fs later := by
  cases h with
  | makeDirectories adds links => exact adds
  | createFile adds links => exact adds
  | removeFile named notDir led =>
    have stands := (FileSystem.find_eq_ok_iff.1 named).2
    have holdsNone := FileSystem.names_eq_nil_of_entry stands notDir
    have below := FileSystem.ne_nil_of_entry stands notDir
    exact .inr ⟨_, _, named, notDir, FileSystem.files_erase,
      FileSystem.entry?_erase holdsNone below⟩
  | removeDirectory named apart holdsNone below =>
    exact FileSystem.sheds_erase named (FileSystem.find_eq_ok_iff.1 named).2 holdsNone below
  | removeEvery here sheds =>
    exact sheds.mono fun loc ⟨name, same⟩ => ⟨name, _, here, same⟩
  | copy keeps links => exact keeps

end Command

/-- How far a line may reach from one session to another. -/
structure Contained (line : Line) (before after : Session) : Prop where
  /-- A line that calls no command, or one with operands that do not fit, changes nothing. -/
  refused : acceptedCall? line.text = none → after = before
  /-- The working directory is changed by `cd` only. -/
  dir : ∀ invocation command, acceptedCall? line.text = some (invocation, command) →
    after.dir ≠ before.dir → ∃ directory, command = .cd directory
  /-- The files are what the command may leave of them. -/
  files : ∀ invocation command, acceptedCall? line.text = some (invocation, command) →
    command.MayLeave before.dir before.files after.files

namespace Session

/-- No line reaches further than its command may. -/
theorem contained_afterLine (session : Session) (line : Line) :
    Contained line session (session.afterLine line) where
  refused := afterLine_of_refused
  dir invocation command accepted := by
    refine dir_afterLine (P := fun later => later ≠ session.dir → ∃ directory, command = .cd directory)
      accepted (absurd rfl) fun later does _ => ?_
    cases does with
    | enter there => exact ⟨_, rfl⟩
  files invocation command accepted := by
    refine files_afterLine (P := fun later => command.MayLeave session.dir session.files later)
      accepted (command.mayLeave_refl session.dir session.files) fun later does => ?_
    exact does.mayLeave

/-! ## One target -/

variable {session : Session} {invocation : Invocation} {command : Command}

theorem call_of_command (asked : Session.command invocation = .ok command) :
    session.call invocation =
      ((command.run session).effects, (command.run session).result.mapError .failed) := by
  rw [call, asked]

/-- A command with one target that fails leaves the session as it was, and one that does its work
writes nothing, not even if it could not. -/
theorem call_all_or_nothing (session : Session) (invocation : Invocation) (command : Command)
    (palette : Palette) (sink : Sink) (asked : Session.command invocation = .ok command)
    (single : command.hasOneTarget = true) :
    let run := session.call invocation
    let later := deliver palette sink session run.1
    (∀ failure, run.2 = .error (.failed failure) → later.session = session) ∧
      (∀ flow, run.2 = .ok flow → later.written = [] ∧ later.fault = none) := by
  rw [call_of_command asked]
  constructor
  · intro failure failed
    have why : (command.run session).result = .error failure := by
      cases result : (command.run session).result with
      | ok flow => simp [result, Except.mapError] at failed
      | error other => simpa [result, Except.mapError] using failed
    -- A failure comes with no effects, so there is nothing that a sink could cut short.
    have nothing := Command.effects_eq_nil_of_error single why
    simp only [nothing]
    rfl
  · intro flow _
    refine written_deliver fun text mem => ?_
    cases Command.does_of_mem_run mem with
    | write _ several =>
      rw [single] at several
      cases several

/-- Two files `a` and `b`. -/
def twoFiles : Session where
  files := (FileSystem.empty.addFile [] (Text.encode "a") ⟨Text.encode "new", false⟩).addFile []
    (Text.encode "b") ⟨Text.encode "old", false⟩
  dir := ⟨.ofString "/", none⟩
  history := {}

/-- A copy over a file writes nothing, and one to a place below a file, which fails when the source
is open already, changes nothing. -/
theorem call_all_or_nothing_twoFiles :
    (Session.command ⟨"cp", ["a", "b"]⟩ = .ok (.cp false "a" "b") ∧
      let later := deliver .plain .unlimited twoFiles (twoFiles.call ⟨"cp", ["a", "b"]⟩).1
      later.session.files.read (.ofString "/b") = .ok (Text.encode "new") ∧
        later.written = [] ∧ later.fault = none) ∧
    (Session.command ⟨"cp", ["a", "b/c"]⟩ = .ok (.cp false "a" "b/c") ∧
      (twoFiles.call ⟨"cp", ["a", "b/c"]⟩).2 = .error (.failed (.copy "a" .notADirectory)) ∧
      (deliver .plain .unlimited twoFiles (twoFiles.call ⟨"cp", ["a", "b/c"]⟩).1).session =
        twoFiles) := by
  have asked : Session.command ⟨"cp", ["a", "b"]⟩ = .ok (.cp false "a" "b") := by decide +kernel
  have refusedAsked : Session.command ⟨"cp", ["a", "b/c"]⟩ = .ok (.cp false "a" "b/c") := by
    decide +kernel
  have done : (twoFiles.call ⟨"cp", ["a", "b"]⟩).2 = .ok .next := by decide +kernel
  have failed : (twoFiles.call ⟨"cp", ["a", "b/c"]⟩).2 =
      .error (.failed (.copy "a" .notADirectory)) := by
    decide +kernel
  have read : (deliver .plain .unlimited twoFiles
      (twoFiles.call ⟨"cp", ["a", "b"]⟩).1).session.files.read (.ofString "/b") =
        .ok (Text.encode "new") := by
    decide +kernel
  have copies := call_all_or_nothing twoFiles ⟨"cp", ["a", "b"]⟩ _ .plain .unlimited asked rfl
  have refuses :=
    call_all_or_nothing twoFiles ⟨"cp", ["a", "b/c"]⟩ _ .plain .unlimited refusedAsked rfl
  exact ⟨⟨asked, read, copies.2 _ done⟩, refusedAsked, failed, refuses.1 _ failed⟩

end Session

end LineShell
