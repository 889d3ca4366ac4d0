import LineShell.Proofs.Command.Target
import LineShell.Proofs.FileSystem.Growth
import LineShell.Proofs.FileSystem.Removal
import LineShell.Proofs.Session

/-!
# What commands can do

`Does` has one rule for each kind of effect that a command can have in a session, and every effect of
a command obeys one of them (`does_of_mem_run`): which commands store files at all, and what they can
have done to those that were there; that only `cd` enters a directory, one that is there; and that no
command adds to the history. What a line can change is read off these rules, with no further look at
what the commands do.

The commands with one target (`hasOneTarget`) write nothing, and one of them that fails has no effects
at all (`effects_eq_nil_of_error`).
-/

namespace LineShell

namespace Command

/-- Whether a command has one target, to which it does all of its work or nothing. -/
def hasOneTarget : Command → Bool
  | cd _ | touch _ | rm _ | rmdir _ | cp false _ _ => true
  | _ => false

/-- The effects that a command can have among the given files and in the given directory. -/
inductive Does (fs : FileSystem) (dir : WorkingDirectory) : Command → Effect → Prop
  /-- Every command can tell the log. -/
  | note (command : Command) (line : LogLine) : Does fs dir command (.note line)
  /-- A command can write if it has not one target only. -/
  | write {command : Command} (text : Segment) (several : command.hasOneTarget = false) :
      Does fs dir command (.write text)
  /-- A directory that is entered is there. -/
  | enter {directory : Option String} {path : Path}
      (there : fs.isDirectory (dir.current.join path).normalize = true) :
      Does fs dir (.cd directory) (.enter { dir with current := (dir.current.join path).normalize })
  /-- Directories are made. -/
  | makeDirectories {directories : List String} {later : FileSystem} (adds : fs.Adds later)
      (links : fs.KeepsLinks later) : Does fs dir (.mkdir directories) (.store later)
  /-- A file is made. -/
  | createFile {file : String} {later : FileSystem} (adds : fs.Adds later)
      (links : fs.KeepsLinks later) : Does fs dir (.touch file) (.store later)
  /-- The entry of a file, or of a link to one, is removed. -/
  | removeFile {file : String} {loc dest : Location} {found : Entry} {id : FileId}
      (named : fs.find (dir.resolve file) .keep = .ok (loc, found)) (notDir : found ≠ .directory)
      (led : fs.find (dir.resolve file) .follow = .ok (dest, .file id)) :
      Does fs dir (.rm file) (.store (fs.erase loc))
  /-- An empty directory is removed that is none of those which the working directory's path
  names. -/
  | removeDirectory {directory : String} {loc : Location}
      (named : fs.find (dir.resolve directory) .keep = .ok (loc, .directory))
      (apart : dir.current.startsWith (dir.resolve directory) = false)
      (holdsNone : fs.names loc = []) (below : loc ≠ []) :
      Does fs dir (.rmdir directory) (.store (fs.erase loc))
  /-- Empty directories in the working directory are removed. -/
  | removeEvery {loc : Location} {later : FileSystem}
      (here : fs.find dir.current .follow = .ok (loc, .directory))
      (sheds : fs.Sheds (fun other => ∃ name, other = name :: loc) later) :
      Does fs dir .rmdirAll (.store later)
  /-- A file or a tree is copied. -/
  | copy {recursive : Bool} {source destination : String} {later : FileSystem}
      (keeps : fs.Extends later) (links : fs.KeepsLinks later) :
      Does fs dir (.cp recursive source destination) (.store later)

variable {session : Session} {fs later : FileSystem} {dir : WorkingDirectory} {loc : Location}
  {path : Path} {operand source destination : String} {shown : String} {effect : Effect}
  {effects : List Effect}

/-! ## One target -/

theorem exists_of_enter {entered : WorkingDirectory} (h : dir.enter fs path = .ok entered) :
    fs.isDirectory (dir.current.join path).normalize = true ∧
      entered = { dir with current := (dir.current.join path).normalize } := by
  unfold WorkingDirectory.enter at h
  simp only at h
  split at h
  · rename_i there
    exact ⟨there, (Except.ok.inj h).symm⟩
  · cases h

theorem exists_of_enterDirectory {directory : Option String} {now later : Progress}
    (h : (enterDirectory dir directory).run now = .ok () later) :
    ∃ path line, now.files.isDirectory (dir.current.join path).normalize = true ∧
      later = (now.after (.enter { dir with current := (dir.current.join path).normalize })).after
        (.note line) := by
  rw [run_enterDirectory] at h
  simp only at h
  split at h
  · cases h
  · split at h
    · rename_i entered done
      obtain ⟨there, rfl⟩ := exists_of_enter done
      cases h
      exact ⟨_, _, there, rfl⟩
    · cases h

/-- A command that does something tells the log of it. -/
theorem Does.of_mem_told {command : Command} {change : Effect} {line : LogLine}
    (does : command.Does fs dir change) (h : effect ∈ [change, .note line]) :
    command.Does fs dir effect := by
  rcases List.mem_pair.1 h with rfl | rfl
  · exact does
  · exact .note command line

/-! ## Several targets -/

/-- A file that is printed shows its contents and ends its line, and one that cannot be read is
reported. -/
theorem printFile_cases (session : Session) (operand : String) :
    (∃ contents, session.files.read (session.dir.resolve operand) = .ok contents ∧
      printFile session operand =
        [.write (.plain contents), .write (.plain (Text.encode "\n"))]) ∨
    ∃ fault, session.files.read (session.dir.resolve operand) = .error fault ∧
      printFile session operand = [(Failure.read operand (.ofReading fault)).reported] := by
  unfold printFile
  cases done : session.files.read (session.dir.resolve operand) with
  | ok contents => exact .inl ⟨contents, rfl, rfl⟩
  | error fault => exact .inr ⟨fault, rfl, rfl⟩

theorem exists_of_listDirectory {reversed : Bool}
    (h : listDirectory session reversed = .ok effects) :
    ∃ shown : List String, effects = shown.map fun name => .write (.line name) := by
  unfold listDirectory at h
  simp only at h
  split at h
  · exact ⟨_, (Except.ok.inj h).symm⟩
  · cases h

theorem does_of_mem_makeDirectories {start : FileSystem} {directories operands : List String}
    (adds : start.Adds fs) (links : start.KeepsLinks fs)
    (h : effect ∈ makeDirectories dir fs operands) :
    Does start dir (.mkdir directories) effect := by
  -- What has been made so far is kept by all that is made later.
  induction operands generalizing fs with
  | nil => cases h
  | cons operand rest ih =>
    obtain ⟨made, line, done, onward⟩ | ⟨why, onward⟩ := makeDirectories_cases dir fs operand
    · rw [onward] at h
      have addsMade := adds.trans (FileSystem.adds_makeDirectory done)
      have linksMade := links.trans (FileSystem.keepsLinks_makeDirectory done)
      rcases h with _ | ⟨_, _ | ⟨_, later⟩⟩
      · exact .makeDirectories addsMade linksMade
      · exact .note _ line
      · exact ih addsMade linksMade later
    · rw [onward] at h
      rcases List.mem_cons.1 h with rfl | later
      · exact .write _ rfl
      · exact ih adds links later

theorem exists_of_subdirectories {names : List Name} (h : subdirectories fs path = .ok names) :
    ∃ loc, fs.find path .follow = .ok (loc, .directory) ∧
      ∀ name ∈ names, fs.entry? (name :: loc) = some .directory := by
  rw [subdirectories] at h
  obtain ⟨⟨loc, entry⟩, looked, listed⟩ := FileSystem.bind_eq_ok_iff.1 h
  cases entry with
  | directory =>
    obtain rfl := Except.ok.inj listed
    refine ⟨loc, looked, fun name mem => ?_⟩
    simpa using (List.mem_filter.1 mem).2
  | file _ => cases listed
  | link _ => cases listed
  | nullDevice => cases listed

theorem does_of_mem_removeDirectories {start : FileSystem} {names : List Name}
    (here : start.find dir.current .follow = .ok (loc, .directory))
    (named : ∀ name ∈ names, start.entry? (name :: loc) = some .directory)
    (sheds : start.Sheds (fun other => ∃ name, other = name :: loc) fs)
    (h : effect ∈ removeDirectories dir fs names) : Does start dir .rmdirAll effect := by
  induction names generalizing fs with
  | nil => cases h
  | cons name rest ih =>
    have others : ∀ other ∈ rest, start.entry? (other :: loc) = some .directory :=
      fun other mem => named other (List.mem_cons_of_mem _ mem)
    obtain ⟨removed, line, found, below, holdsNone, onward⟩ | ⟨why, onward⟩ :=
      removeDirectories_cases dir fs name
    · rw [onward] at h
      -- What is found among what is left was found at the start, and there it was the entry.
      have entry : removed = name :: loc :=
        FileSystem.eq_of_find_entry here (named name (by simp)) (sheds.extends.find found)
      have shedsLeft := sheds.trans (FileSystem.entries_apart loc)
        (FileSystem.sheds_erase ⟨name, entry⟩ (FileSystem.find_eq_ok_iff.1 found).2 holdsNone below)
      rcases h with _ | ⟨_, _ | ⟨_, later⟩⟩
      · exact .removeEvery here shedsLeft
      · exact .note _ line
      · exact ih others shedsLeft later
    · rw [onward] at h
      rcases List.mem_cons.1 h with rfl | later
      · exact .write _ rfl
      · exact ih others sheds later

theorem exists_of_removeEveryDirectory (h : removeEveryDirectory session = .ok effects) :
    ∃ loc names, session.files.find session.dir.current .follow = .ok (loc, .directory) ∧
      (∀ name ∈ names, session.files.entry? (name :: loc) = some .directory) ∧
      effects = removeDirectories session.dir session.files names := by
  unfold removeEveryDirectory at h
  split at h
  · rename_i names listed
    obtain ⟨loc, here, named⟩ := exists_of_subdirectories listed
    exact ⟨loc, names, here, named, (Except.ok.inj h).symm⟩
  · cases h

theorem does_of_mem_copyDirectory {recursive : Bool}
    (h : effect ∈ (copyDirectory session source destination).effects) :
    Does session.files session.dir (.cp recursive source destination) effect := by
  have told : ∀ (lines : List LogLine) (files : FileSystem), session.files.Extends files →
      session.files.KeepsLinks files → effect ∈ lines.map Effect.note ++ [.store files] →
      Does session.files session.dir (.cp recursive source destination) effect := by
    intro lines files keeps links mem
    rcases List.mem_append.1 mem with mem | mem
    · obtain ⟨line, -, rfl⟩ := List.mem_map.1 mem
      exact .note _ line
    · cases List.mem_singleton.1 mem
      exact .copy keeps links
  unfold copyDirectory at h
  simp only at h
  split at h
  · cases h
  · split at h
    · cases h
    -- A copy that fails has copied what it could.
    · split at h
      · exact told _ _ FileSystem.extends_copyTree FileSystem.keepsLinks_copyTree h
      · rcases List.mem_append.1 h with mem | mem
        · exact told _ _ FileSystem.extends_copyTree FileSystem.keepsLinks_copyTree mem
        · cases List.mem_singleton.1 mem
          exact .note _ _
  · cases h

/-! ## All commands -/

theorem exists_of_mem_ofExcept {result : Except Failure (List Effect)}
    (h : effect ∈ (Run.ofExcept result).effects) :
    ∃ effects, result = .ok effects ∧ effect ∈ effects := by
  cases result with
  | ok effects => exact ⟨effects, rfl, h⟩
  | error failure => cases h

theorem exists_of_mem_ofWork {work : Work Unit} (all : work.AllOrNothing)
    (h : effect ∈ (Run.ofWork work fs).effects) :
    ∃ later, work.run ⟨fs, []⟩ = .ok () later ∧ effect ∈ later.effects := by
  obtain ⟨later, ran, runs⟩ | ⟨failure, -, runs⟩ := ofWork_cases all fs
  · rw [runs] at h
    exact ⟨later, ran, h⟩
  · rw [runs] at h
    cases h

/-- What a command does, it can do. -/
theorem does_of_mem_run {command : Command} (h : effect ∈ (command.run session).effects) :
    command.Does session.files session.dir effect := by
  have writes : ∀ {other : Command}, other.hasOneTarget = false → (∃ text, effect = .write text) →
      other.Does session.files session.dir effect := by
    rintro other several ⟨text, rfl⟩
    exact .write text several
  cases command with
  | cat files =>
    obtain ⟨file, -, mem⟩ := List.mem_flatMap.1 h
    refine writes rfl ?_
    obtain ⟨contents, -, shown⟩ | ⟨fault, -, shown⟩ := printFile_cases session file
    · rw [shown] at mem
      rcases List.mem_pair.1 mem with rfl | rfl
      · exact ⟨_, rfl⟩
      · exact ⟨_, rfl⟩
    · rw [shown] at mem
      exact ⟨_, List.mem_singleton.1 mem⟩
  | cd directory =>
    obtain ⟨_, ran, mem⟩ := exists_of_mem_ofWork (allOrNothing_enterDirectory _ _) h
    obtain ⟨path, line, there, rfl⟩ := exists_of_enterDirectory ran
    exact (Does.enter there).of_mem_told mem
  | cp recursive source destination =>
    cases recursive with
    | true => exact does_of_mem_copyDirectory h
    | false =>
      obtain ⟨_, ran, mem⟩ := exists_of_mem_ofWork (allOrNothing_copyFile _ _ _) h
      obtain ⟨_, _, size, later, -, -, -, -, copied, rfl⟩ := run_copyFile_eq_ok_iff.1 ran
      have keeps := FileSystem.extends_copyFile copied
      exact (Does.copy keeps (FileSystem.keepsLinks_copyFile copied)).of_mem_told mem
  | echo words => exact writes rfl ⟨_, List.mem_singleton.1 h⟩
  | exit => cases h
  | help =>
    obtain ⟨builtin, -, rfl⟩ := List.mem_map.1 h
    exact writes rfl ⟨_, rfl⟩
  | history =>
    obtain ⟨text, -, rfl⟩ := List.mem_map.1 h
    exact writes rfl ⟨_, rfl⟩
  | ls reversed =>
    obtain ⟨effects, done, mem⟩ := exists_of_mem_ofExcept h
    obtain ⟨shown, rfl⟩ := exists_of_listDirectory done
    obtain ⟨name, -, rfl⟩ := List.mem_map.1 mem
    exact writes rfl ⟨_, rfl⟩
  | mkdir directories => exact does_of_mem_makeDirectories (.refl _) (.refl _) h
  | pwd => exact writes rfl ⟨_, List.mem_singleton.1 h⟩
  | rm file =>
    obtain ⟨_, ran, mem⟩ := exists_of_mem_ofWork (allOrNothing_removeFile _ _) h
    obtain ⟨dest, id, later, led, removed, rfl⟩ := run_removeFile_eq_ok_iff.1 ran
    obtain ⟨loc, found, named, notDir, rfl⟩ := FileSystem.exists_of_removeFile removed
    exact (Does.removeFile named notDir led).of_mem_told mem
  | rmdir directory =>
    obtain ⟨_, ran, mem⟩ := exists_of_mem_ofWork (allOrNothing_removeDirectory _ _ _) h
    obtain ⟨_, left, -, apart, -, done, rfl⟩ := run_removeDirectory_eq_ok_iff.1 ran
    obtain ⟨loc, named, below, holdsNone, rfl⟩ := FileSystem.exists_of_removeDirectory done
    exact (Does.removeDirectory named apart holdsNone below).of_mem_told mem
  | rmdirAll =>
    obtain ⟨effects, done, mem⟩ := exists_of_mem_ofExcept h
    obtain ⟨loc, names, here, named, rfl⟩ := exists_of_removeEveryDirectory done
    exact does_of_mem_removeDirectories here named (.refl _ _) mem
  | touch file =>
    obtain ⟨_, ran, mem⟩ := exists_of_mem_ofWork (allOrNothing_createFile _ _) h
    rw [run_createFile] at ran
    split at ran
    · rename_i later made
      cases ran
      have adds := FileSystem.adds_createFile made
      exact (Does.createFile adds (FileSystem.keepsLinks_createFile made)).of_mem_told mem
    · split_ifs at ran
      cases ran
      cases List.mem_singleton.1 mem
      exact .note _ _

/-- No command makes a link. -/
theorem Does.keepsLinks {command : Command} (h : command.Does fs dir (.store later)) :
    fs.KeepsLinks later := by
  cases h with
  | makeDirectories _ links => exact links
  | createFile _ links => exact links
  | copy _ links => exact links
  | removeFile named notDir _ =>
    have stands := (FileSystem.find_eq_ok_iff.1 named).2
    exact FileSystem.keepsLinks_of_extends (FileSystem.extends_erase
      (FileSystem.names_eq_nil_of_entry stands notDir) (FileSystem.ne_nil_of_entry stands notDir))
  | removeDirectory _ _ holdsNone below =>
    exact FileSystem.keepsLinks_of_extends (FileSystem.extends_erase holdsNone below)
  | removeEvery _ sheds => exact FileSystem.keepsLinks_of_extends sheds.extends

/-- A command with one target that fails has done nothing. -/
theorem effects_eq_nil_of_error {command : Command} {failure : Failure}
    (single : command.hasOneTarget = true) (h : (command.run session).result = .error failure) :
    (command.run session).effects = [] := by
  have nothing : ∀ work : Work Unit, work.AllOrNothing →
      (Run.ofWork work session.files).result = .error failure →
      (Run.ofWork work session.files).effects = [] := by
    intro work all failed
    obtain ⟨_, -, runs⟩ | ⟨_, -, runs⟩ := ofWork_cases all session.files
    · rw [runs] at failed
      cases failed
    · rw [runs]
      rfl
  cases command with
  | cd directory => exact nothing _ (allOrNothing_enterDirectory _ _) h
  | touch file => exact nothing _ (allOrNothing_createFile _ _) h
  | rm file => exact nothing _ (allOrNothing_removeFile _ _) h
  | rmdir directory => exact nothing _ (allOrNothing_removeDirectory _ _ _) h
  | cp recursive source destination =>
    cases recursive with
    | true => cases single
    | false => exact nothing _ (allOrNothing_copyFile _ _ _) h
  | _ => cases single

end Command

end LineShell
