import LineShell.Proofs.Command.Touch

/-!
# Commands that take each other back

What `touch` makes is removed by `rm` under the same operand, and what `mkdir` makes by `rmdir`
(`takesBack`). The second command looks again at what the first one has left: `rm` follows links and
`rmdir` does not, but the path leads to the new entry either way. The working directory, which `rmdir`
does not remove, is no obstacle, for it was there when nothing stood at the operand's path
(`run_rmdir_of_made`).
-/

namespace LineShell

open FileSystem

namespace Command

variable {session : Session} {fs : FileSystem} {operand : String}

/-- A file that has just been made is removed. -/
theorem run_rm_of_made (session : Session) (operand : String)
    (made : fs.createFile (session.dir.resolve operand) = .ok session.files) :
    ∃ line, (rm operand).run session = .done [.store (fs.allot ⟨[], false⟩), .note line] := by
  obtain ⟨name, parent, -, -, -, there⟩ := find_of_createFile made
  have removed := removeFile_of_createFile made
  exact ⟨_, ofWork_of_ok <| run_removeFile_eq_ok_iff.2
    ⟨_, _, _, there .follow (by simp), removed, rfl⟩⟩

/-- A directory that has just been made is removed: the working directory is none that has not been
there before. -/
theorem run_rmdir_of_made (session : Session) (operand : String)
    (here : fs.isDirectory session.dir.current = true)
    (made : fs.makeDirectory (session.dir.resolve operand) = .ok session.files) :
    ∃ line, (rmdir operand).run session = .done [.store fs, .note line] := by
  obtain ⟨name, parent, -, -, -, there⟩ := find_of_makeDirectory made
  obtain ⟨empty, removed⟩ := removeDirectory_of_makeDirectory made
  have named := there .keep (by simp)
  have apart : session.dir.current.startsWith (session.dir.resolve operand) = false := by
    by_contra begins
    obtain ⟨checked, -⟩ := locate_eq_ok_iff.1 (find_eq_ok_iff.1 named).1
    have before := isDirectory_of_startsWith here (eq_true_of_ne_false begins) checked
    cases (isDirectory_of_makeDirectory made).symm.trans before
  exact ⟨_, ofWork_of_ok <| run_removeDirectory_eq_ok_iff.2
    ⟨_, _, named, apart, empty, removed, rfl⟩⟩

end Command

namespace Session

/-- One line makes something, and the next one takes it away again. -/
structure TakesBack (session : Session) (palette : Palette) (make undo : String) : Prop where
  /-- The second line prints nothing. -/
  silent : ((session.afterLine (.whole palette make)).delivery (.whole palette undo)).written = []
  /-- The tree of files is what it was. -/
  sameTree : session.files.SameTree
    ((session.afterLine (.whole palette make)).afterLine (.whole palette undo)).files
  /-- The working directory is what it was. -/
  sameDir : ((session.afterLine (.whole palette make)).afterLine (.whole palette undo)).dir =
    session.dir

variable {session : Session} {palette : Palette} {make undo operand : String} {made left : FileSystem}

/-- What one line leaves the next one finds. -/
theorem TakesBack.of_leaves (makes : session.Leaves palette make made session.dir)
    (undoes : (session.afterLine (.whole palette make)).Leaves palette undo left
      (session.afterLine (.whole palette make)).dir)
    (sameTree : session.files.SameTree left) : session.TakesBack palette make undo where
  silent := undoes.silent
  sameTree := undoes.files ▸ sameTree
  sameDir := undoes.dir.trans makes.dir

/-- `mkdir` that has nothing to report of its one target has made it. -/
theorem mkdir_of_silent (palette : Palette) (makes : Text.words make = ["mkdir", operand])
    (silent : (session.delivery (.whole palette make)).written = []) :
    ∃ made, session.files.makeDirectory (session.dir.resolve operand) = .ok made ∧
      session.Leaves palette make made session.dir := by
  let invocation : Invocation := ⟨"mkdir", [operand]⟩
  have accepted : acceptedCall? make = some (invocation, .mkdir [operand]) :=
    acceptedCall?_of_words .mkdir makes rfl
  let recorded := session.after (.record invocation.normalized)
  obtain ⟨later, line, made, onward⟩ | ⟨why, onward⟩ :=
    Command.makeDirectories_cases recorded.dir recorded.files operand
  · rw [files_after_record, dir_after_record] at made
    have runs : (Command.mkdir [operand]).run recorded = .done [.store later, .note line] := by
      rw [Command.run, onward]
      rfl
    exact ⟨later, made, by simpa using leaves_of_done accepted palette session runs rfl⟩
  · -- The failure would have been printed.
    have runs : (Command.mkdir [operand]).run recorded =
        .done [.write (.report (.failed (.makeDirectory operand why)))] := by
      rw [Command.run, onward]
      rfl
    rw [written_of_accepted accepted, runs] at silent
    exact absurd (List.append_eq_nil_iff.1 silent).1 (Segment.render_report_ne_nil palette _)

/-- What `touch` has made, `rm` takes away. -/
theorem takesBack_touch (palette : Palette) (makes : Text.words make = ["touch", operand])
    (undoes : Text.words undo = ["rm", operand])
    (new : ∃ loc, session.files.entry? loc = none ∧
      (session.afterLine (.whole palette make)).files.entry? loc ≠ none) :
    session.TakesBack palette make undo := by
  obtain ⟨loc, vacant, stands⟩ := new
  -- As there is a new entry, the line has made a file.
  rcases touch_cases session palette makes with
    ⟨made, done, leaves⟩ | ⟨_, -, leaves⟩ | ⟨-, -, sameFiles⟩
  · have accepted := acceptedCall?_of_words .rm undoes rfl
    rw [← leaves.files, ← leaves.dir] at done
    let recorded := (session.afterLine (.whole palette make)).after
      (.record (Invocation.normalized ⟨"rm", [operand]⟩))
    obtain ⟨line, runs⟩ := Command.run_rm_of_made recorded operand
      (by rwa [files_after_record, dir_after_record])
    exact .of_leaves leaves (by simpa using leaves_of_done accepted palette _ runs rfl)
      (sameTree_allot _ _)
  · rw [leaves.files] at stands
    exact absurd vacant stands
  · rw [sameFiles] at stands
    exact absurd vacant stands

/-- What `mkdir` has made, `rmdir` takes away. -/
theorem takesBack_mkdir (here : session.HasDirectory) (palette : Palette)
    (makes : Text.words make = ["mkdir", operand]) (undoes : Text.words undo = ["rmdir", operand])
    (notEvery : operand ≠ Command.everyOperand)
    (silent : (session.delivery (.whole palette make)).written = []) :
    session.TakesBack palette make undo := by
  have fits : Command.read .rmdir [operand] = .ok (.rmdir operand) := by
    simp [Command.read, notEvery]
  have accepted := acceptedCall?_of_words .rmdir undoes fits
  obtain ⟨made, done, leaves⟩ := mkdir_of_silent palette makes silent
  have stillHere : session.files.isDirectory (session.afterLine (.whole palette make)).dir.current =
      true := by
    rw [leaves.dir]
    exact here
  rw [← leaves.files, ← leaves.dir] at done
  let recorded := (session.afterLine (.whole palette make)).after
    (.record (Invocation.normalized ⟨"rmdir", [operand]⟩))
  obtain ⟨line, runs⟩ := Command.run_rmdir_of_made recorded operand
    (by rwa [dir_after_record]) (by rwa [files_after_record, dir_after_record])
  exact .of_leaves leaves (by simpa using leaves_of_done accepted palette _ runs rfl) (.refl _)

/-- What one line makes the next one takes back: `rm` the file that `touch` has made, and `rmdir` the
directory that `mkdir` has made, whatever links the operand goes through. -/
theorem takesBack (here : session.HasDirectory) (palette : Palette) (make undo operand : String) :
    (Text.words make = ["touch", operand] → Text.words undo = ["rm", operand] →
      (∃ loc, session.files.entry? loc = none ∧
        (session.afterLine (.whole palette make)).files.entry? loc ≠ none) →
      session.TakesBack palette make undo) ∧
    (Text.words make = ["mkdir", operand] → Text.words undo = ["rmdir", operand] →
      operand ≠ Command.everyOperand → (session.delivery (.whole palette make)).written = [] →
      session.TakesBack palette make undo) :=
  ⟨takesBack_touch palette, takesBack_mkdir here palette⟩

end Session

/-- Where `l` is a link to a directory, the new entries are in that directory. -/
theorem takesBack_linkedDirectory :
    let session : Session := ⟨linkedDirectory, ⟨.ofString "/l", none⟩, {}⟩
    session.HasDirectory ∧ session.TakesBack .plain "touch ../l/f" "rm  ../l/f" ∧
      session.TakesBack .plain "mkdir d/" "rmdir d/" := by
  intro session
  have here : session.HasDirectory := by
    show session.files.isDirectory session.dir.current = true
    decide +kernel
  have file := (Session.takesBack here .plain "touch ../l/f" "rm  ../l/f" "../l/f").1
    (by decide +kernel) (by decide +kernel)
    ⟨[Text.encode "f", Text.encode "a"], by decide +kernel, by decide +kernel⟩
  have directory := (Session.takesBack here .plain "mkdir d/" "rmdir d/" "d/").2
    (by decide +kernel) (by decide +kernel) (by decide +kernel) (by decide +kernel)
  exact ⟨here, file, directory⟩

end LineShell
