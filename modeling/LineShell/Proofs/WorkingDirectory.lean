import Mathlib.Data.List.Induction
import LineShell.Proofs.FileSystem.Plain
import LineShell.Proofs.FileSystem.Trail
import LineShell.Proofs.Line

/-!
# Whether the working directory stays

A session starts in a directory, and lines are all that changes its files. Only the removal of
directories can take the working directory away: `rmdir` refuses those that the path of the working
directory names, but its lookup may pass others, where it follows links. So the working directory
stays exactly as long as no line removes a directory that its lookup passes (`keepsDirectory_iff`);
where there are no links, the lookup passes only what the path names, and no line does.
-/

namespace LineShell

/-- Whether a command removes directories. -/
def Command.removesDirectories : Command → Bool
  | rmdir _ | rmdirAll => true
  | _ => false

namespace Session

/-- The working directory is there. -/
def HasDirectory (session : Session) : Prop :=
  session.files.isDirectory session.dir.current = true

/-- The working directory is there before each of the lines is read and after the last one. -/
def KeepsDirectory (session : Session) (lines : List Line) : Prop :=
  ∀ front, front <+: lines → (session.afterLines front).HasDirectory

/-- If a line removes directories, all that the lookup of the working directory passes is left. -/
def KeepsTrail (session : Session) (line : Line) : Prop :=
  ∀ invocation command, acceptedCall? line.text = some (invocation, command) →
    command.removesDirectories = true →
    ∀ met, session.files.PassesOn session.dir.current met →
      (session.afterLine line).files.entry? met ≠ none

variable {session : Session} {line : Line} {invocation : Invocation} {command : Command}

/-! ## One line -/

/-- A line that removes no directories leaves every path that led to a directory leading to one. -/
theorem hasDirectory_afterLine (here : session.HasDirectory)
    (accepted : acceptedCall? line.text = some (invocation, command))
    (keeps : command.removesDirectories = false) : (session.afterLine line).HasDirectory := by
  have stays : ∀ path, session.files.isDirectory path = true →
      (session.afterLine line).files.isDirectory path = true := by
    refine files_afterLine
      (P := fun files => ∀ path, session.files.isDirectory path = true → files.isDirectory path = true)
      accepted (fun _ dir => dir) fun later does path dir => ?_
    cases does with
    | makeDirectories adds _ => exact adds.toExtends.isDirectory dir
    | createFile adds _ => exact adds.toExtends.isDirectory dir
    | copy all _ => exact all.isDirectory dir
    | removeFile named notDir led =>
      -- What `rm` removes is no directory and leads to none, so no lookup goes on from it.
      have dead := FileSystem.deadEnd_of_find named notDir led
      exact dead.isDirectory_erase (FileSystem.find_eq_ok_iff.1 named).2 dir
    | _ => cases keeps
  -- Only `cd` enters another directory, and that one was there before the line.
  have entered : session.files.isDirectory (session.afterLine line).dir.current = true := by
    refine dir_afterLine (P := fun dir => session.files.isDirectory dir.current = true) accepted here
      fun later does => ?_
    cases does with
    | enter there => exact there
  exact stays _ entered

/-- A line that removes directories enters none, and what is left is part of what was there. -/
theorem of_removesDirectories (accepted : acceptedCall? line.text = some (invocation, command))
    (removes : command.removesDirectories = true) :
    (session.afterLine line).dir = session.dir ∧
      (session.afterLine line).files.Extends session.files := by
  constructor
  · refine dir_afterLine (P := fun dir => dir = session.dir) accepted rfl fun later does => ?_
    cases does with
    | enter _ => cases removes
  · refine files_afterLine (P := fun files => files.Extends session.files) accepted (.refl _)
      fun later does => ?_
    cases does with
    | removeDirectory _ _ holdsNone below => exact FileSystem.extends_erase holdsNone below
    | removeEvery _ sheds => exact sheds.extends
    | _ => cases removes

/-- A line leaves the working directory in its place exactly if it leaves what the lookup of it
passes. -/
theorem hasDirectory_afterLine_iff (here : session.HasDirectory) :
    (session.afterLine line).HasDirectory ↔ session.KeepsTrail line := by
  cases accepted : acceptedCall? line.text with
  | none =>
    rw [afterLine_of_refused accepted]
    refine iff_of_true here fun invocation command accepted' => ?_
    cases accepted.symm.trans accepted'
  | some call =>
    obtain ⟨invocation, command⟩ := call
    -- Both sides hold of a line that removes no directories.
    cases removes : command.removesDirectories with
    | false =>
      refine iff_of_true (hasDirectory_afterLine here accepted removes) ?_
      intro invocation' command' accepted' removes'
      cases accepted.symm.trans accepted'
      cases removes.symm.trans removes'
    | true =>
      obtain ⟨sameDir, part⟩ := of_removesDirectories accepted removes
      rw [HasDirectory, sameDir, FileSystem.isDirectory_iff_of_extends part here]
      constructor
      · intro left _ _ _ _
        exact left
      · intro keeps
        exact keeps invocation command accepted removes

/-! ## Without links -/

/-- The working directory is there, its path spells a location, and there are no links. -/
structure Grounded (session : Session) : Prop where
  /-- The working directory is there. -/
  hasDirectory : session.HasDirectory
  /-- Its path spells a location. -/
  spelled : ∃ loc : Location, (∀ name ∈ loc, Name.IsStep name) ∧
    session.dir.current = .ofLocation loc
  /-- There are no links. -/
  noLink : ∀ loc target, session.files.entry? loc ≠ some (.link target)

/-- Where there are no links, no command removes the directory that the working directory's path
spells. -/
theorem Grounded.entry_of_does (grounded : session.Grounded) {loc : Location} {later : FileSystem}
    (areSteps : ∀ name ∈ loc, Name.IsStep name) (spelled : session.dir.current = .ofLocation loc)
    (stands : session.files.entry? loc = some .directory)
    (removes : command.removesDirectories = true)
    (does : command.Does session.files session.dir (.store later)) :
    later.entry? loc = some .directory := by
  cases does with
  | @removeDirectory operand gone named apart holdsNone below =>
    have absolute : session.dir.current.isAbsolute = true := by simp [spelled]
    obtain ⟨other, otherSteps, denoted⟩ := exists_resolve_eq_ofLocation absolute operand
    rw [denoted] at named apart
    rw [spelled] at apart
    have found : gone = other := FileSystem.eq_of_locate_ofLocation grounded.noLink otherSteps
      (FileSystem.find_eq_ok_iff.1 named).1
    subst found
    -- The guard compares the two locations, as both paths spell what they lead to.
    have different : loc ≠ gone := by
      rintro rfl
      rw [(Path.startsWith_ofLocation areSteps areSteps).2 (List.suffix_refl loc)] at apart
      cases apart
    rw [FileSystem.entry?_erase holdsNone below, if_neg different]
    exact stands
  | removeEvery here sheds =>
    rw [spelled] at here
    have current := FileSystem.eq_of_locate_ofLocation grounded.noLink areSteps
      (FileSystem.find_eq_ok_iff.1 here).1
    subst current
    rcases sheds.entry _ with same | ⟨⟨name, inside⟩, -⟩
    · rw [same]
      exact stands
    · exact absurd inside.symm (List.cons_ne_self name _)
  | _ => cases removes

theorem Grounded.afterLine (grounded : session.Grounded) (line : Line) :
    (session.afterLine line).Grounded := by
  cases accepted : acceptedCall? line.text with
  | none => rwa [afterLine_of_refused accepted]
  | some call =>
    obtain ⟨invocation, command⟩ := call
    obtain ⟨loc, areSteps, spelled⟩ := grounded.spelled
    have noLink : ∀ loc target, (session.afterLine line).files.entry? loc ≠ some (.link target) := by
      refine files_afterLine (P := fun files => ∀ loc target, files.entry? loc ≠ some (.link target))
        accepted grounded.noLink fun later does loc target link => ?_
      exact grounded.noLink loc target (does.keepsLinks loc target link)
    refine ⟨?_, ?_, noLink⟩
    -- Without links a path leads to a directory if one stands at the location that it spells.
    · cases removes : command.removesDirectories with
      | false => exact hasDirectory_afterLine grounded.hasDirectory accepted removes
      | true =>
        have dir := grounded.hasDirectory
        rw [HasDirectory, spelled, FileSystem.isDirectory_ofLocation_iff_of_noLink grounded.noLink
          areSteps] at dir
        rw [HasDirectory, (of_removesDirectories accepted removes).1, spelled,
          FileSystem.isDirectory_ofLocation_iff_of_noLink noLink areSteps]
        refine ⟨dir.1, files_afterLine (P := fun files => files.entry? loc = some .directory)
          accepted dir.2 fun later does => ?_⟩
        exact grounded.entry_of_does areSteps spelled dir.2 removes does
    · refine dir_afterLine (P := fun dir => ∃ loc : Location, (∀ name ∈ loc, Name.IsStep name) ∧
        dir.current = .ofLocation loc) accepted grounded.spelled fun later does => ?_
      cases does with
      | enter _ =>
        have absolute : session.dir.current.isAbsolute = true := by simp [spelled]
        exact Path.exists_normalize_eq_ofLocation (Path.isAbsolute_join absolute _)

/-! ## Runs of lines -/

/-- What holds at the start and is kept by each line holds all the time. -/
theorem afterLines_induction {P : Session → Prop} {lines : List Line} (start : P session)
    (step : ∀ front line, front ++ [line] <+: lines → P (session.afterLines front) →
      P ((session.afterLines front).afterLine line)) :
    ∀ front, front <+: lines → P (session.afterLines front) := by
  intro front isPrefix
  -- The induction is on the lines read so far, from the last one back.
  induction front using List.reverseRecOn with
  | nil => exact start
  | append_singleton front line ih =>
    rw [afterLines_concat]
    exact step front line isPrefix (ih ((List.prefix_append front [line]).trans isPrefix))

/-- The working directory of a session stays exactly as long as no line removes a directory that its
lookup passes. Where there are no links, it always stays. -/
theorem keepsDirectory_iff {fs : FileSystem} {process path : Path} {home : Option Path}
    {dir : WorkingDirectory} (started : WorkingDirectory.start fs process home path = .ok dir)
    (history : History) (lines : List Line) :
    let session : Session := ⟨fs, dir, history⟩
    (session.KeepsDirectory lines ↔
      ∀ front line, front ++ [line] <+: lines → (session.afterLines front).KeepsTrail line) ∧
    (process.isAbsolute = true → (∀ loc target, fs.entry? loc ≠ some (.link target)) →
      session.KeepsDirectory lines) := by
  intro session
  unfold WorkingDirectory.start at started
  simp only at started
  split_ifs at started with there
  cases started
  refine ⟨⟨fun keeps front line isPrefix => ?_, fun trail => ?_⟩, fun absolute noLink => ?_⟩
  · have before := keeps front ((List.prefix_append front [line]).trans isPrefix)
    have after := keeps (front ++ [line]) isPrefix
    rw [afterLines_concat] at after
    exact (hasDirectory_afterLine_iff before).1 after
  · exact afterLines_induction there fun front line isPrefix before =>
      (hasDirectory_afterLine_iff before).2 (trail front line isPrefix)
  · have grounded : session.Grounded :=
      ⟨there, Path.exists_normalize_eq_ofLocation (Path.isAbsolute_join absolute path), noLink⟩
    intro front isPrefix
    exact (afterLines_induction grounded (fun front line _ before => before.afterLine line) front
      isPrefix).hasDirectory

end Session

/-- A root with a directory `a`. -/
def oneDirectory : FileSystem :=
  FileSystem.empty.add [] (Text.encode "a") .directory

/-- A line whose output is all taken. -/
def Line.taken (text : String) : Line :=
  ⟨text, .plain, .unlimited⟩

theorem keepsDirectory_oneDirectory :
    WorkingDirectory.start oneDirectory (.ofString "/") none (.ofString "a") =
        .ok ⟨.ofString "/a", none⟩ ∧
      (⟨oneDirectory, ⟨.ofString "/a", none⟩, {}⟩ : Session).KeepsDirectory
        [.taken "rmdir .", .taken "rmdir ../a", .taken "rmdir /a/"] := by
  have started : WorkingDirectory.start oneDirectory (.ofString "/") none (.ofString "a") =
      .ok ⟨.ofString "/a", none⟩ := by
    decide +kernel
  have plain : oneDirectory.IsPlain := by decide +kernel
  exact ⟨started, (Session.keepsDirectory_iff started {} _).2 (by decide +kernel) plain.noLink⟩

/-- The same root with a link `l` to the directory. -/
def linkedDirectory : FileSystem :=
  oneDirectory.add [] (Text.encode "l") (.link (.ofString "a"))

/-- A directory that has been entered through a link is removed under its own name. -/
theorem not_keepsDirectory_linkedDirectory :
    WorkingDirectory.start linkedDirectory (.ofString "/") none (.ofString "/") =
        .ok ⟨.ofString "/", none⟩ ∧
      ¬ (⟨linkedDirectory, ⟨.ofString "/", none⟩, {}⟩ : Session).KeepsDirectory
        [.taken "cd l", .taken "rmdir ../a"] := by
  have started : WorkingDirectory.start linkedDirectory (.ofString "/") none (.ofString "/") =
      .ok ⟨.ofString "/", none⟩ := by
    decide +kernel
  refine ⟨started, fun keeps => ?_⟩
  have left := keeps _ (List.prefix_refl _)
  rw [Session.HasDirectory] at left
  exact absurd left (by decide +kernel)

end LineShell
