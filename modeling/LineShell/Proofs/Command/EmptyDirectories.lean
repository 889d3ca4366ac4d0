import LineShell.Proofs.Output
import LineShell.Proofs.Text.Utf8
import LineShell.Proofs.WorkingDirectory

/-!
# Removing every empty directory

`rmdir *` goes through the directories that it has found in the working directory, removes those that
are empty and reports the others. What it removes makes no other directory empty, so that the reports
and what is left can be read off the start (`sweep`), as long as the path of the working directory
leads to it all the time. That path may follow links and pass an empty directory of the working
directory itself, as `x/..` does. Once this one is gone, the rest are neither removed nor found to hold
something.

So `rmdir *` does what it is meant to do exactly if the lookup of the working directory passes no empty
directory in it (`removesEmpty_iff`). Without `..` in the path and in the links it never does.
-/

namespace LineShell

open FileSystem

/-- The report of a directory that is not empty. -/
def notEmptyReport (name : Name) : Segment :=
  .report (.failed (.removeDirectory (Text.decodeShown name) .directoryNotEmpty))

/-- It is written as a line. -/
theorem render_notEmptyReport (name : Name) :
    (notEmptyReport name).render .plain = Text.encode
      (s!"rmdir: failed to remove '{Text.decodeShown name}': Directory not empty" ++ "\n") := by
  have message : "rmdir: failed to remove '" ++ Text.decodeShown name ++ "': " ++
      "Directory not empty" =
        "rmdir: failed to remove '" ++ Text.decodeShown name ++ "': Directory not empty" := by
    rw [String.append_assoc]
    rfl
  exact congrArg (fun text => Text.encode (text ++ "\n")) message

/-- The entries of some names in a directory. -/
def EntryAmong (loc : Location) (names : List Name) (other : Location) : Prop :=
  ∃ name ∈ names, other = name :: loc

/-- A path leads to a directory, the paths of whose entries are not too long, and passes no empty one
of them. -/
structure FileSystem.Sweepable (fs : FileSystem) (path : Path) (loc : Location) : Prop where
  /-- The path leads to the directory. -/
  here : fs.find path .follow = .ok (loc, .directory)
  /-- The paths of its entries can be looked up. -/
  short : ∀ name ∈ fs.names loc, (path.entry name).bytes.length ≤ maxPathLength
  /-- The lookup depends on no empty directory in it. -/
  clear : ∀ name, fs.IsEmptyAt (name :: loc) → ¬ fs.PassesOn path (name :: loc)

namespace FileSystem

variable {fs : FileSystem} {loc : Location} {name : Name}

/-! ## The directories in a directory -/

/-- The names of the directories in a directory. -/
def directoryNames (fs : FileSystem) (loc : Location) : List Name :=
  (fs.names loc).filter fun name => fs.entry? (name :: loc) = some .directory

/-- The names of those that hold something. -/
def fullNames (fs : FileSystem) (loc : Location) : List Name :=
  (directoryNames fs loc).filter fun name => fs.names (name :: loc) ≠ []

theorem mem_directoryNames :
    name ∈ directoryNames fs loc ↔ fs.entry? (name :: loc) = some .directory := by
  rw [directoryNames, List.mem_filter, decide_eq_true_iff, mem_names_iff]
  refine ⟨And.right, fun stands => ⟨?_, stands⟩⟩
  simp [stands]

theorem mem_fullNames :
    name ∈ fullNames fs loc ↔
      fs.entry? (name :: loc) = some .directory ∧ fs.names (name :: loc) ≠ [] := by
  rw [fullNames, List.mem_filter, decide_eq_true_iff, mem_directoryNames]

theorem pairwise_fullNames (fs : FileSystem) (loc : Location) :
    (fullNames fs loc).Pairwise fun a b => compare a b = .lt :=
  ((pairwise_names fs loc).filter _).filter _

end FileSystem

section Sweep

variable {start fs : FileSystem} {dir : WorkingDirectory} {loc : Location} {name : Name}
  {shown : String} {path : Path} {done names : List Name} {session : Session}

/-- No entry of a directory is inside of another one. -/
theorem not_entryAmong_cons (name first : Name) :
    ¬ EntryAmong loc names (name :: first :: loc) := by
  rintro ⟨second, -, same⟩
  exact entries_apart loc name _ ⟨first, rfl⟩ ⟨second, same⟩

theorem entryAmong_concat :
    EntryAmong loc (done ++ [name]) =
      fun other => EntryAmong loc done other ∨ other = name :: loc := by
  funext other
  simp [EntryAmong, or_and_right, exists_or]

/-! ## One directory -/

theorem Command.run_removeDirectory_entry
    (here : fs.find dir.current .follow = .ok (loc, .directory))
    (stands : fs.entry? (name :: loc) = some .directory)
    (short : (dir.current.entry name).bytes.length ≤ maxPathLength) :
    (removeDirectory dir (dir.current.entry name) shown).run ⟨fs, []⟩ =
      if fs.names (name :: loc) = [] then
        .ok () ⟨fs.erase (name :: loc), [.store (fs.erase (name :: loc)),
          Builtin.rmdir.note .debug s!"rmdir: removed {(dir.current.entry name).shown}"]⟩
      else .error (.removeDirectory shown .directoryNotEmpty) ⟨fs, []⟩ := by
  have isStep := Name.isStep_of_isValid (isPlace_of_entry stands).1
  have notNil := (checkPath_eq_ok_iff.1 (locate_eq_ok_iff.1 (find_eq_ok_iff.1 here).1).1).2.1
  have kept := find_entry here stands short .keep
  have listed := list_eq_ok_iff.2 ⟨_, find_entry here stands short .follow, rfl⟩
  -- The working directory's path is shorter than that of its entry, so the guard lets it pass.
  have passes := Path.startsWith_entry isStep notNil
  split_ifs with holdsNone
  · have removed : fs.removeDirectory (dir.current.entry name) = .ok (fs.erase (name :: loc)) := by
      simp only [FileSystem.removeDirectory, kept, bind, Except.bind, if_pos holdsNone]
    refine run_removeDirectory_eq_ok_iff.2 ⟨name :: loc, _, kept, passes, ?_, removed, rfl⟩
    simp [isEmptyDirectory, listed, holdsNone, Except.map]
  · have full : fs.isEmptyDirectory (dir.current.entry name) = .ok false := by
      simp [isEmptyDirectory, listed, holdsNone, Except.map]
    simp [removeDirectory, Work.run_require_look, Work.run_ensure, kept, passes, full]

/-! ## All of them -/

/-- What has been removed is not on the way to the directory. -/
theorem FileSystem.Sweepable.find (h : start.Sweepable path loc)
    (sheds : start.Sheds (fun other => ∃ name, other = name :: loc) fs) :
    fs.find path .follow = .ok (loc, .directory) := by
  refine sheds.find h.here ?_
  rintro _ ⟨name, rfl⟩ empty
  exact h.clear name empty

/-- What is still ahead is as it was. -/
theorem FileSystem.ShedsEvery.ahead (sheds : start.ShedsEvery (EntryAmong loc done) fs)
    (new : name ∉ done) :
    fs.entry? (name :: loc) = start.entry? (name :: loc) ∧
      fs.names (name :: loc) = start.names (name :: loc) := by
  constructor
  · rcases sheds.entry (name :: loc) with same | ⟨⟨other, mem, same⟩, -⟩
    · exact same
    · cases same
      exact absurd mem new
  · exact sheds.names_eq fun other => not_entryAmong_cons other name

/-- From some names on, the removal reports the directories that held something at the start, and
nothing else; and in the end all are gone that were empty then. -/
theorem sweep (h : start.Sweepable dir.current loc)
    (sheds : start.ShedsEvery (EntryAmong loc done) session.files)
    (directories : ∀ name ∈ names, start.entry? (name :: loc) = some .directory)
    (nodup : (done ++ names).Nodup) :
    let effects := Command.removeDirectories dir session.files names
    segments effects =
        (names.filter fun name => start.names (name :: loc) ≠ []).map notEmptyReport ∧
      start.ShedsEvery (EntryAmong loc (done ++ names)) (session.afterAll effects).files := by
  intro effects
  -- The induction is on the names ahead; one at a time they move over to those that are done.
  induction names generalizing done session with
  | nil =>
    rw [List.append_nil]
    exact ⟨rfl, sheds⟩
  | cons name rest ih =>
    have new : name ∉ done := fun mem =>
      (List.nodup_append.1 nodup).2.2 name mem name List.mem_cons_self rfl
    have wasThere := directories name List.mem_cons_self
    obtain ⟨stands, holds⟩ := sheds.ahead new
    rw [wasThere] at stands
    have found := h.find (sheds.toSheds.mono fun _ ⟨other, _, same⟩ => ⟨other, same⟩)
    have short := h.short name (mem_names_iff.2 (by simp [wasThere]))
    have regrouped : done ++ name :: rest = done ++ [name] ++ rest := List.append_cons _ _ _
    have others : ∀ other ∈ rest, start.entry? (other :: loc) = some .directory :=
      fun other mem => directories other (List.mem_cons_of_mem _ mem)
    rw [regrouped] at nodup ⊢
    unfold effects
    -- Whether the directory is removed depends only on what it held at the start.
    rw [Command.removeDirectories, Command.forEach,
      Command.run_removeDirectory_entry found stands short, holds]
    by_cases holdsNone : start.names (name :: loc) = []
    · rw [if_pos holdsNone, List.filter_cons_of_neg (by simp [holdsNone])]
      have apart : ∀ other place, EntryAmong loc (done ++ [name]) place →
          ¬ EntryAmong loc (done ++ [name]) (other :: place) := by
        rintro other _ ⟨first, -, rfl⟩
        exact not_entryAmong_cons other first
      rw [entryAmong_concat] at apart
      have shedsMore := sheds.erase apart ⟨stands, holds.trans holdsNone⟩ (List.cons_ne_nil _ _)
      rw [← entryAmong_concat] at shedsMore
      -- The session goes on with the files that are left.
      let left : Session := { session with files := session.files.erase (name :: loc) }
      exact @ih _ left shedsMore others nodup
    · rw [if_neg holdsNone, List.filter_cons_of_pos (by simp [holdsNone])]
      have shedsMore := sheds.skip fun empty : start.IsEmptyAt (name :: loc) => holdsNone empty.2
      rw [← entryAmong_concat] at shedsMore
      obtain ⟨told, left⟩ := ih shedsMore others nodup
      exact ⟨congrArg (notEmptyReport name :: ·) told, left⟩

/-- The removal of all that is found leaves none of the empty directories, and nothing stands in the
way of another one. -/
theorem FileSystem.Sweepable.again (h : start.Sweepable path loc)
    (sheds : start.ShedsEvery (fun other => ∃ name, other = name :: loc) fs) :
    fs.Sweepable path loc where
  here := h.find sheds.toSheds
  short name mem := by
    obtain ⟨found, stands⟩ := Option.ne_none_iff_exists'.1 (mem_names_iff.1 mem)
    exact h.short name (mem_names_iff.2 (by simp [sheds.extends.entry stands]))
  clear name empty := by
    exact absurd empty
      (sheds.not_isEmptyAt ⟨name, rfl⟩ fun other => entries_apart loc other _ ⟨name, rfl⟩)

end Sweep

namespace Session

/-- The line that removes every empty directory in the working directory. -/
def sweepLine : Line := .taken "rmdir *"

/-- `rmdir *` removes the empty directories in the directory at a location, reports the others, and
has nothing more to do after that. -/
structure RemovesEmpty (session : Session) (loc : Location) : Prop where
  /-- The empty directories in it are gone, and everything else is as it was. -/
  removed : session.files.ShedsEvery (fun other => ∃ name, other = name :: loc)
    (session.afterLine sweepLine).files
  /-- The other directories in it are reported in the order of their names, and nothing else is
  written. -/
  written : ∃ names : List Name, (names.Pairwise fun a b => compare a b = .lt) ∧
    (∀ name, name ∈ names ↔ session.files.entry? (name :: loc) = some .directory ∧
      session.files.names (name :: loc) ≠ []) ∧
    (session.delivery sweepLine).written = names.flatMap fun name => Text.encode
      (s!"rmdir: failed to remove '{Text.decodeShown name}': Directory not empty" ++ "\n")
  /-- The working directory is the same. -/
  dir : (session.afterLine sweepLine).dir = session.dir
  /-- The second time nothing is changed. -/
  again : ((session.afterLine sweepLine).afterLine sweepLine).files =
    (session.afterLine sweepLine).files
  /-- The second time the same is written. -/
  writtenAgain : ((session.afterLine sweepLine).delivery sweepLine).written =
    (session.delivery sweepLine).written

variable {session : Session} {loc : Location}

/-! ## What the line does -/

theorem acceptedCall?_sweepLine :
    acceptedCall? sweepLine.text = some (⟨"rmdir", ["*"]⟩, .rmdirAll) := by
  decide +kernel

/-- The session in which the line is carried out. -/
def recorded (session : Session) : Session :=
  session.after (.record (Invocation.normalized ⟨"rmdir", ["*"]⟩))

theorem afterLine_sweepLine :
    session.afterLine sweepLine =
      session.recorded.afterAll (Command.rmdirAll.run session.recorded).effects := by
  calc
    session.afterLine sweepLine
      = session.afterAll (session.reply sweepLine.text).effects := session_deliver_unlimited _ _ _
    _ = session.afterAll (session.carryOut ⟨"rmdir", ["*"]⟩ .rmdirAll).effects := by
      rw [reply_of_accepted acceptedCall?_sweepLine]
    _ = _ := afterAll_carryOut _ _ _

/-- The line writes what its command writes, and the report of its failure. -/
theorem written_sweepLine {run : Run} (ran : Command.rmdirAll.run session.recorded = run) :
    (session.delivery sweepLine).written =
      (segments run.effects ++
        match run.result with
        | .ok _ => []
        | .error failure => [.report (.failed failure)]).flatMap (Segment.render .plain) := by
  subst ran
  refine (written_deliver_unlimited _ _ _).trans ?_
  rw [reply_of_accepted acceptedCall?_sweepLine, segments_carryOut]
  rfl

theorem removeEveryDirectory_of_find
    (here : session.files.find session.dir.current .follow = .ok (loc, .directory)) :
    Command.removeEveryDirectory session = .ok (Command.removeDirectories session.dir session.files
      (directoryNames session.files loc)) := by
  have found : Command.subdirectories session.files session.dir.current =
      .ok (directoryNames session.files loc) := by
    unfold Command.subdirectories
    rw [here]
    rfl
  rw [Command.removeEveryDirectory, found]

/-- Where the way to the working directory passes none of the empty directories, they are removed and
the others reported. -/
theorem sweeps_of_sweepable (h : session.files.Sweepable session.dir.current loc) :
    session.files.ShedsEvery (fun other => ∃ name, other = name :: loc)
        (session.afterLine sweepLine).files ∧
      (session.delivery sweepLine).written =
        ((fullNames session.files loc).map notEmptyReport).flatMap (Segment.render .plain) := by
  have ran : Command.rmdirAll.run session.recorded = .done (Command.removeDirectories session.dir
      session.files (directoryNames session.files loc)) :=
    congrArg Run.ofExcept (removeEveryDirectory_of_find h.here)
  have nodup : (directoryNames session.files loc).Nodup :=
    (nodup_of_ascending (pairwise_names session.files loc)).filter _
  have start : session.files.ShedsEvery (EntryAmong loc []) session.recorded.files :=
    shedsEvery_of_none (by simp [EntryAmong]) _
  obtain ⟨told, left⟩ := sweep h start (fun name mem => mem_directoryNames.1 mem) nodup
  constructor
  · rw [afterLine_sweepLine, ran]
    refine ⟨left.toSheds.mono fun _ ⟨name, _, same⟩ => ⟨name, same⟩, ?_⟩
    rintro _ ⟨name, rfl⟩ empty
    exact left.gone _ ⟨name, mem_directoryNames.2 empty.1, rfl⟩ empty
  · rw [written_sweepLine ran]
    exact congrArg (List.flatMap (Segment.render .plain)) ((List.append_nil _).trans told)

/-- If nothing is removed that the way to the working directory passes, all is as it should be. -/
theorem removesEmpty_of_sweepable (h : session.files.Sweepable session.dir.current loc) :
    session.RemovesEmpty loc := by
  obtain ⟨removed, written⟩ := sweeps_of_sweepable h
  have sameDir : (session.afterLine sweepLine).dir = session.dir :=
    (of_removesDirectories acceptedCall?_sweepLine rfl).1
  have ahead : (session.afterLine sweepLine).files.Sweepable
      (session.afterLine sweepLine).dir.current loc := by
    rw [sameDir]
    exact h.again removed
  obtain ⟨removedAgain, writtenAgain⟩ := sweeps_of_sweepable ahead
  have apart : ∀ name other, ¬ ∃ first, other :: name :: loc = first :: loc :=
    fun name other => entries_apart loc other _ ⟨name, rfl⟩
  -- The directories that held something are still there and hold the same.
  have sameNames : fullNames (session.afterLine sweepLine).files loc =
      fullNames session.files loc := by
    refine eq_of_ascending (pairwise_fullNames _ _) (pairwise_fullNames _ _) fun name => ?_
    rw [mem_fullNames, mem_fullNames, removed.names_eq (apart name)]
    refine and_congr_left fun full => ⟨removed.extends.entry, fun stands => ?_⟩
    rcases removed.entry (name :: loc) with same | ⟨-, -, holdsNone, -⟩
    · rw [same, stands]
    · exact absurd holdsNone full
  refine ⟨removed, ⟨fullNames session.files loc, pairwise_fullNames _ _, fun _ => mem_fullNames, ?_⟩,
    sameDir, ?_, ?_⟩
  · simp only [written, List.flatMap_map, render_notEmptyReport]
  · -- Of what the second line may remove, the first one has left nothing.
    refine eq_of_entry? removedAgain.files_eq fun other => ?_
    rcases removedAgain.entry other with same | ⟨⟨name, rfl⟩, dir, holdsNone, -⟩
    · exact same
    · exact absurd ⟨dir, holdsNone⟩ (removed.not_isEmptyAt ⟨name, rfl⟩ (apart name))
  · rw [writtenAgain, written, sameNames]

/-! ## Where the working directory is lost -/

theorem removeEveryDirectory_of_not_isDirectory
    (gone : session.files.isDirectory session.dir.current ≠ true) :
    Command.removeEveryDirectory session = .error (.list .rmdir session.dir.current) := by
  have notFound : ∀ loc, session.files.find session.dir.current .follow ≠ .ok (loc, .directory) :=
    fun loc found => gone (isDirectory_eq_true_iff.2 ⟨loc, found⟩)
  have refused : ∃ fault,
      Command.subdirectories session.files session.dir.current = .error fault := by
    unfold Command.subdirectories
    cases looked : session.files.find session.dir.current .follow with
    | error fault => exact ⟨fault, rfl⟩
    | ok result =>
      obtain ⟨loc, entry⟩ := result
      cases entry with
      | directory => exact absurd looked (notFound loc)
      | _ => exact ⟨_, rfl⟩
  obtain ⟨fault, refused⟩ := refused
  rw [Command.removeEveryDirectory, refused]

/-- The line then writes that the working directory cannot be listed. -/
theorem written_of_not_hasDirectory (lost : ¬ session.HasDirectory) :
    ∃ rest, (session.delivery sweepLine).written =
      Text.encode "rmdir: failed to list contents of '" ++ rest := by
  have ran : Command.rmdirAll.run session.recorded = .fail (.list .rmdir session.dir.current) :=
    congrArg Run.ofExcept (removeEveryDirectory_of_not_isDirectory lost)
  refine ⟨Text.encode (session.dir.current.shown ++ "': Permission denied" ++ "\n"), ?_⟩
  rw [written_sweepLine ran, ← Text.encode_append, ← String.append_assoc, ← String.append_assoc]
  exact List.append_nil _

/-- What the line writes where it finds the working directory is something else. -/
theorem encode_list_ne (names : List Name) (rest : Bytes) :
    Text.encode "rmdir: failed to list contents of '" ++ rest ≠
      names.flatMap fun name => Text.encode
        (s!"rmdir: failed to remove '{Text.decodeShown name}': Directory not empty" ++ "\n") := by
  intro same
  -- The texts differ behind `failed to`.
  have differs := congrArg (·[17]?) same
  rw [List.getElem?_append_left (by decide +kernel)] at differs
  cases names with
  | nil => exact absurd differs (by decide +kernel)
  | cons name names =>
    simp only [List.flatMap_cons, Text.encode_append, toString, List.append_assoc] at differs
    rw [List.getElem?_append_left (by decide +kernel)] at differs
    exact absurd differs (by decide +kernel)

/-- `rmdir *` removes the empty directories in the working directory, and reports the others, exactly
if the lookup of the working directory passes none of the empty ones. Without `..` in its path and in
all links it passes none. -/
theorem removesEmpty_iff
    (here : session.files.find session.dir.current .follow = .ok (loc, .directory))
    (short : ∀ name ∈ session.files.names loc,
      (session.dir.current.entry name).bytes.length ≤ maxPathLength) :
    (session.RemovesEmpty loc ↔ ∀ name, session.files.IsEmptyAt (name :: loc) →
      ¬ session.files.PassesOn session.dir.current (name :: loc)) ∧
    (.up ∉ session.dir.current.steps →
      (∀ other target, session.files.entry? other = some (.link target) → .up ∉ target.steps) →
      session.RemovesEmpty loc) := by
  have enough : (∀ name, session.files.IsEmptyAt (name :: loc) →
      ¬ session.files.PassesOn session.dir.current (name :: loc)) → session.RemovesEmpty loc :=
    fun clear => removesEmpty_of_sweepable ⟨here, short, clear⟩
  refine ⟨⟨fun removes name empty passed => ?_, enough⟩, fun noUp noUpInLinks => enough ?_⟩
  -- If the lookup passes a directory that is removed, the second line does not find the way.
  · have lost : ¬ (session.afterLine sweepLine).HasDirectory := by
      intro stays
      have keeps := (hasDirectory_afterLine_iff (isDirectory_eq_true_iff.2 ⟨loc, here⟩)).1 stays
      exact keeps _ _ acceptedCall?_sweepLine rfl _ passed
        (removes.removed.gone _ ⟨name, rfl⟩ empty)
    obtain ⟨rest, listing⟩ := written_of_not_hasDirectory lost
    obtain ⟨names, -, -, reports⟩ := removes.written
    rw [removes.writtenAgain, reports] at listing
    exact encode_list_ne names rest listing.symm
  · intro name empty passed
    obtain ⟨located, dir⟩ := find_eq_ok_iff.1 here
    have leads := (locate_eq_ok_iff.1 located).2
    have same := leads.eq_of_passes_empty dir noUp noUpInLinks empty passed
    exact List.cons_ne_self _ _ same

end Session

/-- A directory `a` with an empty directory `e`, a directory `f` that holds one, and a link to `e`. A
link `l` leads to `a`. -/
def variedDirectory : FileSystem :=
  ((((linkedDirectory.add [Text.encode "a"] (Text.encode "e") .directory).add
    [Text.encode "a"] (Text.encode "f") .directory).add
      [Text.encode "f", Text.encode "a"] (Text.encode "g") .directory).add
        [Text.encode "a"] (Text.encode "k") (.link (.ofString "e")))

theorem removesEmpty_variedDirectory :
    variedDirectory.find (.ofString "/l") .follow = .ok ([Text.encode "a"], .directory) ∧
      (⟨variedDirectory, ⟨.ofString "/l", none⟩, {}⟩ : Session).RemovesEmpty [Text.encode "a"] := by
  have here : variedDirectory.find (.ofString "/l") .follow =
      .ok ([Text.encode "a"], .directory) := by
    decide +kernel
  exact ⟨here, (Session.removesEmpty_iff here (by decide +kernel)).2 (by decide +kernel)
    (forall_link_iff.2 (by decide +kernel))⟩

/-- A directory `a` with two empty ones, `x` and `y`. A link `l` leads to it through `x`. -/
def passedDirectory : FileSystem :=
  ((oneDirectory.add [Text.encode "a"] (Text.encode "x") .directory).add
    [Text.encode "a"] (Text.encode "y") .directory).add
      [] (Text.encode "l") (.link (.ofString "a/x/.."))

/-- Where the working directory has been entered through `x`, it is lost when `x` is removed, and `y`
is left. -/
theorem not_removesEmpty_passedDirectory :
    let session := (⟨passedDirectory, ⟨.ofString "/", none⟩, {}⟩ : Session).afterLine (.taken "cd l")
    session.files.find session.dir.current .follow = .ok ([Text.encode "a"], .directory) ∧
      (∀ name ∈ session.files.names [Text.encode "a"],
        (session.dir.current.entry name).bytes.length ≤ maxPathLength) ∧
      ¬ session.RemovesEmpty [Text.encode "a"] := by
  refine ⟨by decide +kernel, by decide +kernel, fun removes => ?_⟩
  have gone := removes.removed.gone [Text.encode "y", Text.encode "a"] ⟨_, rfl⟩
    ⟨by decide +kernel, by decide +kernel⟩
  exact absurd gone (by decide +kernel)

end LineShell
