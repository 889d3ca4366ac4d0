import LineShell.Proofs.Command.Target
import LineShell.Proofs.FileSystem.CopyTree
import LineShell.Proofs.Session

/-!
# What copying does to a session

Three things that one would like a copy never to do, and exactly when it does not do them:

- a plain copy is faithful unless its two operands lead to two entries that share a file, or to an
  entry so deep that no path spells its location (`copiesFaithfully_iff`): operands are compared by
  the paths that spell where they lead, and a file that is copied to itself ends up empty;
- the copy of a tree to a place below it is refused exactly if the path of the destination begins
  with that of the source (`refusesCopyIntoItself_iff`), which is enough where there are no links;
- the copy of a tree keeps the files of its source unless it is carried out and the last event to
  write to one of them writes other bytes there (`keepsSource_iff`); it always does in a plain file
  system, between two paths that keep apart.
-/

namespace LineShell

open FileSystem (find_eq_ok_iff)

variable {session : Session} {source destination : String} {loc dest : Location} {found : Entry}

/-! ## The copy of a tree to a place below it -/

/-- The copy of a tree to a place at or below it, links followed, is refused in these words and
changes nothing. -/
def RefusesCopyIntoItself (session : Session) (source destination : String) : Prop :=
  ∀ loc dest, session.files.find (session.dir.resolve source) .follow = .ok (loc, .directory) →
    session.files.locate (session.dir.resolve destination) .follow = .ok dest → loc <:+ dest →
    (∃ failure, ((Command.cp true source destination).run session).result = .error failure ∧
      failure.message =
        s!"cp: cannot copy a directory, '{source}', into itself, '{destination}'") ∧
    (session.afterCommand (.cp true source destination)).files = session.files

/-- The words of a refusal are those of no other failure to copy. -/
private theorem message_copy_ne (source destination other : String) (why : Reason) :
    (Failure.copy other why).message ≠
      s!"cp: cannot copy a directory, '{source}', into itself, '{destination}'" := by
  have told : (Failure.copy other why).message =
      s!"cp: failed to copy '{other}': {why.message}" :=
    rfl
  rw [told]
  simp only [toString, String.append_assoc]
  -- The texts differ at their fifth letter.
  intro same
  have letters := congrArg String.toList same
  rw [String.toList_append, String.toList_append] at letters
  simp at letters

/-- A tree is not copied if the path of the destination begins with that of the source. Otherwise it
is, and where this fails, the failure says that the source could not be copied. -/
theorem run_copyDirectory_cases
    (read : session.files.find (session.dir.resolve source) .follow = .ok (loc, .directory)) :
    let copied := session.files.copyTree (session.dir.resolve source)
      (session.dir.resolve destination)
    let run := (Command.cp true source destination).run session
    ((session.dir.resolve destination).startsWith (session.dir.resolve source) = true ∧
        run = .fail (.copyIntoItself source destination)) ∨
      ((session.dir.resolve destination).startsWith (session.dir.resolve source) = false ∧
        ∃ (notes : List LogLine) (result : Except Failure Flow),
          run = ⟨copied.log.map Effect.note ++ [.store copied.files] ++ notes.map Effect.note,
            result⟩ ∧
          ∀ failure, result = .error failure → ∃ fault, failure = .copy source (.ofFault fault)) := by
  intro copied run
  have unfolded : run = Command.copyDirectory session source destination := rfl
  rw [unfolded, Command.copyDirectory, read]
  cases below : (session.dir.resolve destination).startsWith (session.dir.resolve source) with
  | true => exact .inl ⟨rfl, rfl⟩
  | false =>
    refine .inr ⟨rfl, ?_⟩
    simp only [Bool.false_eq_true, if_false]
    split
    · rename_i fault _
      refine ⟨[], _, by rw [List.map_nil, List.append_nil], ?_⟩
      rintro failure ⟨⟩
      exact ⟨fault, rfl⟩
    · exact ⟨[_], _, rfl, nofun⟩

/-- A tree is not copied if the path of the destination begins with that of the source. -/
theorem run_copyDirectory_of_startsWith
    (read : session.files.find (session.dir.resolve source) .follow = .ok (loc, .directory))
    (below : (session.dir.resolve destination).startsWith (session.dir.resolve source) = true) :
    (Command.cp true source destination).run session =
      .fail (.copyIntoItself source destination) := by
  rcases run_copyDirectory_cases read with ⟨-, refused⟩ | ⟨notBelow, -⟩
  · exact refused
  · exact absurd below (by rw [notBelow]; decide)

section CarriedOut

variable
  (read : session.files.find (session.dir.resolve source) .follow = .ok (loc, .directory))
  (notBelow : (session.dir.resolve destination).startsWith (session.dir.resolve source) = false)

include read notBelow

/-- Otherwise it is copied, and the files are those that the copy leaves, also where it fails. -/
theorem files_afterCommand_copyDirectory :
    (session.afterCommand (.cp true source destination)).files =
      (session.files.copyTree (session.dir.resolve source)
        (session.dir.resolve destination)).files := by
  rcases run_copyDirectory_cases read with ⟨below, -⟩ | ⟨-, notes, result, ran, -⟩
  · exact absurd below (by rw [notBelow]; decide)
  · rw [Session.afterCommand, ran, Session.afterAll_append, Session.afterAll_append,
      Session.afterAll_notes, Session.afterAll_notes]
    rfl

/-- A copy that is carried out is not refused, whatever else it reports. -/
theorem message_copyDirectory_ne {failure : Failure}
    (failed : ((Command.cp true source destination).run session).result = .error failure) :
    failure.message ≠
      s!"cp: cannot copy a directory, '{source}', into itself, '{destination}'" := by
  rcases run_copyDirectory_cases read with ⟨below, -⟩ | ⟨-, notes, result, ran, reported⟩
  · exact absurd below (by rw [notBelow]; decide)
  · rw [ran] at failed
    obtain ⟨fault, rfl⟩ := reported failure failed
    exact message_copy_ne source destination source _

end CarriedOut

/-- The copy of a tree to a place at or below it is refused exactly if the path of the destination
begins with that of the source. Where there are no links, it always is. -/
theorem refusesCopyIntoItself_iff (session : Session) (source destination : String) :
    (RefusesCopyIntoItself session source destination ↔
      ∀ loc dest,
        session.files.find (session.dir.resolve source) .follow = .ok (loc, .directory) →
        session.files.locate (session.dir.resolve destination) .follow = .ok dest →
        loc <:+ dest →
        (session.dir.resolve destination).startsWith (session.dir.resolve source) = true) ∧
    (session.dir.current.isAbsolute = true →
      (∀ loc target, session.files.entry? loc ≠ some (.link target)) →
      RefusesCopyIntoItself session source destination) := by
  -- If the guard sees all such destinations, they are refused before anything is done.
  have complete : (∀ loc dest,
      session.files.find (session.dir.resolve source) .follow = .ok (loc, .directory) →
      session.files.locate (session.dir.resolve destination) .follow = .ok dest → loc <:+ dest →
      (session.dir.resolve destination).startsWith (session.dir.resolve source) = true) →
      RefusesCopyIntoItself session source destination := by
    intro guarded loc dest read located inside
    have refused := run_copyDirectory_of_startsWith read (guarded loc dest read located inside)
    rw [Session.afterCommand, refused]
    exact ⟨⟨_, rfl, rfl⟩, rfl⟩
  refine ⟨⟨?_, complete⟩, ?_⟩
  · intro refuses loc dest read located inside
    by_contra notBelow
    rw [Bool.not_eq_true] at notBelow
    obtain ⟨⟨failure, failed, told⟩, -⟩ := refuses loc dest read located inside
    exact message_copyDirectory_ne read notBelow failed told
  · intro absolute noLink
    -- Without links both paths lead to the locations that they spell.
    refine complete fun loc dest read located inside => ?_
    obtain ⟨sourceLoc, sourceSteps, spelledSource⟩ :=
      exists_resolve_eq_ofLocation absolute source
    obtain ⟨destLoc, destSteps, spelledDest⟩ :=
      exists_resolve_eq_ofLocation absolute destination
    rw [spelledSource] at read
    rw [spelledDest] at located
    have here := FileSystem.eq_of_locate_ofLocation noLink sourceSteps (find_eq_ok_iff.1 read).1
    have there := FileSystem.eq_of_locate_ofLocation noLink destSteps located
    rw [spelledSource, spelledDest, Path.startsWith_ofLocation destSteps sourceSteps, ← here,
      ← there]
    exact inside

/-- A directory `a` with a file `f`. -/
def smallTree : Session where
  files := (FileSystem.empty.add [] (Text.encode "a") .directory).addFile [Text.encode "a"]
    (Text.encode "f") ⟨Text.encode "keep", false⟩
  dir := ⟨.ofString "/", none⟩
  history := {}

theorem files_copyIntoItself_smallTree :
    (smallTree.afterCommand (.cp true "a" "a/b")).files = smallTree.files := by
  have plain : smallTree.files.IsPlain := by decide +kernel
  have absolute : smallTree.dir.current.isAbsolute = true := by decide +kernel
  have read : smallTree.files.find (smallTree.dir.resolve "a") .follow =
      .ok ([Text.encode "a"], .directory) := by
    decide +kernel
  have located : smallTree.files.locate (smallTree.dir.resolve "a/b") .follow =
      .ok [Text.encode "b", Text.encode "a"] := by
    decide +kernel
  have refuses := (refusesCopyIntoItself_iff smallTree "a" "a/b").2 absolute plain.noLink
  exact (refuses _ _ read located (List.suffix_cons _ _)).2

/-- The same directory with a link `l` to it beside it. -/
def linkedTree : Session :=
  { smallTree with files := smallTree.files.add [] (Text.encode "l") (.link (.ofString "a")) }

/-- The path of a link to a directory does not begin with that of the directory. -/
theorem not_refusesCopyIntoItself_linkedTree : ¬ RefusesCopyIntoItself linkedTree "a" "l" := by
  intro refuses
  have read : linkedTree.files.find (linkedTree.dir.resolve "a") .follow =
      .ok ([Text.encode "a"], .directory) := by
    decide +kernel
  have located : linkedTree.files.locate (linkedTree.dir.resolve "l") .follow =
      .ok [Text.encode "a"] := by
    decide +kernel
  have carriedOut : (linkedTree.dir.resolve "l").startsWith (linkedTree.dir.resolve "a") =
      false := by
    decide +kernel
  obtain ⟨⟨failure, failed, told⟩, -⟩ := refuses _ _ read located (List.suffix_refl _)
  exact message_copyDirectory_ne read carriedOut failed told

/-! ## The copy of a file -/

/-- A plain copy that succeeds, to anything but the device, makes its destination read as its source
did, leaves what its source reads as, and changes nothing but the file at the destination. -/
def CopiesFaithfully (session : Session) (source destination : String) : Prop :=
  let after := (session.afterCommand (.cp false source destination)).files
  let sourcePath := session.dir.resolve source
  let destinationPath := session.dir.resolve destination
  (∀ loc, session.files.find destinationPath .follow ≠ .ok (loc, .nullDevice)) →
    ((Command.cp false source destination).run session).result = .ok .next →
    ∃ bytes, session.files.read sourcePath = .ok bytes ∧ after.read destinationPath = .ok bytes ∧
      after.read sourcePath = .ok bytes ∧
      ∀ loc, after.sight? loc ≠ session.files.sight? loc → ∃ dest id,
        after.find destinationPath .follow = .ok (dest, .file id) ∧
        after.entry? loc = some (.file id)

/-- Two operands lead to a file which is not empty, by two entries that share it, or by one so deep
that the path which spells its location is too long. -/
def ShareFile (session : Session) (source destination : String) : Prop :=
  ∃ loc dest id, (loc = dest → FileSystem.checkPath (.ofLocation loc) ≠ .ok ()) ∧
    session.files.find (session.dir.resolve source) .follow = .ok (loc, .file id) ∧
    session.files.find (session.dir.resolve destination) .follow = .ok (dest, .file id) ∧
    (session.files.file id).data ≠ []

/-- What a plain copy that succeeds has done. -/
private theorem exists_of_run_copyFile
    (h : ((Command.cp false source destination).run session).result = .ok .next) :
    ∃ later size, session.files.copyFile (session.dir.resolve source)
        (session.dir.resolve destination) = .ok (later, size) ∧
      session.files.sameFile (session.dir.resolve source) (session.dir.resolve destination) =
        false ∧
      (session.afterCommand (.cp false source destination)).files = later := by
  obtain ⟨done, ran, runs⟩ | ⟨failure, -, runs⟩ :=
    Command.ofWork_cases (Command.allOrNothing_copyFile session.dir source destination) session.files
  · obtain ⟨_, _, size, later, -, -, -, different, copied, rfl⟩ :=
      Command.run_copyFile_eq_ok_iff.1 ran
    refine ⟨later, size, copied, different, ?_⟩
    rw [Session.afterCommand, Command.run, runs]
    rfl
  · rw [Command.run, runs] at h
    cases h

/-- A plain copy to a file is carried out if the two operands are not seen to lead to one entry. -/
private theorem run_copyFile {id other : FileId}
    (read : session.files.find (session.dir.resolve source) .follow = .ok (loc, .file id))
    (met : session.files.find (session.dir.resolve destination) .follow = .ok (dest, .file other))
    (different : loc = dest → FileSystem.checkPath (.ofLocation loc) ≠ .ok ()) :
    ((Command.cp false source destination).run session).result = .ok .next ∧
      (session.afterCommand (.cp false source destination)).files =
        (session.files.overwrite id other).1 := by
  have notDir : session.files.isDirectory (session.dir.resolve destination) = false := by
    simp [FileSystem.isDirectory, met]
  have notSame : session.files.sameFile (session.dir.resolve source)
      (session.dir.resolve destination) = false := by
    rw [Bool.eq_false_iff, Ne, FileSystem.sameFile_eq_true_iff]
    rintro ⟨here, canonical, canonicalDest⟩
    obtain ⟨⟨_, led⟩, checked⟩ := FileSystem.canonical_eq_ok_iff.1 canonical
    obtain ⟨⟨_, ledDest⟩, -⟩ := FileSystem.canonical_eq_ok_iff.1 canonicalDest
    cases read.symm.trans led
    cases met.symm.trans ledDest
    exact different rfl checked
  have located := FileSystem.locate_write_of_find_follow met (by simp)
  have copied : session.files.copyFile (session.dir.resolve source)
      (session.dir.resolve destination) = .ok (session.files.overwrite id other) := by
    simp [FileSystem.copyFile, read, located, (find_eq_ok_iff.1 met).2, bind, Except.bind]
  have runs : ∃ line, (Command.cp false source destination).run session =
      .done [.store (session.files.overwrite id other).1, .note line] :=
    ⟨_, Command.ofWork_of_ok <| Command.run_copyFile_eq_ok_iff.2
      ⟨loc, _, _, _, read, by simp, notDir, notSame, copied, rfl⟩⟩
  obtain ⟨line, runs⟩ := runs
  rw [Session.afterCommand, runs]
  exact ⟨rfl, rfl⟩

/-- What a path that leads to a file reads as. -/
private theorem read_of_find {fs : FileSystem} {path : Path} {id : FileId}
    (h : fs.find path .follow = .ok (loc, .file id)) : fs.read path = .ok (fs.file id).data := by
  rw [FileSystem.find] at h
  simp [FileSystem.read, FileSystem.readFrom, h, bind, Except.bind]

section CopyFile

variable {fs later : FileSystem} {item target : Path} {id : FileId} {size : Nat}

/-- A file that has been copied, not to itself, reads the same where it came from and where it
went, and nothing but the file there is seen otherwise than before. -/
private theorem copyFile_faithful (copied : fs.copyFile item target = .ok (later, size))
    (read : fs.find item .follow = .ok (loc, .file id))
    (noDevice : ∀ dest, fs.find target .follow ≠ .ok (dest, .nullDevice))
    (unshared : ∀ dest, fs.find target .follow = .ok (dest, .file id) → (fs.file id).data = []) :
    later.read target = .ok (fs.file id).data ∧ later.read item = .ok (fs.file id).data ∧
      ∀ other, later.sight? other ≠ fs.sight? other → ∃ dest id,
        later.find target .follow = .ok (dest, .file id) ∧ later.entry? other = some (.file id) := by
  have ext := FileSystem.extends_copyFile copied
  have inFiles := FileSystem.lt_size_of_entry (find_eq_ok_iff.1 read).2
  obtain ⟨sourceLoc, source, dest, read', located, outcome⟩ := FileSystem.exists_of_copyFile copied
  obtain ⟨rfl, rfl⟩ : sourceLoc = loc ∧ source = id := by
    rw [read] at read'
    cases read'
    exact ⟨rfl, rfl⟩
  -- The source leads where it led, whatever has been written.
  have readLater := read_of_find (ext.find read)
  rcases outcome with ⟨name, parent, rfl, vacant, rfl⟩ | ⟨other, met, rfl⟩ | ⟨met, -⟩
  · -- A file has been made where the destination leads.
    have place := FileSystem.isPlace_of_locate located
    have entries := FileSystem.entry?_addFile place vacant (fs.file source)
    have stands := entries (name :: parent)
    rw [if_pos rfl] at stands
    obtain ⟨checked, leads⟩ := FileSystem.locate_eq_ok_iff.1 located
    have found := FileSystem.find_follow_of_locate_write (FileSystem.locate_eq_ok_iff.2
      ⟨checked, leads.extend ext fun _ path link => by simp [stands] at link⟩) stands
    refine ⟨?_, ?_, ?_⟩
    · rw [read_of_find found, FileSystem.file_addFile_self]
    · rw [readLater, FileSystem.file_addFile inFiles]
    · intro other changed
      refine ⟨_, _, found, ?_⟩
      rw [FileSystem.sight?_addFile place vacant] at changed
      split_ifs at changed with here
      · rw [here, stands]
      · exact absurd rfl changed
  · -- The file that the destination leads to has been overwritten.
    have metBefore := FileSystem.find_follow_of_locate_write located met
    have files := FileSystem.file_overwrite (FileSystem.lt_size_of_entry met) source
    -- A file that is copied to itself is emptied, which only an empty one does not show.
    have written : fs.overwritingBytes source other = (fs.file source).data := by
      unfold FileSystem.overwritingBytes
      split_ifs with same
      · subst same
        exact (unshared dest metBefore).symm
      · rfl
    refine ⟨?_, ?_, ?_⟩
    · rw [read_of_find (ext.find metBefore), files, if_pos rfl, written]
    · rw [readLater, files, written]
      split_ifs <;> rfl
    · intro here changed
      refine ⟨dest, other, ext.find metBefore, ?_⟩
      by_contra different
      refine changed (FileSystem.sight?_congr rfl fun id names => ?_)
      have notOther : id ≠ other := by
        rintro rfl
        exact different names
      rw [files, if_neg notOther]
  · exact absurd (FileSystem.find_follow_of_locate_write located met) (noDevice dest)

end CopyFile

/-- A plain copy is faithful exactly if its operands do not lead to a file which is not empty, by two
entries that share it, or by one that lies too deep. -/
theorem copiesFaithfully_iff (session : Session) (source destination : String) :
    CopiesFaithfully session source destination ↔ ¬ ShareFile session source destination := by
  constructor
  · rintro faithful ⟨loc, dest, id, different, read, met, notEmpty⟩
    obtain ⟨result, files⟩ := run_copyFile read met different
    have noDevice : ∀ loc, session.files.find (session.dir.resolve destination) .follow ≠
        .ok (loc, .nullDevice) := by
      intro loc device
      rw [met] at device
      cases device
    obtain ⟨bytes, before, -, after, -⟩ := faithful noDevice result
    -- The file has been emptied before it was read.
    rw [files, read_of_find (FileSystem.extends_overwrite.find read),
      FileSystem.file_overwrite (FileSystem.lt_size_of_entry (find_eq_ok_iff.1 read).2),
      if_pos rfl, FileSystem.overwritingBytes, if_pos rfl] at after
    rw [read_of_find read] at before
    exact notEmpty (Except.ok.inj (before.trans after.symm))
  · intro unshared noDevice result
    obtain ⟨later, size, copied, notSame, files⟩ := exists_of_run_copyFile result
    obtain ⟨loc, id, -, read, -, -⟩ := FileSystem.exists_of_copyFile copied
    have apart : ∀ dest, session.files.find (session.dir.resolve destination) .follow =
        .ok (dest, .file id) → (session.files.file id).data = [] := by
      intro dest met
      by_contra notEmpty
      -- If they were seen to lead to the same location, the copy would have been refused.
      refine unshared ⟨loc, dest, id, ?_, read, met, notEmpty⟩
      rintro rfl checked
      rw [FileSystem.sameFile_eq_true_iff.2 ⟨loc, FileSystem.canonical_eq_ok_iff.2 ⟨⟨_, read⟩, checked⟩,
        FileSystem.canonical_eq_ok_iff.2 ⟨⟨_, met⟩, checked⟩⟩] at notSame
      cases notSame
    obtain ⟨readDestination, readSource, kept⟩ := copyFile_faithful copied read noDevice apart
    rw [← files] at readDestination readSource kept
    exact ⟨_, read_of_find read, readDestination, readSource, kept⟩

/-- Two entries `a` and `b` of one file. -/
def sharedFile : Session where
  files := (FileSystem.empty.addFile [] (Text.encode "a") ⟨Text.encode "keep", false⟩).add []
    (Text.encode "b") (.file 0)
  dir := ⟨.ofString "/", none⟩
  history := {}

/-- Two entries of a file are at different locations, so the file is copied to itself. -/
theorem not_copiesFaithfully_sharedFile : ¬ CopiesFaithfully sharedFile "a" "b" := by
  intro faithful
  have met : sharedFile.files.find (sharedFile.dir.resolve "b") .follow =
      .ok ([Text.encode "b"], .file 0) := by
    decide +kernel
  obtain ⟨bytes, before, -, after, -⟩ := faithful
    (fun loc device => by
      rw [met] at device
      cases device)
    (by decide +kernel)
  have kept : sharedFile.files.read (sharedFile.dir.resolve "a") = .ok (Text.encode "keep") := by
    decide +kernel
  have emptied : (sharedFile.afterCommand (.cp false "a" "b")).files.read
      (sharedFile.dir.resolve "a") = .ok [] := by
    decide +kernel
  rw [kept] at before
  rw [emptied] at after
  cases before.trans after.symm

/-! ## The source of a tree's copy -/

/-- The copy of a tree, whether it succeeds or fails, keeps every file below its source, links not
followed: it stands where it stood and has the same bytes. -/
def KeepsSource (session : Session) (source destination : String) : Prop :=
  let after := (session.afterCommand (.cp true source destination)).files
  ∀ loc found, session.files.find (session.dir.resolve source) .follow = .ok (loc, found) →
    ∀ way id, session.files.entry? (way ++ loc) = some (.file id) →
      ∃ later, after.entry? (way ++ loc) = some (.file later) ∧
        (after.file later).data = (session.files.file id).data

/-- A copy that is not carried out changes nothing. -/
private theorem files_afterCommand_eq
    (h : ∀ loc, session.files.find (session.dir.resolve source) .follow = .ok (loc, .directory) →
      (session.dir.resolve destination).startsWith (session.dir.resolve source) = true) :
    (session.afterCommand (.cp true source destination)).files = session.files := by
  rw [Session.afterCommand, Command.run, Command.copyDirectory]
  simp only
  split
  · rfl
  · rename_i loc read
    rw [if_pos (h loc read)]
    rfl
  · rfl

/-- After the events of a copy each file that was there before stands where it stood, and has the
bytes that were written to it last. -/
private theorem replay_file {fs : FileSystem} {events : List CopyEvent} {id : FileId}
    (stands : fs.entry? loc = some (.file id)) :
    FileSystem.entry? (CopyEvent.replay fs events) loc = some (.file id) ∧
      ((CopyEvent.replay fs events).file id).data =
        (CopyEvent.lastWritten? id fs events).getD (fs.file id).data :=
  ⟨(CopyEvent.extends_replay fs events).entry stands,
    CopyEvent.data_replay (FileSystem.lt_size_of_entry stands)⟩

/-- The copy of a tree keeps the files of its source exactly if it is not carried out, or if the
last event to write to such a file, if there is one, writes the bytes that the file had. -/
private theorem keepsSource_iff_lastWritten :
    KeepsSource session source destination ↔
      (session.dir.resolve destination).startsWith (session.dir.resolve source) = true ∨
      ∀ loc, session.files.find (session.dir.resolve source) .follow = .ok (loc, .directory) →
        ∀ way id, session.files.entry? (way ++ loc) = some (.file id) →
          ∀ bytes ∈ CopyEvent.lastWritten? id session.files
            (session.files.copyTree (session.dir.resolve source)
              (session.dir.resolve destination)).events,
          bytes = (session.files.file id).data := by
  cases below : (session.dir.resolve destination).startsWith (session.dir.resolve source) with
  | true =>
    refine iff_of_true ?_ (.inl rfl)
    intro loc found read way id stands
    rw [files_afterCommand_eq fun _ _ => below]
    exact ⟨id, stands, rfl⟩
  | false =>
    rw [or_iff_right Bool.false_ne_true]
    constructor
    · -- The file's entry stays, so what it holds now is what was written to it last.
      intro keeps loc read way id stands bytes last
      obtain ⟨later, standsLater, data⟩ := keeps loc .directory read way id stands
      rw [files_afterCommand_copyDirectory read below, FileSystem.files_copyTree] at standsLater data
      obtain ⟨stays, written⟩ := replay_file stands
      cases stays.symm.trans standsLater
      rw [Option.mem_def] at last
      rw [written, last, Option.getD_some] at data
      exact data
    · intro written loc found read way id stands
      by_cases dir : found = .directory
      · subst dir
        rw [files_afterCommand_copyDirectory read below, FileSystem.files_copyTree]
        obtain ⟨stays, last⟩ := replay_file stands
        refine ⟨id, stays, last.trans ?_⟩
        cases wrote : CopyEvent.lastWritten? id session.files
            (session.files.copyTree (session.dir.resolve source)
              (session.dir.resolve destination)).events with
        | none => rfl
        | some bytes => exact written loc read way id stands bytes wrote
      · have unchanged : (session.afterCommand (.cp true source destination)).files =
            session.files := by
          refine files_afterCommand_eq fun other readDir => ?_
          rw [read] at readDir
          cases readDir
          exact absurd rfl dir
        rw [unchanged]
        exact ⟨id, stands, rfl⟩

/-- In a plain file system a copy between two paths that keep apart does not touch its source. -/
private theorem keepsSource_of_copyable (setting : session.files.Copyable
    (session.dir.resolve source) (session.dir.resolve destination)) :
    KeepsSource session source destination := by
  intro loc found read way id stands
  obtain ⟨located, there⟩ := find_eq_ok_iff.1 read
  have located' : session.files.locate
      (.ofLocation (session.dir.resolve source).location) .follow = .ok loc := by
    rwa [← setting.eq_source]
  have spelled : loc = (session.dir.resolve source).location :=
    FileSystem.eq_of_locate_ofLocation setting.plain.noLink setting.isStep_source located'
  subst spelled
  have dir : found = .directory := Option.some.inj (there.symm.trans setting.directory)
  subst dir
  rw [files_afterCommand_copyDirectory read setting.destination_apart]
  have outside : ¬ (session.dir.resolve destination).location <:+
      way ++ (session.dir.resolve source).location := by
    rintro ⟨below, same⟩
    exact setting.apart way below same.symm
  have seen := setting.sight?_copyTree outside
  rw [FileSystem.sight?_of_entry stands] at seen
  obtain ⟨later, standsLater, same⟩ := FileSystem.sight?_eq_file_iff.1 seen
  exact ⟨later, standsLater, congrArg File.data same⟩

/-- The copy of a tree keeps the files of its source exactly if it is not carried out, or if the
last event to write to such a file, if there is one, writes the bytes that the file had. This is
always so in a plain file system, between two paths that keep apart. -/
theorem keepsSource_iff (session : Session) (source destination : String) :
    (KeepsSource session source destination ↔
      (session.dir.resolve destination).startsWith (session.dir.resolve source) = true ∨
      ∀ loc, session.files.find (session.dir.resolve source) .follow = .ok (loc, .directory) →
        ∀ way id, session.files.entry? (way ++ loc) = some (.file id) →
          ∀ bytes ∈ CopyEvent.lastWritten? id session.files
            (session.files.copyTree (session.dir.resolve source)
              (session.dir.resolve destination)).events,
          bytes = (session.files.file id).data) ∧
    (session.files.Copyable (session.dir.resolve source) (session.dir.resolve destination) →
      KeepsSource session source destination) :=
  ⟨keepsSource_iff_lastWritten, keepsSource_of_copyable⟩

theorem keepsSource_smallTree :
    smallTree.files.Copyable (smallTree.dir.resolve "a") (smallTree.dir.resolve "b") ∧
      KeepsSource smallTree "a" "b" := by
  have setting :
      smallTree.files.Copyable (smallTree.dir.resolve "a") (smallTree.dir.resolve "b") := by
    decide +kernel
  exact ⟨setting, (keepsSource_iff smallTree "a" "b").2 setting⟩

/-- A directory `s` with a file `a`, and a directory `d` whose entry `a` is a link to that file. -/
def linkedFile : Session where
  files :=
    let s := Text.encode "s"
    let d := Text.encode "d"
    let a := Text.encode "a"
    let directories := (FileSystem.empty.add [] s .directory).add [] d .directory
    (directories.addFile [s] a ⟨Text.encode "keep", false⟩).add [d] a (.link (.ofString "../s/a"))
  dir := ⟨.ofString "/", none⟩
  history := {}

/-- A file is copied over the link that leads to it. -/
theorem not_keepsSource_linkedFile : ¬ KeepsSource linkedFile "s" "d" := by
  intro keeps
  have read : linkedFile.files.find (linkedFile.dir.resolve "s") .follow =
      .ok ([Text.encode "s"], .directory) := by
    decide +kernel
  obtain ⟨later, stands, data⟩ := keeps _ _ read [Text.encode "a"] 0 (by decide +kernel)
  have standsThere : FileSystem.entry? (linkedFile.afterCommand (.cp true "s" "d")).files
      [Text.encode "a", Text.encode "s"] = some (.file 0) := by
    decide +kernel
  have same : later = 0 := by
    have both := stands.symm.trans standsThere
    cases both
    rfl
  have emptied : ((linkedFile.afterCommand (.cp true "s" "d")).files.file 0).data = [] := by
    decide +kernel
  rw [same, emptied] at data
  exact absurd data (by decide +kernel)

end LineShell
