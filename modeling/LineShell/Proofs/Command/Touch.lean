import LineShell.Proofs.FileSystem.NewEntry
import LineShell.Proofs.Output
import LineShell.Proofs.WorkingDirectory

/-!
# What a silent `touch` says

`touch` makes a file, or it finds that it cannot make one because an entry is there already, and both
is silent. The second case looks at the entry itself: a link that leads to nothing is there, and `touch`
says nothing though there is still nothing to be read. In all other cases something is reached after a
silent `touch` (`ensuresEntry_iff`): what was reached before, as it was, or a new empty file.

The entry is told from other obstacles by the kind of the fault. No lookup fails with that kind
(`kind_ne_of_locate`), so that it means that an entry has been found
(`exists_createFile_alreadyExists_iff`).
-/

namespace LineShell

namespace FileSystem

open LineShell.Path (Step)

variable {fs : FileSystem} {last : LastStep} {links : Nat} {loc dest : Location}
  {steps : List Step} {path : Path} {found : Entry} {fault : Fault}

/-! ## What stands in the way of a new entry -/

/-- A walk does not fail for an entry that is there already, unless it does so from a link on. -/
theorem kind_ne_of_walk {jump : Location → List Step → Except Fault Location}
    (hjump : ∀ start steps fault, jump start steps = .error fault → fault.kind ≠ .alreadyExists)
    (h : fs.walk last jump loc steps = .error fault) : fault.kind ≠ .alreadyExists := by
  induction steps generalizing loc with
  | nil => cases h
  | cons step rest ih =>
    -- What a walk is refused for has always another kind.
    have refused : ∀ kind : Fault.Kind, kind ≠ .alreadyExists →
        (Except.error (.refused kind) : Except Fault Location) = .error fault →
        fault.kind ≠ .alreadyExists := by
      rintro kind other ⟨⟩
      exact other
    rw [walk.eq_def] at h
    simp only at h
    split at h
    · exact refused _ (by simp) h
    · cases step with
      | empty => exact ih h
      | here => exact ih h
      | up => exact ih h
      | down name =>
        simp only at h
        split at h
        · exact refused _ (by simp) h
        split at h
        · exact refused _ (by simp) h
        split at h
        · split_ifs at h
          exact refused _ (by simp) h
        · split at h
          · cases h
          · exact hjump _ _ _ h
        · exact ih h
    · exact refused _ (by simp) h

theorem kind_ne_of_walkLinks (h : fs.walkLinks last links loc steps = .error fault) :
    fault.kind ≠ .alreadyExists := by
  -- A walk that goes on from a link is one with fewer links to follow.
  induction links generalizing loc steps fault with
  | zero =>
    refine kind_ne_of_walk (fun start steps fault tooMany => ?_) h
    cases tooMany
    simp [Fault.kind]
  | succ links ih => exact kind_ne_of_walk (fun start steps fault onward => ih onward) h

/-- A lookup does not fail for an entry that is there already. -/
theorem kind_ne_of_locate (h : fs.locate path last = .error fault) :
    fault.kind ≠ .alreadyExists := by
  unfold locate locateFrom at h
  cases checked : checkPath path with
  | error other =>
    rw [checked] at h
    cases h
    unfold checkPath at checked
    split_ifs at checked
    all_goals
      cases checked
      simp [Fault.kind, Fault.zeroByte]
  | ok _ =>
    rw [checked] at h
    exact kind_ne_of_walkLinks h

/-- What keeps a file from being made because it is there already is an entry under the same path. -/
theorem exists_createFile_alreadyExists_iff (fs : FileSystem) (path : Path) :
    (∃ fault, fs.createFile path = .error fault ∧ fault.kind = .alreadyExists) ↔
      ∃ loc found, fs.find path .keep = .ok (loc, found) := by
  simp only [find_eq_ok_iff]
  cases located : fs.locate path .keep with
  | error fault =>
    have fails : fs.createFile path = .error fault := by
      simp [createFile, located, bind, Except.bind]
    simp [fails, kind_ne_of_locate located]
  | ok loc =>
    cases stands : fs.entry? loc with
    | none =>
      have made : ∃ later, fs.createFile path = .ok later := by
        -- The root is never vacant.
        cases loc with
        | nil => cases stands
        | cons name parent =>
          exact ⟨_, createFile_eq_ok_iff.2 ⟨name, parent, located, stands, rfl⟩⟩
      obtain ⟨later, made⟩ := made
      simp [made, stands]
    | some found =>
      have fails : fs.createFile path = .error (.refused .alreadyExists) := by
        simp [createFile, located, bind, Except.bind, stands]
      simp [fails, stands, Fault.kind]

/-! ## Links at the end of a path -/

/-- A walk that keeps a link at its end leads to the same entry as one that follows it, unless there is
a link. -/
theorem Leads.follow_of_keep (h : fs.Leads .keep links loc steps dest)
    (stands : fs.entry? dest = some found) (notLink : ∀ target, found ≠ .link target) :
    fs.Leads .follow links loc steps dest := by
  have allowed : ∀ rest, ¬ IsSlashRefused .follow rest := by simp [IsSlashRefused]
  -- The two walks could part only at a link at the end.
  induction h with
  | done => exact .done
  | stay dir still _ ih => exact .stay dir still (ih stands)
  | up dir _ ih => exact .up dir (ih stands)
  | vacant _ _ missing => cases missing.symm.trans stands
  | keep _ link _ => exact absurd (Option.some.inj (stands.symm.trans link)) (notLink _)
  | follow dir _ link _ _ ih => exact .follow dir (allowed _) link (by simp) (ih stands)
  | down dir _ there other _ ih => exact .down dir (allowed _) there other (ih stands)

/-- A walk that follows links does not end at one, unless it starts there. -/
theorem Leads.entry?_ne_link (h : fs.Leads .follow links loc steps dest)
    (start : ∀ target, fs.entry? loc ≠ some (.link target)) :
    ∀ target, fs.entry? dest ≠ some (.link target) := by
  induction h with
  | done => exact start
  | stay _ _ _ ih => exact ih start
  | @up links loc dest rest dir _ ih =>
    apply ih
    cases loc with
    | nil => simp
    | cons name parent => simp [entry?_parent dir]
  | vacant _ _ missing => simp [missing]
  | keep _ _ kept => cases kept
  | follow dir _ _ _ _ ih =>
    apply ih
    split_ifs
    · simp
    · simp [dir]
  | down _ _ there notLink _ ih =>
    apply ih
    rw [there]
    simpa using notLink

/-- A path that leads to something leads to no link when all links are followed. -/
theorem ne_link_of_find_follow (h : fs.find path .follow = .ok (loc, found)) (target : Path) :
    found ≠ .link target := by
  obtain ⟨located, stands⟩ := find_eq_ok_iff.1 h
  have notLink := (locate_eq_ok_iff.1 located).2.entry?_ne_link (by simp) target
  rw [stands] at notLink
  simpa using notLink

/-- Under the path there is a link, and it leads to nothing. -/
def IsDangling (fs : FileSystem) (path : Path) : Prop :=
  (∃ loc target, fs.find path .keep = .ok (loc, .link target)) ∧ fs.isPresent path = false

/-- Something is reached from every entry but a link that leads to nothing. -/
theorem isPresent_of_find_keep (h : fs.find path .keep = .ok (loc, found))
    (notDangling : ¬ fs.IsDangling path) : fs.isPresent path = true := by
  obtain ⟨located, stands⟩ := find_eq_ok_iff.1 h
  obtain ⟨checked, leads⟩ := locate_eq_ok_iff.1 located
  by_cases link : ∃ target, found = .link target
  · obtain ⟨target, rfl⟩ := link
    by_contra missing
    exact notDangling ⟨⟨loc, target, h⟩, eq_false_of_ne_true missing⟩
  · have followed := leads.follow_of_keep stands (not_exists.1 link)
    exact isPresent_eq_true_iff.2
      ⟨loc, found, find_eq_ok_iff.2 ⟨locate_eq_ok_iff.2 ⟨checked, followed⟩, stands⟩⟩

/-- What is there can be read, unless it is a directory. -/
theorem kind_of_read (there : fs.isPresent path = true) (h : fs.read path = .error fault) :
    fault.kind = .isADirectory := by
  obtain ⟨loc, found, led⟩ := isPresent_eq_true_iff.1 there
  have led : fs.findFrom [] path .follow = .ok (loc, found) := led
  unfold read readFrom at h
  rw [led] at h
  cases found with
  | directory =>
    cases h
    rfl
  | _ => cases h

end FileSystem

open FileSystem

namespace Command

variable {session : Session} {operand : String}

/-- `touch` makes a file, or it finds an entry and does nothing, or it fails. -/
theorem run_touch_cases (session : Session) (operand : String) :
    let path := session.dir.resolve operand
    (∃ made line, session.files.createFile path = .ok made ∧
        (touch operand).run session = .done [.store made, .note line]) ∨
      (∃ result line, session.files.find path .keep = .ok result ∧
        (touch operand).run session = .done [.note line]) ∨
      ∃ failure, (∀ result, session.files.find path .keep ≠ .ok result) ∧
        (touch operand).run session = .fail failure := by
  intro path
  have looked := session.files.exists_createFile_alreadyExists_iff path
  rw [run, Run.ofWork, run_createFile]
  cases done : session.files.createFile path with
  | ok made =>
    simp only [path]
    exact .inl ⟨made, _, rfl, rfl⟩
  | error fault =>
    simp only [path]
    -- The kind of the fault tells whether an entry is there.
    by_cases there : fault.kind = .alreadyExists
    · obtain ⟨loc, found, named⟩ := looked.1 ⟨fault, done, there⟩
      rw [if_pos there]
      exact .inr (.inl ⟨(loc, found), _, named, rfl⟩)
    · rw [if_neg there]
      refine .inr (.inr ⟨_, fun result named => ?_, rfl⟩)
      obtain ⟨other, failed, same⟩ := looked.2 ⟨result.1, result.2, named⟩
      cases done.symm.trans failed
      exact there same

/-- `cat` does not miss what is there. -/
theorem report_notMem_printFile (session : Session) (operand : String)
    (there : session.files.isPresent (session.dir.resolve operand) = true) :
    .report (.failed (.read operand .noSuchEntry)) ∉ segments (printFile session operand) := by
  intro reported
  have mem := mem_segments_iff.1 reported
  obtain ⟨contents, -, shown⟩ | ⟨fault, failed, shown⟩ := printFile_cases session operand
  · simp [shown] at mem
  · have why : Reason.ofReading fault = .unreadable := by
      rw [Reason.ofReading, kind_of_read there failed]
    simp [shown, why, Failure.reported] at mem

end Command

namespace Session

/-- After a line that is to make a file under the path of an operand, something is there. -/
structure EnsuresEntry (session : Session) (palette : Palette) (text operand : String) : Prop where
  /-- The path leads to something, with all links followed. -/
  reached : ∃ loc found, (session.afterLine (.whole palette text)).files.find
    (session.dir.resolve operand) .follow = .ok (loc, found) ∧ ∀ target, found ≠ .link target
  /-- If it has led to something before, nothing has changed. -/
  kept : session.files.isPresent (session.dir.resolve operand) = true →
    (session.afterLine (.whole palette text)).files = session.files
  /-- Otherwise an empty file is there. -/
  made : session.files.isPresent (session.dir.resolve operand) = false →
    ∃ loc id, (session.afterLine (.whole palette text)).files.find
        (session.dir.resolve operand) .follow = .ok (loc, .file id) ∧
      (session.afterLine (.whole palette text)).files.file id = ⟨[], false⟩
  /-- The line `cat` with the operand does not report that there is no such entry. -/
  readable : ∀ next, Text.words next = ["cat", operand] →
    .report (.failed (.read operand .noSuchEntry)) ∉
      segments ((session.afterLine (.whole palette text)).reply next).effects

variable {session : Session} {text operand : String}

/-- `cat` does not miss what is there. -/
theorem report_notMem_cat (there : session.files.isPresent (session.dir.resolve operand) = true)
    (calls : Text.words text = ["cat", operand]) :
    .report (.failed (.read operand .noSuchEntry)) ∉ segments (session.reply text).effects := by
  have accepted := acceptedCall?_of_words .cat calls rfl
  let recorded := session.after (.record (Invocation.normalized ⟨"cat", [operand]⟩))
  have printed : ((Command.cat [operand]).run recorded).effects =
      Command.printFile recorded operand := List.flatMap_singleton _ _
  rw [reply_of_accepted accepted, segments_carryOut]
  show _ ∉ segments ((Command.cat [operand]).run recorded).effects ++ []
  rw [printed, List.append_nil]
  exact Command.report_notMem_printFile recorded operand
    (by rwa [files_after_record, dir_after_record])

/-- A line with `touch` makes a file, or it finds an entry and changes nothing, or it reports that it
cannot make one. -/
theorem touch_cases (session : Session) (palette : Palette)
    (calls : Text.words text = ["touch", operand]) :
    let path := session.dir.resolve operand
    (∃ made, session.files.createFile path = .ok made ∧
        session.Leaves palette text made session.dir) ∨
      (∃ result, session.files.find path .keep = .ok result ∧
        session.Leaves palette text session.files session.dir) ∨
      (∀ result, session.files.find path .keep ≠ .ok result) ∧
        (session.delivery (.whole palette text)).written ≠ [] ∧
        (session.afterLine (.whole palette text)).files = session.files := by
  intro path
  have accepted := acceptedCall?_of_words .touch calls rfl
  have ran := Command.run_touch_cases
    (session.after (.record (Invocation.normalized ⟨"touch", [operand]⟩))) operand
  simp only [files_after_record, dir_after_record] at ran
  rcases ran with ⟨made, line, done, runs⟩ | ⟨result, line, named, runs⟩ | ⟨failure, none, runs⟩
  · exact .inl ⟨made, done, by simpa using leaves_of_done accepted palette session runs rfl⟩
  · refine .inr (.inl ⟨result, named, ?_⟩)
    simpa using leaves_of_done accepted palette session runs rfl
  · obtain ⟨reported, left⟩ := reports_of_fail accepted palette session runs
    exact .inr (.inr ⟨none, reported, by rw [left, files_after_record]⟩)

/-- Where something is found after the line, it is read by `cat`. -/
theorem EnsuresEntry.of_find (palette : Palette) (calls : Text.words text = ["touch", operand])
    {loc : Location} {found : Entry}
    (there : (session.afterLine (.whole palette text)).files.find
      (session.dir.resolve operand) .follow = .ok (loc, found))
    (kept : session.files.isPresent (session.dir.resolve operand) = true →
      (session.afterLine (.whole palette text)).files = session.files)
    (made : session.files.isPresent (session.dir.resolve operand) = false →
      ∃ id, found = .file id ∧
        (session.afterLine (.whole palette text)).files.file id = ⟨[], false⟩) :
    session.EnsuresEntry palette text operand where
  reached := ⟨loc, found, there, ne_link_of_find_follow there⟩
  kept := kept
  made missing := by
    obtain ⟨id, rfl, empty⟩ := made missing
    exact ⟨loc, id, there, empty⟩
  readable next callsNext := by
    have accepted := acceptedCall?_of_words .touch calls rfl
    have sameDir : (session.afterLine (.whole palette text)).dir = session.dir :=
      dir_afterLine_of_ne_cd accepted (by simp)
    refine report_notMem_cat ?_ callsNext
    rw [sameDir]
    exact isPresent_eq_true_iff.2 ⟨loc, found, there⟩

/-- After a silent `touch` something is there, exactly if there is no link under the operand's path that
leads to nothing. -/
theorem ensuresEntry_iff (session : Session) (palette : Palette)
    (calls : Text.words text = ["touch", operand]) :
    ((session.delivery (.whole palette text)).written = [] →
        session.EnsuresEntry palette text operand) ↔
      ¬ session.files.IsDangling (session.dir.resolve operand) := by
  constructor
  · rintro ensures ⟨⟨loc, target, named⟩, missing⟩
    -- As a link is there, nothing is made and nothing is reported.
    rcases touch_cases session palette calls with ⟨made, done, -⟩ | ⟨_, -, leaves⟩ | ⟨none, -⟩
    · obtain ⟨fault, failed, -⟩ :=
        (exists_createFile_alreadyExists_iff _ _).2 ⟨loc, .link target, named⟩
      cases done.symm.trans failed
    · obtain ⟨dest, found, led, -⟩ := (ensures leaves.silent).reached
      rw [leaves.files] at led
      cases missing.symm.trans (isPresent_eq_true_iff.2 ⟨dest, found, led⟩)
    · exact none _ named
  · intro notDangling silent
    rcases touch_cases session palette calls with
      ⟨made, done, leaves⟩ | ⟨_, named, leaves⟩ | ⟨-, reported, -⟩
    · obtain ⟨name, parent, -, vacant, isAdded, there⟩ := find_of_createFile done
      have led := there .follow (by simp)
      refine .of_find palette calls (leaves.files ▸ led) (fun present => ?_) fun _ => ⟨_, rfl, ?_⟩
      · -- What has led to something before cannot lead to the new file.
        obtain ⟨loc, found, before⟩ := isPresent_eq_true_iff.1 present
        exact absurd before
          (find_ne_ok_of_made (adds_createFile done).toExtends led vacant _)
      · rw [leaves.files, isAdded]
        exact file_addFile_self
    · have present := isPresent_of_find_keep named notDangling
      obtain ⟨dest, other, led⟩ := isPresent_eq_true_iff.1 present
      refine .of_find palette calls (leaves.files ▸ led) (fun _ => leaves.files) fun missing => ?_
      cases missing.symm.trans present
    · exact absurd silent reported

end Session

/-- Where `l` is a link to a directory, a new file is made in there, and the link itself is left alone. -/
theorem ensuresEntry_linkedDirectory :
    let session : Session := ⟨linkedDirectory, ⟨.ofString "/", none⟩, {}⟩
    session.EnsuresEntry .plain "touch l/f" "l/f" ∧ session.EnsuresEntry .plain "touch l" "l" := by
  intro session
  constructor
  · have vacant : session.files.find (session.dir.resolve "l/f") .keep =
        .error (.refused .notFound) := by decide +kernel
    refine (Session.ensuresEntry_iff session .plain (by decide +kernel)).2 ?_ (by decide +kernel)
    rintro ⟨⟨loc, target, named⟩, -⟩
    cases vacant.symm.trans named
  · have present : session.files.isPresent (session.dir.resolve "l") = true := by decide +kernel
    refine (Session.ensuresEntry_iff session .plain (by decide +kernel)).2 ?_ (by decide +kernel)
    rintro ⟨-, missing⟩
    cases missing.symm.trans present

/-- A root with a link `l` that leads to nothing. -/
def danglingLink : FileSystem :=
  FileSystem.empty.add [] (Text.encode "l") (.link (.ofString "missing"))

/-- `touch` takes the link for a file that is there, and makes none. -/
theorem not_ensuresEntry_danglingLink :
    let session : Session := ⟨danglingLink, ⟨.ofString "/", none⟩, {}⟩
    Text.words "touch l" = ["touch", "l"] ∧
      (session.delivery (.whole .plain "touch l")).written = [] ∧
      ¬ session.EnsuresEntry .plain "touch l" "l" := by
  intro session
  have missing : (session.afterLine (.whole .plain "touch l")).files.isPresent
      (session.dir.resolve "l") = false := by decide +kernel
  refine ⟨by decide +kernel, by decide +kernel, fun ensures => ?_⟩
  obtain ⟨loc, found, led, -⟩ := ensures.reached
  cases missing.symm.trans (isPresent_eq_true_iff.2 ⟨loc, found, led⟩)

end LineShell
