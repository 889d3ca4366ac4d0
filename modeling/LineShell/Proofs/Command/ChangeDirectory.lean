import LineShell.Proofs.Output
import LineShell.Proofs.Resolve

/-!
# Going to a directory in several steps

`cd` enters the directory that its operand denotes, if one is there, and changes nothing else
(`run_cd_cases`). So where it goes can be read off the written paths: an operand that is cut in two at a
slash denotes what the second part denotes in the directory of the first one (`resolve_append`), also
where a tilde is replaced and where `..` leads up past the first part. Hence two lines that enter
directories one after the other can be put together into one (`cd_composes`).

All of this is about absolute working directories, and every working directory is absolute
(`canonical_afterMoves`).
-/

namespace LineShell

namespace WorkingDirectory

variable {dir : WorkingDirectory}

/-- An operand denotes the location where its path leads from that of the working directory. -/
theorem arrival_resolve (absolute : dir.current.isAbsolute = true) (operand : String) :
    (dir.resolve operand).arrival =
      (Path.expandHome dir.home operand).arrivalFrom dir.current.arrival := by
  rw [resolve, Path.arrival_normalize (Path.isAbsolute_join absolute _), ← Path.arrivalFrom_nil,
    Path.arrivalFrom_join, Path.arrivalFrom_nil]

/-- What stands behind a slash is denoted from the directory that the part before it denotes. -/
theorem resolve_append (absolute : dir.current.isAbsolute = true) {front rest : String}
    (notEmpty : front.toList ≠ []) (relative : rest.toList.head? ≠ some '/')
    (noTilde : rest.toList ≠ ['~'] ∧ ¬ ['~', '/'] <+: rest.toList) :
    dir.resolve (front ++ "/" ++ rest) =
      { dir with current := dir.resolve front }.resolve rest := by
  let entered : WorkingDirectory := { dir with current := dir.resolve front }
  have inFront : entered.current.isAbsolute = true :=
    (dir.isCanonical_resolve absolute front).absolute
  have arrives : (dir.resolve (front ++ "/" ++ rest)).arrival = (entered.resolve rest).arrival :=
    calc
      (dir.resolve (front ++ "/" ++ rest)).arrival
        = (Path.ofString rest).steps.foldl Path.advance (dir.resolve front).arrival := by
          rw [arrival_resolve absolute, arrival_resolve absolute, Path.arrivalFrom,
            Path.foldFrom_expandHome_append (fun _ => rfl) dir.home rest notEmpty]
          rfl
      _ = (Path.ofString rest).arrivalFrom (dir.resolve front).arrival := by
          rw [Path.arrivalFrom,
            Path.foldFrom_of_relative (Path.isAbsolute_ofString_of_head? relative)]
      _ = (entered.resolve rest).arrival := by
          rw [arrival_resolve inFront, Path.expandHome_eq_ofString (.inr noTilde)]
  -- Both paths are canonical, so that they are the same if they arrive at the same location.
  rw [(dir.isCanonical_resolve absolute _).eq_ofLocation, arrives]
  exact (entered.isCanonical_resolve inFront rest).eq_ofLocation.symm

end WorkingDirectory

namespace Command

variable {session : Session} {directory : Option String} {path : Path}

/-- The path that `cd` goes to: that of its operand or, without one, that of the home directory. -/
def destination? (dir : WorkingDirectory) : Option String → Option Path
  | some operand => some (dir.resolve operand)
  | none => dir.home.map fun home => (dir.current.join home).normalize

/-- `cd` enters the directory that it goes to, or it fails. -/
theorem run_cd_cases (session : Session) (absolute : session.dir.current.isAbsolute = true)
    (goes : destination? session.dir directory = some path) :
    (session.files.isDirectory path = true ∧ ∃ line, (cd directory).run session =
        .done [.enter { session.dir with current := path }, .note line]) ∨
      (¬ session.files.isDirectory path = true ∧
        ∃ failure, (cd directory).run session = .fail failure) := by
  have asked : ∃ target, enteredPath? session.dir directory = some target ∧
      (session.dir.current.join target).normalize = path := by
    cases directory with
    | none =>
      obtain ⟨home, known, rfl⟩ := Option.map_eq_some_iff.1 goes
      exact ⟨home, known, rfl⟩
    | some operand =>
      -- The path is made normal once more when it is entered, which leaves it as it is.
      obtain rfl : session.dir.resolve operand = path := Option.some.inj goes
      exact ⟨_, rfl, session.dir.normalize_join_of_isCanonical
        (session.dir.isCanonical_resolve absolute operand)⟩
  obtain ⟨target, named, rfl⟩ := asked
  rw [run, Run.ofWork, run_enterDirectory, named]
  simp only [WorkingDirectory.enter]
  split_ifs with there
  · exact .inl ⟨there, _, rfl⟩
  · exact .inr ⟨there, _, rfl⟩

end Command

namespace Session

/-- A line calls a command, and the command succeeds. -/
def Succeeds (session : Session) (text : String) : Prop :=
  ∃ invocation command flow, acceptedCall? text = some (invocation, command) ∧
    (command.run (session.after (.record invocation.normalized))).result = .ok flow

variable {session : Session} {text : String} {directory : Option String} {path : Path}
  {invocation : Invocation}

/-- A line with `cd` succeeds exactly if there is a directory to go to, and then that is the working
directory. Nothing else changes. -/
theorem succeeds_cd_iff (absolute : session.dir.current.isAbsolute = true) (palette : Palette)
    (accepted : acceptedCall? text = some (invocation, .cd directory))
    (goes : Command.destination? session.dir directory = some path) :
    (session.Succeeds text ↔ session.files.isDirectory path = true) ∧
      (session.afterLine (.whole palette text)).files = session.files ∧
      (session.afterLine (.whole palette text)).dir =
        if session.files.isDirectory path then { session.dir with current := path }
        else session.dir := by
  have succeeds_iff : session.Succeeds text ↔ ∃ flow,
      ((Command.cd directory).run (session.after (.record invocation.normalized))).result =
        .ok flow := by
    constructor
    · rintro ⟨_, _, flow, again, done⟩
      cases accepted.symm.trans again
      exact ⟨flow, done⟩
    · rintro ⟨flow, done⟩
      exact ⟨_, _, flow, accepted, done⟩
  rcases Command.run_cd_cases (session.after (.record invocation.normalized)) absolute goes with
    ⟨there, line, runs⟩ | ⟨missing, failure, runs⟩
  · rw [files_after_record] at there
    have leaves := leaves_of_done accepted palette session runs rfl
    rw [succeeds_iff, runs, leaves.files, leaves.dir, if_pos there]
    exact ⟨iff_of_true ⟨.next, rfl⟩ there, by simp, by simp⟩
  · rw [files_after_record] at missing
    obtain ⟨-, left⟩ := reports_of_fail accepted palette session runs
    rw [succeeds_iff, runs, left, if_neg missing]
    refine ⟨iff_of_false ?_ missing, by simp, by simp⟩
    rintro ⟨flow, done⟩
    cases done

/-- Two lines with `cd` that succeed one after the other do what one line does that has both operands
with a slash between them; a second operand that starts over, at the root or at the home directory,
is left out. Without an operand, `cd` does what it does with a tilde, if there is a home directory. -/
theorem cd_composes (absolute : session.dir.current.isAbsolute = true) (palette : Palette) :
    (∀ first second both front rest : String, Text.words first = ["cd", front] →
      Text.words second = ["cd", rest] → Text.words both = ["cd", front ++ "/" ++ rest] →
      rest.toList.head? ≠ some '/' → rest ≠ "~" → ¬ ['~', '/'] <+: rest.toList →
      session.Succeeds first → (session.afterLine (.whole palette first)).Succeeds second →
        session.Succeeds both ∧
          (session.afterLine (.whole palette both)).dir =
            ((session.afterLine (.whole palette first)).afterLine (.whole palette second)).dir) ∧
    (∀ plain tilde : String, Text.words plain = ["cd"] → Text.words tilde = ["cd", "~"] →
      session.dir.home ≠ none →
        (session.Succeeds plain ↔ session.Succeeds tilde) ∧
          (session.afterLine (.whole palette plain)).dir =
            (session.afterLine (.whole palette tilde)).dir) := by
  constructor
  · intro first second both front rest firstWords secondWords bothWords relative notTilde notBelow
      succeedsFirst succeedsSecond
    have notEmpty : front.toList ≠ [] :=
      (Text.of_mem_words (firstWords ▸ List.mem_cons_of_mem _ List.mem_cons_self)).1
    have notLone : rest.toList ≠ ['~'] := fun lone => notTilde (String.toList_injective lone)
    let entered : WorkingDirectory := { session.dir with current := session.dir.resolve front }
    have inFront : entered.current.isAbsolute = true :=
      (session.dir.isCanonical_resolve absolute front).absolute
    have denotes : session.dir.resolve (front ++ "/" ++ rest) = entered.resolve rest :=
      session.dir.resolve_append absolute notEmpty relative ⟨notLone, notBelow⟩
    -- The first line leaves the files alone and enters the directory of its operand, so the second
    -- one enters what the whole operand denotes at the start.
    obtain ⟨isFront, sameFiles, inDir⟩ :=
      succeeds_cd_iff absolute palette (acceptedCall?_of_words .cd firstWords rfl) rfl
    rw [if_pos (isFront.1 succeedsFirst)] at inDir
    obtain ⟨isRest, -, inNext⟩ := succeeds_cd_iff (by rw [inDir]; exact inFront) palette
      (acceptedCall?_of_words .cd secondWords rfl) rfl
    rw [sameFiles, inDir] at isRest inNext
    obtain ⟨isWhole, -, inWhole⟩ := succeeds_cd_iff absolute palette
      (acceptedCall?_of_words .cd bothWords rfl) (congrArg some denotes)
    have there : session.files.isDirectory (entered.resolve rest) = true := isRest.1 succeedsSecond
    refine ⟨isWhole.2 there, ?_⟩
    rw [inWhole, inNext, if_pos there, if_pos there]
  · intro plain tilde plainWords tildeWords known
    obtain ⟨home, known⟩ := Option.ne_none_iff_exists'.1 known
    have atHome : Command.destination? session.dir none =
        some (session.dir.current.join home).normalize := by
      rw [Command.destination?, known, Option.map_some]
    have atTilde : Command.destination? session.dir (some "~") =
        some (session.dir.current.join home).normalize := by
      rw [Command.destination?, WorkingDirectory.resolve, known, Path.expandHome_tilde rfl]
    have goesHome := succeeds_cd_iff absolute palette
      (acceptedCall?_of_words .cd plainWords rfl) atHome
    have goesTilde := succeeds_cd_iff absolute palette
      (acceptedCall?_of_words .cd tildeWords rfl) atTilde
    exact ⟨goesHome.1.trans goesTilde.1.symm, goesHome.2.2.trans goesTilde.2.2.symm⟩

end Session

/-- Where the home directory is `b`, in the directory of the session, `..` leads up out of it again. -/
theorem cd_composes_nestedDirectories :
    let session : Session :=
      ⟨FileSystem.nestedDirectories, ⟨.ofString "/a", some (.ofString "b")⟩, {}⟩
    session.dir.current.isAbsolute = true ∧ session.dir.home ≠ none ∧
      session.Succeeds "cd ~/" ∧ (session.afterLine (.whole .plain "cd ~/")).Succeeds "cd  ..//b/" ∧
      session.Succeeds "cd ~//..//b/" ∧
      (session.afterLine (.whole .plain "cd ~//..//b/")).dir =
        ((session.afterLine (.whole .plain "cd ~/")).afterLine (.whole .plain "cd  ..//b/")).dir ∧
      (session.afterLine (.whole .plain "cd")).dir = (session.afterLine (.whole .plain "cd ~")).dir := by
  intro session
  have absolute : session.dir.current.isAbsolute = true := by decide +kernel
  have known : session.dir.home ≠ none := by decide +kernel
  have first : Text.words "cd ~/" = ["cd", "~/"] := by decide +kernel
  have second : Text.words "cd  ..//b/" = ["cd", "..//b/"] := by decide +kernel
  have succeedsFirst : session.Succeeds "cd ~/" :=
    ⟨_, _, .next, Session.acceptedCall?_of_words .cd first rfl, by decide +kernel⟩
  have succeedsSecond : (session.afterLine (.whole .plain "cd ~/")).Succeeds "cd  ..//b/" :=
    ⟨_, _, .next, Session.acceptedCall?_of_words .cd second rfl, by decide +kernel⟩
  obtain ⟨together, home⟩ := Session.cd_composes absolute .plain
  obtain ⟨succeeds, sameDir⟩ := together "cd ~/" "cd  ..//b/" "cd ~//..//b/" "~/" "..//b/" first second
    (by decide +kernel) (by decide) (by decide) (by decide) succeedsFirst succeedsSecond
  have homeDir := (home "cd" "cd ~" (by decide +kernel) (by decide +kernel) known).2
  exact ⟨absolute, known, succeedsFirst, succeedsSecond, succeeds, sameDir, homeDir⟩

end LineShell
