import LineShell.Proofs.FileSystem.NormalPath
import LineShell.Proofs.History
import LineShell.Proofs.Path.Home
import LineShell.Proofs.Path.Normal

/-!
# What paths the files are asked for

The working directory hands two kinds of paths to the file system: its own, and those that it makes
of operands. All of them are canonical (`Path.IsCanonical`): they start at the root, go down by
names only and are their own normal forms. This is so at the start and stays so, whatever lines are
read, whatever directories are entered and however the files change meanwhile
(`canonical_afterMoves`); it takes no look at the home directory, which can be any path.
-/

namespace LineShell

namespace Path

/-- A path from the root down by names, as it is written by every normal form of an absolute path.
-/
structure IsCanonical (path : Path) : Prop where
  /-- It starts at the root. -/
  absolute : path.isAbsolute = true
  /-- Names follow, with slashes between them, and none of them is empty, `.` or `..`. -/
  spelled : ∃ loc : Location, (∀ name ∈ loc, Name.IsStep name) ∧ path = .ofLocation loc
  /-- It is its own normal form. -/
  normal : path.normalize = path

variable {path : Path}

theorem isCanonical_normalize (absolute : path.isAbsolute = true) : path.normalize.IsCanonical := by
  obtain ⟨loc, areSteps, spelled⟩ := exists_normalize_eq_ofLocation absolute
  rw [spelled]
  exact ⟨isAbsolute_ofLocation loc, ⟨loc, areSteps, rfl⟩, normalize_ofLocation areSteps⟩

/-- A canonical path spells where its steps arrive. -/
theorem IsCanonical.eq_ofLocation (canonical : path.IsCanonical) : path = .ofLocation path.arrival := by
  rw [← normalize_eq_ofLocation canonical.absolute, canonical.normal]

end Path

namespace WorkingDirectory

variable {dir : WorkingDirectory} {text : String}

theorem isCanonical_resolve (absolute : dir.current.isAbsolute = true) (operand : String) :
    (dir.resolve operand).IsCanonical :=
  Path.isCanonical_normalize (Path.isAbsolute_join absolute _)

/-- A canonical path is the same from every working directory. -/
theorem normalize_join_of_isCanonical {path : Path} (canonical : path.IsCanonical) :
    (dir.current.join path).normalize = path := by
  rw [Path.join, if_pos canonical.absolute, canonical.normal]

/-- A canonical path that is an operand denotes itself. -/
theorem resolve_of_isCanonical (canonical : (Path.ofString text).IsCanonical) :
    dir.resolve text = .ofString text := by
  rw [resolve, Path.expandHome_of_isAbsolute dir.home canonical.absolute,
    normalize_join_of_isCanonical canonical]

end WorkingDirectory

/-- What can happen to the working directory of a session. -/
inductive Move
  /-- The session lives on. -/
  | turn (turn : Turn)
  /-- A directory is entered if it is there. -/
  | enter (path : Path)

namespace Session

/-- The session after a move. -/
def afterMove (session : Session) : Move → Session
  | .turn turn => session.afterTurn turn
  | .enter path =>
    match session.dir.enter session.files path with
    | .ok dir => { session with dir }
    | .error _ => session

/-- The session after some moves. -/
def afterMoves (session : Session) (moves : List Move) : Session :=
  moves.foldl afterMove session

variable {session : Session}

theorem isCanonical_afterLine (canonical : session.dir.current.IsCanonical) (line : Line) :
    (session.afterLine line).dir.current.IsCanonical := by
  cases accepted : acceptedCall? line.text with
  | none => rwa [afterLine_of_refused accepted]
  | some call =>
    obtain ⟨invocation, command⟩ := call
    refine dir_afterLine (P := fun dir => dir.current.IsCanonical) accepted canonical
      fun later does => ?_
    -- A command enters the normal form of a path that starts at the working directory.
    cases does with
    | enter _ => exact Path.isCanonical_normalize (Path.isAbsolute_join canonical.absolute _)

theorem isCanonical_afterMove (canonical : session.dir.current.IsCanonical) (move : Move) :
    (session.afterMove move).dir.current.IsCanonical := by
  cases move with
  | turn turn =>
    cases turn with
    | read line => exact isCanonical_afterLine canonical line
    | change files => exact canonical
  | enter path =>
    rw [afterMove]
    cases entered : session.dir.enter session.files path with
    | error fault => exact canonical
    | ok dir =>
      obtain ⟨-, rfl⟩ := Command.exists_of_enter entered
      exact Path.isCanonical_normalize (Path.isAbsolute_join canonical.absolute path)

theorem isCanonical_afterMoves (canonical : session.dir.current.IsCanonical) (moves : List Move) :
    (session.afterMoves moves).dir.current.IsCanonical := by
  induction moves generalizing session with
  | nil => exact canonical
  | cons move rest ih => exact ih (isCanonical_afterMove canonical move)

/-- From a start in a process with an absolute directory, the working directory is always canonical,
and so are all paths that operands denote. Such a path is an operand that denotes itself, if it can
be written as one. -/
theorem canonical_afterMoves {fs : FileSystem} {process path : Path} {home : Option Path}
    {dir : WorkingDirectory} (absolute : process.isAbsolute = true)
    (started : WorkingDirectory.start fs process home path = .ok dir) (history : History)
    (moves : List Move) :
    let later := (⟨fs, dir, history⟩ : Session).afterMoves moves
    later.dir.current.IsCanonical ∧
      ∀ operand : String, (later.dir.resolve operand).IsCanonical ∧
        ∀ text : String, Path.ofString text = later.dir.resolve operand →
          later.dir.resolve text = later.dir.resolve operand := by
  intro later
  have atStart : dir.current.IsCanonical := by
    unfold WorkingDirectory.start at started
    simp only at started
    split_ifs at started
    cases started
    exact Path.isCanonical_normalize (Path.isAbsolute_join absolute path)
  have canonical : later.dir.current.IsCanonical := isCanonical_afterMoves atStart moves
  refine ⟨canonical, fun operand => ?_⟩
  have resolved := later.dir.isCanonical_resolve canonical.absolute operand
  refine ⟨resolved, fun text written => ?_⟩
  rw [← written] at resolved
  rw [WorkingDirectory.resolve_of_isCanonical resolved, written]

theorem canonical_afterMoves_nestedDirectories :
    let home : Path := .ofString "a/../b"
    let moves : List Move :=
      [.turn (.read ⟨"cd", .plain, .unlimited⟩), .enter (.ofString "../../a/."),
        .turn (.change .empty)]
    let session : Session :=
      ⟨FileSystem.nestedDirectories, ⟨.ofString "/a", some home⟩, {}⟩
    (Path.ofString "/a/b").isAbsolute = true ∧
      WorkingDirectory.start FileSystem.nestedDirectories (.ofString "/a/b") (some home)
        (.ofString "..//.") = .ok session.dir ∧
      (session.afterMoves moves).dir.current = .ofString "/a" ∧
      ((session.afterMoves moves).dir.resolve "~/../../x").IsCanonical := by
  intro home moves session
  have started : WorkingDirectory.start FileSystem.nestedDirectories (.ofString "/a/b") (some home)
      (.ofString "..//.") = .ok session.dir := by
    decide +kernel
  have canonical := canonical_afterMoves (by decide) started {} moves
  exact ⟨by decide, started, by decide +kernel, (canonical.2 "~/../../x").1⟩

end Session

end LineShell
