import LineShell.Program
import LineShell.Proofs.Exit
import LineShell.Proofs.Flags
import LineShell.Proofs.Output
import LineShell.Proofs.Platform
import LineShell.Proofs.Resolve

/-!
# The program as a session

The program reads flags and settings, opens a session and gives it the lines of the input. What
comes out is what the session writes, line by line up to the first one that ends it, and a note if
none does (`runLines_eq`). Nothing else is written, the files are those that the session leaves
behind, and what is read after the end has no effect (`runLines_append_last`). How much the program
tells about itself makes no difference but for that note (`shortens_runOn`).

The main result is `followsSession_run`, for every platform that meets the two assumptions of
`LineShell.Proofs.Platform`.
-/

namespace LineShell

open Platform (AgreeButForFilter)

namespace Session

/-- Whether a line ends the session that reads it: it is the one word `exit`. -/
def isLast (text : String) : Bool :=
  Text.words text = ["exit"]

end Session

namespace Program

/-- The lines that a session reads of some texts: those up to the first that ends it, or all of
them. Their output is taken as it comes. -/
def linesRead (palette : Palette) (texts : List String) : List Line :=
  (texts.take (texts.findIdx Session.isLast + 1)).map fun text => ⟨text, palette, .unlimited⟩

/-- The note that tells of the end of the input. -/
def endNote : Bytes :=
  Text.encode "CTRL-D\n"

/-- The note after some texts, unless one of them ends the session or the program keeps quiet. -/
def farewell (quiet : Bool) (texts : List String) : Bytes :=
  if quiet || texts.any Session.isLast then [] else endNote

/-! ## Lines -/

section Lines

variable {mode : Mode} {session : Session} {palette : Palette} {text : String}
  {front rest other : List Reading}

theorem linesRead_cons (palette : Palette) (text : String) (texts : List String) :
    linesRead palette (text :: texts) =
      ⟨text, palette, .unlimited⟩ ::
        if Session.isLast text then [] else linesRead palette texts := by
  unfold linesRead
  rw [List.findIdx_cons]
  cases Session.isLast text with
  | true => rfl
  | false => rfl

theorem farewell_cons (quiet : Bool) (text : String) (texts : List String) :
    farewell quiet (text :: texts) = if Session.isLast text then [] else farewell quiet texts := by
  rw [farewell, List.any_cons]
  cases Session.isLast text with
  | true => simp
  | false => rfl

theorem farewell_nil (quiet : Bool) : farewell quiet [] = if quiet then [] else endNote := by
  rw [farewell, List.any_nil, Bool.or_false]

theorem note_end_eq (mode : Mode) : mode.note "CTRL-D" = farewell mode.quiet [] := by
  rw [farewell_nil]
  rfl

/-- What comes of a line and of those after it, which are read unless the line ends the session. -/
theorem runLines_line (mode : Mode) (session : Session) (text : String) (rest : List Reading) :
    runLines mode session (.line text :: rest) =
      let line : Line := ⟨text, mode.palette, .unlimited⟩
      let later : Transcript :=
        if Session.isLast text then
          ⟨[], [logLine .debug "exit requested"], (session.afterLine line).files, none⟩
        else runLines mode (session.afterLine line) rest
      later.after (mode.promptFor session ++ (session.delivery line).written)
        (session.delivery line).log := by
  rw [runLines]
  -- The session goes on unless the line is the one word that ends it.
  by_cases last : Text.words text = ["exit"]
  · have ends : Session.isLast text = true := decide_eq_true last
    simp only [Session.flow_reply_eq_exit_iff.2 last, ends, if_true]
    rfl
  · have goesOn : Session.isLast text = false := decide_eq_false last
    have next : (session.reply text).flow = .next := by
      cases follows : (session.reply text).flow with
      | next => rfl
      | exit => exact absurd (Session.flow_reply_eq_exit_iff.1 follows) last
    simp only [next, goesOn, Bool.false_eq_true, if_false]
    rfl

/-- Without prompts, giving lines to a session comes to what the session makes of those that it
reads. -/
theorem runLines_eq (noPrompt : ∀ text, mode.echo text = []) (texts : List String)
    (session : Session) :
    let read := linesRead mode.palette texts
    let transcript := runLines mode session (texts.map .line)
    transcript.written = session.output read ++ farewell mode.quiet texts ∧
      transcript.files = (session.afterLines read).files ∧ transcript.stop = none := by
  have silent : ∀ session : Session, mode.promptFor session = [] := fun session => noPrompt _
  induction texts generalizing session with
  | nil =>
    refine ⟨?_, rfl, rfl⟩
    simp [runLines, silent, linesRead, Session.output, note_end_eq]
  | cons text texts ih =>
    rw [List.map_cons, runLines_line, linesRead_cons, farewell_cons, silent]
    cases Session.isLast text with
    | true =>
      refine ⟨?_, rfl, rfl⟩
      simp [Transcript.after, Session.output]
    | false =>
      -- The rest is read in the session that the line leaves behind.
      obtain ⟨written, files, stop⟩ := ih (session.afterLine ⟨text, mode.palette, .unlimited⟩)
      refine ⟨?_, files, stop⟩
      simp only [Bool.false_eq_true, if_false, Transcript.after, List.nil_append, written,
        Session.output, List.append_assoc]

/-- After a line that ends the session it makes no difference what comes. -/
theorem runLines_append_last (last : Session.isLast text = true) (mode : Mode) (session : Session) :
    runLines mode session (front ++ .line text :: rest) =
      runLines mode session (front ++ .line text :: other) := by
  induction front generalizing session with
  | nil => rw [List.nil_append, List.nil_append, runLines_line, runLines_line, last]; rfl
  | cons first front ih =>
    rw [List.cons_append, List.cons_append]
    cases first with
    | line earlier =>
      rw [runLines_line, runLines_line]
      simp only [ih]
    | refused why =>
      cases why with
      | interrupted => rw [runLines, runLines, ih]
      | endOfInput | failed _ => rfl
    | aborted report => rfl

end Lines

/-! ## The note -/

/-- An outcome differs from another one by no more than the note, which it may lack. -/
structure Outcome.Shortens (short long : Outcome) : Prop where
  /-- The exit code is the same. -/
  exitCode : short.exitCode = long.exitCode
  /-- The output is the same, or the other one ends with the note. -/
  stdout : short.stdout = long.stdout ∨ long.stdout = short.stdout ++ endNote
  /-- The files are the same. -/
  files : short.files = long.files

theorem Outcome.Shortens.refl (transcript : Transcript) (shown longShown : Bytes) :
    (transcript.outcome shown).Shortens (transcript.outcome longShown) :=
  ⟨rfl, .inl rfl, rfl⟩

/-- What comes before both makes no difference. -/
theorem Outcome.Shortens.after {short long : Transcript} {shown longShown : Bytes}
    (h : (short.outcome shown).Shortens (long.outcome longShown)) (written : Bytes)
    (log longLog : List LogLine) :
    ((short.after written log).outcome shown).Shortens
      ((long.after written longLog).outcome longShown) := by
  obtain ⟨exitCode, stdout, files⟩ := h
  refine ⟨exitCode, ?_, files⟩
  simp only [Transcript.outcome, Transcript.after] at stdout ⊢
  rcases stdout with same | longer
  · exact .inl (by rw [same])
  · exact .inr (by rw [longer, List.append_assoc])

/-- Keeping quiet leaves out the note at most. -/
theorem shortens_runLines (mode : Mode) {quieter : Bool} (h : mode.quiet = true → quieter = true)
    (session : Session) (texts : List String) (shown longShown : Bytes) :
    ((runLines { mode with quiet := quieter } session (texts.map .line)).outcome shown).Shortens
      ((runLines mode session (texts.map .line)).outcome longShown) := by
  induction texts generalizing session with
  | nil =>
    simp only [List.map_nil, runLines, note_end_eq, farewell_nil]
    cases quieter with
    | false =>
      have loud : mode.quiet = false :=
        Bool.eq_false_iff.2 fun isQuiet => Bool.noConfusion (h isQuiet)
      rw [loud]
      exact .refl _ _ _
    | true =>
      cases mode.quiet with
      | true => exact .refl _ _ _
      | false =>
        refine ⟨rfl, .inr ?_, rfl⟩
        simp [Transcript.outcome, Mode.promptFor]
  | cons text texts ih =>
    rw [List.map_cons, runLines_line, runLines_line]
    -- What the line itself does is the same, so that only what follows it can differ.
    refine Outcome.Shortens.after ?_ _ _ _
    cases Session.isLast text with
    | true => exact .refl _ _ _
    | false => exact ih _

/-! ## The start -/

/-- The session that is opened with some settings. -/
def Input.opening (platform : Platform) (input : Input) (settings : Settings) :
    Except ProgramError Session :=
  (input.start platform settings).1.map fun dir => ⟨input.files, dir, {}⟩

theorem exists_opening {input : Input} (canonical : input.directory.IsCanonical)
    (there : input.files.isDirectory input.directory = true) (platform : Platform)
    (settings : Settings) : ∃ session, input.opening platform settings = .ok session := by
  have own : WorkingDirectory.start input.files input.directory (input.home platform)
      input.directory = .ok ⟨input.directory, input.home platform⟩ := by
    rw [WorkingDirectory.start, Path.join, if_pos canonical.absolute, canonical.normal]
    exact if_pos there
  unfold Input.opening Input.start startDirectory
  simp only [own]
  cases settings.startDirectory with
  | none => exact ⟨_, rfl⟩
  | some written =>
    simp only
    -- Without the directory of the settings, the program starts where it is.
    cases WorkingDirectory.start input.files input.directory (input.home platform)
        (Path.expandHome (input.home platform) written) with
    | ok dir => exact ⟨_, rfl⟩
    | error path => exact ⟨_, rfl⟩

/-- An input that gets as far as its lines. -/
structure Input.IsAccepted (platform : Platform) (input : Input) (flags : Flags)
    (settings : Settings) : Prop where
  /-- The arguments are flags. -/
  arguments : Flags.parse {} input.arguments = (flags, none)
  /-- They ask for lines to be read. -/
  noHelp : flags.help = false
  noVersion : flags.version = false
  /-- The settings are loaded. -/
  loads : (input.load platform flags).1 = .ok settings

/-- The standard input is a text in which nothing is taken back. -/
structure Input.Holds (input : Input) (text : String) : Prop where
  stdin : input.stdin = Text.encode text
  noBackspace : Text.backspace ∉ text.toList

/-- An input that tells of more or less than another one: with some flags for that among its
arguments, and with any filter for the log. -/
structure Input.Retells (other input : Input) : Prop where
  /-- The flags are added where an argument ends. -/
  arguments : ∃ front added back, input.arguments = front ++ back ∧
    (Flags.parse {} front).2 = none ∧ added ⊆ Flags.tellingArguments ∧
    other.arguments = front ++ added ++ back
  /-- All but one of the variables have the same values. -/
  environment : AgreeButForFilter input.environment other.environment
  /-- All else is the same. -/
  directory : other.directory = input.directory
  stdin : other.stdin = input.stdin
  files : other.files = input.files

/-- The outcome is what a session makes of some texts that are its lines. -/
structure Outcome.Follows (outcome : Outcome) (session : Session) (palette : Palette) (quiet : Bool)
    (texts : List String) : Prop where
  /-- There is no error. -/
  exitCode : outcome.exitCode = 0
  /-- The output is that of the lines that are read, and a note if none of them ends the session. -/
  stdout : outcome.stdout = session.output (linesRead palette texts) ++ farewell quiet texts
  /-- The files are those after the lines that are read. -/
  files : outcome.files = (session.afterLines (linesRead palette texts)).files

/-- The run of the program on a platform is that of a session. -/
structure Input.FollowsSession (platform : Platform) (input : Input) (flags : Flags)
    (settings : Settings) (text : String) : Prop where
  /-- A session is opened if the program is started in a directory. -/
  opens : input.directory.IsCanonical → input.files.isDirectory input.directory = true →
    ∃ session, input.opening platform settings = .ok session
  /-- What the session makes of the lines of the text is what the program makes of them. -/
  follows : ∀ session, input.opening platform settings = .ok session →
    (runOn platform input).Follows session (platform.palette input.environment settings) flags.quiet
      (Text.textLines text)
  /-- After a line that ends the session anything can be read instead of the other lines. -/
  ends : ∀ front last rest later stdin, Text.textLines text = front ++ last :: rest →
    Session.isLast last = true →
    platform.readings input.environment stdin = front.map .line ++ .line last :: later →
    ∃ stderr, runOn platform { input with stdin } = { runOn platform input with stderr }
  /-- Telling of more or less makes no difference but for the note. -/
  retold : ∀ other : Input, other.Retells input →
    (runOn platform other).Shortens (runOn platform input)

/-- The lines that are read are those of the text. -/
theorem Input.Holds.readings_eq {platform : Platform} {input : Input} {text : String}
    (holds : input.Holds text) (reads : platform.ReadsLines input.environment) :
    platform.readings input.environment input.stdin = (Text.textLines text).map .line := by
  rw [holds.stdin, reads.readings_encode text holds.noBackspace]

section Accepted

variable {platform : Platform} {input : Input} {flags : Flags} {settings : Settings}
  {session : Session} {text : String} (accepted : input.IsAccepted platform flags settings)

include accepted

/-- Apart from what is shown of the log, a run is its transcript. -/
theorem exists_runOn_eq :
    ∃ shown, runOn platform input = (input.transcript platform flags).outcome shown := by
  rw [runOn, accepted.arguments]
  simp only [accepted.noHelp, accepted.noVersion]
  exact ⟨_, rfl⟩

/-- Another standard input is accepted as well. -/
theorem Input.IsAccepted.withStdin (stdin : Bytes) :
    Input.IsAccepted platform { input with stdin } flags settings :=
  ⟨accepted.arguments, accepted.noHelp, accepted.noVersion, accepted.loads⟩

variable (reads : platform.ReadsLines input.environment)

include reads

/-- The transcript is that of what is read, if there is a directory to start in. -/
theorem transcript_eq :
    input.transcript platform flags =
      let log := (input.load platform flags).2 ++ (input.start platform settings).2
      match input.opening platform settings with
      | .error error => .ofError log input.files error
      | .ok session =>
        (runLines (input.mode platform flags settings) session
          (platform.readings input.environment input.stdin)).after [] log := by
  have prepared : platform.prepare input.environment = .ok () := by
    rw [Platform.prepare, reads.opens, reads.handles]
    rfl
  unfold Input.transcript Input.opening
  simp only [accepted.loads, prepared]
  cases (input.start platform settings).1 with
  | error error => rfl
  | ok dir => rfl

/-- After a line that ends the session it makes no difference what is read. -/
theorem exists_runOn_eq_of_last {front : List String} {last : String} {later others : List Reading}
    {stdin : Bytes} (isLast : Session.isLast last = true)
    (lines : platform.readings input.environment input.stdin =
      front.map .line ++ .line last :: others)
    (otherLines : platform.readings input.environment stdin =
      front.map .line ++ .line last :: later) :
    ∃ stderr, runOn platform { input with stdin } = { runOn platform input with stderr } := by
  obtain ⟨shown, ran⟩ := exists_runOn_eq accepted
  obtain ⟨otherShown, otherRan⟩ := exists_runOn_eq (accepted.withStdin stdin)
  have sameLines : ∀ mode session,
      runLines mode session (platform.readings input.environment stdin) =
        runLines mode session (platform.readings input.environment input.stdin) := by
    intro mode session
    rw [lines, otherLines]
    exact runLines_append_last isLast mode session
  have same : Input.transcript platform { input with stdin } flags =
      input.transcript platform flags := by
    rw [transcript_eq accepted reads, transcript_eq (accepted.withStdin stdin) reads]
    simp only [sameLines]
    rfl
  rw [otherRan, same, ran]
  exact ⟨_, rfl⟩

variable (holds : input.Holds text)

include holds

theorem follows_runOn (opened : input.opening platform settings = .ok session) :
    (runOn platform input).Follows session (platform.palette input.environment settings) flags.quiet
      (Text.textLines text) := by
  obtain ⟨shown, ran⟩ := exists_runOn_eq accepted
  have noPrompt : ∀ text, (input.mode platform flags settings).echo text = [] := reads.noPrompt
  obtain ⟨written, files, stop⟩ := runLines_eq noPrompt (Text.textLines text) session
  rw [ran, transcript_eq accepted reads, opened, holds.readings_eq reads]
  simp only [Transcript.outcome, Transcript.after, List.nil_append, written, files, stop]
  exact ⟨rfl, rfl, rfl⟩

/-- Telling of more or less leaves out the note at most. -/
theorem shortens_runOn (filters : platform.FiltersLogOnly) {other : Input}
    (retells : other.Retells input) : (runOn platform other).Shortens (runOn platform input) := by
  obtain ⟨front, added, back, written, ends, telling, inserted⟩ := retells.arguments
  have ⟨_, agree, directory, stdin, files⟩ := retells
  obtain ⟨covers, sameError⟩ := Flags.parse_insert telling ends back
  rw [← written, ← inserted, accepted.arguments] at covers sameError
  -- The other arguments are flags too, and the same settings are loaded.
  generalize parsed : Flags.parse {} other.arguments = more at covers sameError
  obtain ⟨more, _⟩ := more
  cases sameError
  have home : other.home platform = input.home platform := by
    rw [Input.home, Input.home, filters.home_eq _ _ agree]
  have load : other.load platform more = input.load platform flags := by
    rw [Input.load, Input.load, Input.here, Input.here, home, files, directory, covers.config]
  have otherAccepted : other.IsAccepted platform more settings :=
    ⟨parsed, covers.help.trans accepted.noHelp, covers.version.trans accepted.noVersion,
      by rw [load, accepted.loads]⟩
  -- So the same session is opened, which reads the same lines.
  have start : other.start platform = input.start platform := by
    funext settings
    rw [Input.start, Input.start, home, files, directory]
  have opening : other.opening platform settings = input.opening platform settings := by
    rw [Input.opening, Input.opening, start, files]
  have readings : platform.readings other.environment other.stdin =
      (Text.textLines text).map .line := by
    rw [filters.readings_eq _ _ agree, stdin, holds.readings_eq reads]
  have mode : other.mode platform more settings =
      { input.mode platform flags settings with quiet := more.quiet } := by
    simp only [Input.mode, Platform.palette, filters.styling_eq _ _ agree,
      filters.prompt_eq _ _ agree]
  obtain ⟨shown, ran⟩ := exists_runOn_eq accepted
  obtain ⟨otherShown, otherRan⟩ := exists_runOn_eq otherAccepted
  rw [ran, otherRan, transcript_eq accepted reads,
    transcript_eq otherAccepted (reads.of_agree filters agree), opening, readings,
    holds.readings_eq reads, files]
  cases input.opening platform settings with
  | error error => exact ⟨rfl, .inl rfl, rfl⟩
  | ok session =>
    simp only [mode]
    exact (shortens_runLines (input.mode platform flags settings) covers.quiet session _ _ _).after
      _ _ _

/-- On a platform that reads lines as they are, the program is what its session is: its output and
files come from the lines of the input, up to the first that ends the session, and from nothing
else. Where nothing but the log depends on the filter for it, telling of more or less makes no
difference but for the note. -/
theorem followsSession_run (filters : platform.FiltersLogOnly) :
    input.FollowsSession platform flags settings text where
  opens canonical there := exists_opening canonical there platform settings
  follows _ opened := follows_runOn accepted reads holds opened
  ends front last rest _ _ lines isLast otherLines := by
    have read : platform.readings input.environment input.stdin =
        front.map .line ++ .line last :: rest.map .line := by
      rw [holds.readings_eq reads, lines, List.map_append, List.map_cons]
    exact exists_runOn_eq_of_last accepted reads isLast read otherLines
  retold _ retells := shortens_runOn accepted reads holds filters retells

end Accepted

theorem followsSession_run_nestedDirectories :
    let text := "cd\nmkdir c\npwd\n exit \nrmdir b\n"
    let input : Input :=
      { arguments := ["-d"]
        environment := fun name => if name = "HOME" then some "/a" else none
        directory := .ofString "/a/b"
        stdin := Text.encode text
        files := FileSystem.nestedDirectories }
    let flags : Flags := { debug := true }
    let platform := Platform.unix none
    (input.IsAccepted platform flags {} ∧ platform.ReadsLines input.environment ∧
        input.Holds text ∧ platform.FiltersLogOnly) ∧
      input.FollowsSession platform flags {} text ∧
      (runOn platform input).stdout = Text.encode "/a\n" ∧
      (runOn platform input).exitCode = 0 ∧
      (runOn platform { input with arguments := ["-d", "-q"] }).files =
        (runOn platform input).files := by
  intro text input flags platform
  have accepted : input.IsAccepted platform flags {} :=
    ⟨by decide, rfl, rfl, by decide +kernel⟩
  have reads : platform.ReadsLines input.environment := Platform.readsLines_unix (by decide +kernel)
  have holds : input.Holds text := ⟨rfl, by decide +kernel⟩
  have filters : platform.FiltersLogOnly := Platform.filtersLogOnly_unix
  have follows : input.FollowsSession platform flags {} text :=
    followsSession_run accepted reads holds filters
  have opened : input.opening platform {} =
      .ok ⟨FileSystem.nestedDirectories, ⟨.ofString "/a/b", some (.ofString "/a")⟩, {}⟩ := by
    have started : WorkingDirectory.start input.files input.directory (input.home platform)
        input.directory = .ok ⟨.ofString "/a/b", some (.ofString "/a")⟩ := by
      decide +kernel
    rw [Input.opening, Input.start, startDirectory]
    simp only [started]
    rfl
  have run := follows.follows _ opened
  refine ⟨⟨accepted, reads, holds, filters⟩, follows, ?_, run.exitCode, ?_⟩
  · rw [run.stdout]
    decide +kernel
  · have retells : Input.Retells { input with arguments := ["-d", "-q"] } input :=
      ⟨⟨["-d"], ["-q"], [], rfl, rfl, by decide, rfl⟩, fun _ _ => rfl, rfl, rfl, rfl⟩
    exact (follows.retold _ retells).files

end Program

end LineShell
