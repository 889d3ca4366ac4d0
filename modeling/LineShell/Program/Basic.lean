import LineShell.Flags
import LineShell.Platform
import LineShell.Reply
import LineShell.Settings.Load

/-!
# The program

A run of the program as a whole: from arguments, environment, files and standard input to standard
output, messages, files and an exit code. After flags and settings have been read, the lines of the
input are given to a session one after the other, until one of them ends it or there are no more.
What the lines write makes up the output, apart from prompts, if the platform writes them, and notes
on interrupts and on the end of the input.
-/

namespace LineShell

open Palette (Environment)

/-- Why the program ends before its time. -/
inductive ProgramError
  /-- No line can be read. -/
  | reading (error : ReadError)
  /-- The output cannot be written. -/
  | output (fault : Fault)
  /-- There is no directory to start in. -/
  | noStart (path : Path)
  /-- There are no settings. -/
  | settings (error : SettingsError)
  /-- An argument is wrong. -/
  | flag (text : String)
  /-- Interrupts cannot be handled. -/
  | interrupts (text : String)
  deriving DecidableEq, Repr

namespace ProgramError

/-- How an error of the program is reported. -/
def message : ProgramError → String
  | reading error => s!"Readline error: {error.message}"
  | output fault => s!"IO error: {fault.message}"
  | noStart path => s!"Not a directory: {path.shown}"
  | settings error => s!"Config error: {error.message}"
  | flag text => s!"Flag error: {text}"
  | interrupts text => s!"Ctrl-C error: {text}"

/-- An error of the program with all that is known of it. -/
def detailed : ProgramError → String
  | reading error => s!"Readline({error.detailed})"
  | output fault => s!"Io({fault.detailed})"
  | noStart path => s!"InvalidStartDir({Text.quoteBytes path.bytes})"
  | settings error => s!"ConfigError({error.detailed})"
  | flag text => s!"FlagError({Text.quote text})"
  | interrupts text => s!"CtrlC({Text.quote text})"

end ProgramError

/-- What ends the program before its time. -/
inductive Stop
  /-- An error, which the program reports. -/
  | failed (error : ProgramError)
  /-- The end of the process while a line was read, with its last words. -/
  | aborted (report : String)
  deriving DecidableEq, Repr

namespace Stop

/-- The exit code of a program that ends in this way. -/
def exitCode : Stop → Nat
  | failed _ => 1
  | aborted _ => 101

/-- The last words of a program that ends in this way. -/
def report : Stop → String
  | failed error => s!"Error: {error.detailed}"
  | aborted report => report

end Stop

/-- The level of the log that flags ask for. -/
def Flags.logLevel (flags : Flags) : Level :=
  if flags.debug then .debug else if flags.quiet then .error else .warn

namespace Platform

/-- The colours of reports on a terminal, where the settings want them. -/
def palette (platform : Platform) (env : Environment) (settings : Settings) : Palette :=
  if settings.color then ⟨platform.styling env⟩ else .plain

/-- Gets ready to read lines. -/
def prepare (platform : Platform) (env : Environment) : Except ProgramError Unit := do
  (platform.openEditor env).mapError .reading
  platform.handleInterrupts.mapError .interrupts

end Platform

namespace Program

/-- What a run of the program is given. -/
structure Input where
  /-- The arguments of the command line. -/
  arguments : List String
  /-- The environment variables. -/
  environment : Environment
  /-- The directory that the program is started in. -/
  directory : Path
  /-- The standard input. -/
  stdin : Bytes
  /-- The files. -/
  files : FileSystem

/-- What a run of the program leaves behind. -/
structure Outcome where
  /-- The exit code. -/
  exitCode : Nat
  /-- The standard output. -/
  stdout : Bytes
  /-- The standard error. -/
  stderr : Bytes
  /-- The files. -/
  files : FileSystem

/-- A line of the log about the program. -/
def logLine (level : Level) (text : String) : LogLine :=
  ⟨level, .program, text⟩

/-- The directory that a session starts in: that of the settings if it is there, otherwise that of
the program. -/
def startDirectory (files : FileSystem) (directory : Path) (home : Option Path)
    (settings : Settings) : Except ProgramError WorkingDirectory × List LogLine :=
  let own := (WorkingDirectory.start files directory home directory).mapError .noStart
  match settings.startDirectory with
  | none => (own, [])
  | some text =>
    match WorkingDirectory.start files directory home (Path.expandHome home text) with
    | .ok dir => (.ok dir, [])
    | .error path =>
      (own, [logLine .warn s!"start_dir ignored: {(ProgramError.noStart path).message}"])

/-! ### Lines -/

/-- How the lines of the input are treated. -/
structure Mode where
  /-- The colours of reports. -/
  palette : Palette
  /-- The end of prompts. -/
  ending : String
  /-- What is written for a prompt. -/
  echo : String → Bytes
  /-- Whether there are no notes on interrupts and on the end of the input. -/
  quiet : Bool

/-- What has come of the lines of the input. -/
structure Transcript where
  /-- The output. -/
  written : Bytes
  /-- The log. -/
  log : List LogLine
  /-- The files. -/
  files : FileSystem
  /-- What ended the reading of lines early, if it ended so. -/
  stop : Option Stop

/-- A transcript of a program that stops before it reads any lines. -/
def Transcript.ofError (log : List LogLine) (files : FileSystem) (error : ProgramError) :
    Transcript :=
  ⟨[], log, files, some (.failed error)⟩

/-- Puts output and a log before what comes after them. -/
def Transcript.after (written : Bytes) (log : List LogLine) (rest : Transcript) : Transcript :=
  { rest with
    written := written ++ rest.written
    log := log ++ rest.log }

namespace Mode

/-- The prompt of a session. -/
def promptFor (mode : Mode) (session : Session) : Bytes :=
  mode.echo (session.dir.current.shown ++ mode.ending)

/-- A note, unless the program keeps quiet. -/
def note (mode : Mode) (text : String) : Bytes :=
  if mode.quiet then [] else Text.encodeLines [text]

end Mode

/-- Gives lines to a session until one of them ends it or there are no more. -/
def runLines (mode : Mode) : Session → List Reading → Transcript
  | session, [] => ⟨mode.promptFor session ++ mode.note "CTRL-D", [], session.files, none⟩
  | session, reading :: rest =>
    let prompt := mode.promptFor session
    match reading with
    | .line text =>
      let reply := session.reply text
      let delivery := deliver mode.palette .unlimited session reply.effects
      let later : Transcript := match reply.flow with
        | .exit => ⟨[], [logLine .debug "exit requested"], delivery.session.files, none⟩
        | .next => runLines mode delivery.session rest
      later.after (prompt ++ delivery.written) delivery.log
    | .refused .interrupted => (runLines mode session rest).after (prompt ++ mode.note "CTRL-C") []
    | .refused .endOfInput => ⟨prompt ++ mode.note "CTRL-D", [], session.files, none⟩
    | .refused (.failed fault) =>
      ⟨prompt, [], session.files, some (.failed (.reading (.failed fault)))⟩
    | .aborted report => ⟨prompt, [], session.files, some (.aborted report)⟩

/-! ### The start -/

namespace Input

variable (platform : Platform) (input : Input)

/-- The home directory. -/
def home : Option Path :=
  platform.home input.environment

/-- Where relative paths start. -/
def here : Location :=
  ((input.files.find input.directory .follow).toOption.map Prod.fst).getD []

/-- Loads the settings. -/
def load (flags : Flags) : Except SettingsError Settings × List LogLine :=
  Settings.load input.files input.here (input.home platform) flags.config

/-- Looks for the directory that the session starts in. -/
def start (settings : Settings) : Except ProgramError WorkingDirectory × List LogLine :=
  startDirectory input.files input.directory (input.home platform) settings

/-- How the lines of the input are treated. -/
def mode (flags : Flags) (settings : Settings) : Mode where
  palette := platform.palette input.environment settings
  ending := settings.prompt
  echo := platform.prompt input.environment
  quiet := flags.quiet

/-- What comes of the input with some flags. -/
def transcript (flags : Flags) : Transcript :=
  let files := input.files
  let (loaded, loadLog) := input.load platform flags
  match loaded with
  | .error error => .ofError loadLog files (.settings error)
  | .ok settings =>
    let (started, startLog) := input.start platform settings
    let log := loadLog ++ startLog
    match started with
    | .error error => .ofError log files error
    | .ok dir =>
      match platform.prepare input.environment with
      | .error error => .ofError log files error
      | .ok () =>
        let readings := platform.readings input.environment input.stdin
        (runLines (input.mode platform flags settings) ⟨files, dir, {}⟩ readings).after [] log

end Input

/-- The end of a run with a transcript, given what is shown of its log. -/
def Transcript.outcome (transcript : Transcript) (shown : Bytes) : Outcome where
  exitCode := transcript.stop.elim 0 Stop.exitCode
  stdout := transcript.written
  stderr := shown ++ Text.encodeLines (transcript.stop.toList.map Stop.report)
  files := transcript.files

/-- The name of the program and its version. -/
def version : String := "burrow 0.1.0"

/-- Runs the program on a platform. -/
def runOn (platform : Platform) (input : Input) : Outcome :=
  match Flags.parse {} input.arguments with
  | (_, some error) => (Transcript.ofError [] input.files (.flag error.message)).outcome []
  | (flags, none) =>
    if flags.help then ⟨0, Text.encodeLines Flags.helpText, [], input.files⟩
    else if flags.version then ⟨0, Text.encodeLines [version], [], input.files⟩
    else
      let transcript := input.transcript platform flags
      transcript.outcome (platform.log flags.logLevel input.environment transcript.log)

end Program

end LineShell
